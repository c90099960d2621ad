import Mathlib.Data.List.Forall2

/-!
# Lists and options side by side

Two lists or two options with related members are searched with the same outcome, when the questions
asked of related members have the same answers.
-/

namespace RecordQuery

variable {α β : Type} {R : α → β → Prop}

theorem forall₂_pairs {α' β' : Type} {T : α' → β' → Prop} :
    ∀ {xs : List (α × α')} {ys : List (β × β')},
      List.Forall₂ R (xs.map Prod.fst) (ys.map Prod.fst) →
      List.Forall₂ T (xs.map Prod.snd) (ys.map Prod.snd) →
      List.Forall₂ (fun x y => R x.1 y.1 ∧ T x.2 y.2) xs ys
  | [], [], _, _ => .nil
  | _ :: _, _ :: _, .cons h hs, .cons k ks => .cons ⟨h, k⟩ (forall₂_pairs hs ks)

theorem any_eq_of_forall₂ {xs : List α} {ys : List β} (h : List.Forall₂ R xs ys) {f : α → Bool}
    {g : β → Bool} (hfg : ∀ x y, R x y → f x = g y) : xs.any f = ys.any g := by
  induction h with
  | nil => rfl
  | cons hxy _ ih => rw [List.any_cons, List.any_cons, hfg _ _ hxy, ih]

theorem all_eq_of_forall₂ {xs : List α} {ys : List β} (h : List.Forall₂ R xs ys) {f : α → Bool}
    {g : β → Bool} (hfg : ∀ x y, R x y → f x = g y) : xs.all f = ys.all g := by
  induction h with
  | nil => rfl
  | cons hxy _ ih => rw [List.all_cons, List.all_cons, hfg _ _ hxy, ih]

theorem bind_eq_of_rel {γ : Type} {x : Option α} {y : Option β} (h : Option.Rel R x y)
    {f : α → Option γ} {g : β → Option γ} (hfg : ∀ x y, R x y → f x = g y) :
    x.bind f = y.bind g := by
  cases h with
  | some hxy => exact hfg _ _ hxy
  | none => rfl

theorem any_eq_of_rel {x : Option α} {y : Option β} (h : Option.Rel R x y) {f : α → Bool}
    {g : β → Bool} (hfg : ∀ x y, R x y → f x = g y) : x.any f = y.any g := by
  cases h with
  | some hxy => exact hfg _ _ hxy
  | none => rfl

theorem rel_cases {x : Option α} {y : Option β} (h : Option.Rel R x y) :
    x = none ∧ y = none ∨ ∃ a b, x = some a ∧ y = some b ∧ R a b := by
  cases h with
  | some hab => exact .inr ⟨_, _, rfl, rfl, hab⟩
  | none => exact .inl ⟨rfl, rfl⟩

theorem lookup_rel {name : String} : ∀ {xs : List (String × α)} {ys : List (String × β)},
    List.Forall₂ (fun x y => x.1 = y.1 ∧ (x.1 = name → R x.2 y.2)) xs ys →
    Option.Rel R (xs.lookup name) (ys.lookup name)
  | [], [], .nil => .none
  | (n, x) :: xs, (n', y) :: ys, .cons h hs => by
      obtain ⟨rfl, hxy⟩ : n = n' ∧ (n = name → R x y) := h
      rw [List.lookup_cons, List.lookup_cons]
      cases hn : name == n with
      | true => exact .some (hxy (beq_iff_eq.1 hn).symm)
      | false => exact lookup_rel hs

end RecordQuery
