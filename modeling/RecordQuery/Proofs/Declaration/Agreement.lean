import RecordQuery.Proofs.Declaration.Instances
import RecordQuery.Proofs.Related

/-!
# Contents that agree

Contents agree when they are the same but for skipped members of derived records, at any depth
(`Content.Agree`). Contents that agree have one view (`view_eq_of_agree`), and a path leads to
contents that agree in fields that do (`resolveIn_agree`).
-/

namespace RecordQuery

namespace RecordType

/-- Whatever is declared by the name is skipped. -/
def Hides (t : RecordType) (member : String) : Prop :=
  ∀ f ∈ t.declaration.fields, f.member = some member → f.Skipped

theorem not_hides_of_mem {t : RecordType} {g : DerivedField} (hg : g ∈ t.derivation.fields) :
    ¬ t.Hides g.member := by
  obtain ⟨f, hf, hshown, member, o, hmember, -, rfl⟩ := mem_fields_iff.1 hg
  exact fun hhides => hshown (hhides f hf hmember)

theorem instanceFields_rel {t : RecordType} {R : Content → Content → Prop}
    {xs ys : List (String × Content)}
    (h : List.Forall₂ (fun x y => x.1 = y.1 ∧ (¬ t.Hides x.1 → R x.2 y.2)) xs ys) :
    List.Forall₂ (fun x y => x.1 = y.1 ∧ R x.2 y.2) (t.derivation.instanceFields xs)
      (t.derivation.instanceFields ys) := by
  have hsame : List.Forall₂ (fun g g' => g = g' ∧ g ∈ t.derivation.fields) t.derivation.fields
      t.derivation.fields := List.forall₂_same.2 fun g hg => ⟨rfl, hg⟩
  unfold Derivation.instanceFields
  refine List.rel_filterMap (fun g g' hg => ?_) hsame
  obtain ⟨rfl, hg⟩ := hg
  -- a field is read from a member that is not hidden, so the two members are related
  have hshown := not_hides_of_mem hg
  have hlookup : Option.Rel R (xs.lookup g.member) (ys.lookup g.member) :=
    lookup_rel (h.imp fun x y hxy => ⟨hxy.1, fun hx => hxy.2 (hx ▸ hshown)⟩)
  rcases rel_cases hlookup with ⟨hx, hy⟩ | ⟨x, y, hx, hy, hxy⟩
  · rw [hx, hy]
    exact .none
  · rw [hx, hy]
    exact .some ⟨rfl, hxy⟩

end RecordType

namespace Content

/-! ## Agreement -/

mutual

/-- The same but for skipped members of derived records, at any depth. -/
inductive Agree : Content → Content → Prop
  | string (s : String) : Agree (.string s) (.string s)
  | number (n : Number) : Agree (.number n) (.number n)
  | bool (b : Bool) : Agree (.bool b) (.bool b)
  | timestamp (t : Instant) : Agree (.timestamp t) (.timestamp t)
  | sequence {xs ys : List Content} : List.Forall₂ Agree xs ys → Agree (.sequence xs) (.sequence ys)
  | mapping {xs ys : List (Content × Content)} :
      List.Forall₂ Agree (xs.map Prod.fst) (ys.map Prod.fst) →
      List.Forall₂ Agree (xs.map Prod.snd) (ys.map Prod.snd) →
      Agree (.mapping xs) (.mapping ys)
  | null : Agree .null .null
  | present {c c' : Content} : Agree c c' → Agree (.present c) (.present c')
  | record (rule : ZeroRule) {xs ys : List (String × Content)} :
      xs.map Prod.fst = ys.map Prod.fst →
      List.Forall₂ Agree (xs.map Prod.snd) (ys.map Prod.snd) →
      Agree (.record rule xs) (.record rule ys)
  | derived (t : RecordType) {xs ys : List (String × Content)} :
      AgreeMembers t xs ys → Agree (.derived t xs) (.derived t ys)

/-- The same members, of which skipped ones may hold anything. -/
inductive AgreeMembers : RecordType → List (String × Content) → List (String × Content) → Prop
  | nil {t : RecordType} : AgreeMembers t [] []
  | hidden {t : RecordType} {member : String} {xs ys : List (String × Content)} (c c' : Content) :
      t.Hides member → AgreeMembers t xs ys →
      AgreeMembers t ((member, c) :: xs) ((member, c') :: ys)
  | shown {t : RecordType} {member : String} {xs ys : List (String × Content)} {c c' : Content} :
      Agree c c' → AgreeMembers t xs ys →
      AgreeMembers t ((member, c) :: xs) ((member, c') :: ys)

end

abbrev AgreeFields : List (String × Content) → List (String × Content) → Prop :=
  List.Forall₂ fun x y => x.1 = y.1 ∧ x.2.Agree y.2

abbrev AgreeEntries : List (Content × Content) → List (Content × Content) → Prop :=
  List.Forall₂ fun x y => x.1.Agree y.1 ∧ x.2.Agree y.2

theorem agreeFields_of_names {xs ys : List (String × Content)}
    (hnames : xs.map Prod.fst = ys.map Prod.fst)
    (hcontents : List.Forall₂ Agree (xs.map Prod.snd) (ys.map Prod.snd)) : AgreeFields xs ys :=
  forall₂_pairs (List.forall₂_eq_eq_eq ▸ hnames) hcontents

variable {t : RecordType}

theorem AgreeMembers.forall₂ : ∀ {xs ys : List (String × Content)}, AgreeMembers t xs ys →
    List.Forall₂ (fun x y => x.1 = y.1 ∧ (¬ t.Hides x.1 → x.2.Agree y.2)) xs ys
  | [], [], .nil => .nil
  | _ :: _, _ :: _, .hidden _ _ hhides h =>
      .cons ⟨rfl, fun hshown => absurd hhides hshown⟩ h.forall₂
  | _ :: _, _ :: _, .shown hc h => .cons ⟨rfl, fun _ => hc⟩ h.forall₂

/-! ## Views -/

theorem viewFields_eq_of_views {xs ys : List (String × Content)}
    (h : List.Forall₂ (fun x y => x.1 = y.1 ∧ x.2.view = y.2.view) xs ys) :
    viewFields xs = viewFields ys := by
  rw [viewFields_eq_map, viewFields_eq_map]
  induction h with
  | nil => rfl
  | cons hxy _ ih => rw [List.map_cons, List.map_cons, hxy.1, hxy.2, ih]

mutual

theorem view_eq_of_agree : ∀ {c c' : Content}, c.Agree c' → c.view = c'.view
  | _, _, .string _ | _, _, .number _ | _, _, .bool _ | _, _, .timestamp _ | _, _, .null => rfl
  | .sequence _, .sequence _, .sequence h => by rw [view, view, viewItems_eq_of_agree h]
  | .mapping _, .mapping _, .mapping hkeys hvalues => by
      rw [view, view, viewEntries_eq_of_agree (forall₂_pairs hkeys hvalues)]
  | .present _, .present _, .present h => by rw [view, view, view_eq_of_agree h]
  | .record _ _, .record _ _, .record _ hnames hcontents => by
      rw [view, view, viewFields_eq_of_agree (agreeFields_of_names hnames hcontents)]
  | .derived _ _, .derived _ _, .derived _ h => by
      -- by members and not by fields, since only members are parts of the content
      have hfields := RecordType.instanceFields_rel (R := fun c c' => c.view = c'.view)
        (viewMembers_eq_of_agree h)
      rw [view_derived, view_derived, viewFields_eq_of_views hfields]

theorem viewItems_eq_of_agree : ∀ {xs ys : List Content}, List.Forall₂ Agree xs ys →
    viewItems xs = viewItems ys
  | [], [], .nil => rfl
  | _ :: _, _ :: _, .cons h hs => by
      rw [viewItems, viewItems, view_eq_of_agree h, viewItems_eq_of_agree hs]

theorem viewEntries_eq_of_agree : ∀ {xs ys : List (Content × Content)}, AgreeEntries xs ys →
    viewEntries xs = viewEntries ys
  | [], [], .nil => rfl
  | (_, _) :: _, (_, _) :: _, .cons h hs => by
      rw [viewEntries, viewEntries, view_eq_of_agree h.1, view_eq_of_agree h.2,
        viewEntries_eq_of_agree hs]

theorem viewFields_eq_of_agree : ∀ {xs ys : List (String × Content)}, AgreeFields xs ys →
    viewFields xs = viewFields ys
  | [], [], .nil => rfl
  | (n, _) :: _, (n', _) :: _, .cons h hs => by
      obtain rfl : n = n' := h.1
      rw [viewFields, viewFields, view_eq_of_agree h.2, viewFields_eq_of_agree hs]

theorem viewMembers_eq_of_agree {t : RecordType} : ∀ {xs ys : List (String × Content)},
    AgreeMembers t xs ys →
    List.Forall₂ (fun x y => x.1 = y.1 ∧ (¬ t.Hides x.1 → x.2.view = y.2.view)) xs ys
  | [], [], .nil => .nil
  | _ :: _, _ :: _, .hidden _ _ hhides h =>
      .cons ⟨rfl, fun hshown => absurd hhides hshown⟩ (viewMembers_eq_of_agree h)
  | _ :: _, _ :: _, .shown hc h =>
      .cons ⟨rfl, fun _ => view_eq_of_agree hc⟩ (viewMembers_eq_of_agree h)

end

/-! ## Resolution -/

inductive AgreeResults : Except FieldError Content → Except FieldError Content → Prop
  | error (e : FieldError) : AgreeResults (.error e) (.error e)
  | ok {c c' : Content} : c.Agree c' → AgreeResults (.ok c) (.ok c')

variable {c c' : Content}

theorem Agree.deref (h : c.Agree c') : Option.Rel Agree c.deref c'.deref := by
  fun_induction Content.deref c generalizing c' with
  | case1 =>
      cases h
      exact .none
  | case2 c ih =>
      cases h with
      | @present _ c' h =>
          have hderef : Option.Rel Agree c.deref c'.deref := ih h
          exact hderef
  | case3 c hnull hpresent =>
      cases h with
      | null => exact absurd rfl hnull
      | present h => exact absurd rfl (hpresent _)
      | _ => exact .some (by constructor <;> assumption)

theorem Agree.fields? (h : c.Agree c') : Option.Rel AgreeFields c.fields? c'.fields? := by
  cases h with
  | record rule hnames hcontents => exact .some (agreeFields_of_names hnames hcontents)
  | derived t h => exact .some (RecordType.instanceFields_rel h.forall₂)
  | _ => exact .none

theorem lookup_of_agreeFields {xs ys : List (String × Content)} (h : AgreeFields xs ys)
    (s : String) : Option.Rel Agree (xs.lookup s) (ys.lookup s) :=
  lookup_rel (h.imp fun _ _ hxy => ⟨hxy.1, fun _ => hxy.2⟩)

theorem resolveIn_agree : ∀ (segments : List String) {xs ys : List (String × Content)},
    AgreeFields xs ys → AgreeResults (resolveIn xs segments) (resolveIn ys segments)
  | [], _, _, _ => .error _
  | [s], xs, ys, h => by
      unfold resolveIn
      rcases rel_cases (lookup_of_agreeFields h s) with ⟨hx, hy⟩ | ⟨c, c', hx, hy, hc⟩
      · rw [hx, hy]
        exact .error _
      · rw [hx, hy]
        exact .ok hc
  | s :: next :: rest, xs, ys, h => by
      unfold resolveIn
      rcases rel_cases (lookup_of_agreeFields h s) with ⟨hx, hy⟩ | ⟨c, c', hx, hy, hc⟩
      · rw [hx, hy]
        exact .error _
      rcases rel_cases hc.deref with ⟨hnull, hnull'⟩ | ⟨w, w', hw, hw', hww'⟩
      · simp only [hx, hy, hnull, hnull']
        exact .error _
      rcases rel_cases hww'.fields? with ⟨hno, hno'⟩ | ⟨fields, fields', hf, hf', hfields⟩
      · simp only [hx, hy, hw, hw', hno, hno', view_eq_of_agree hww']
        exact .error _
      · simp only [hx, hy, hw, hw', hf, hf']
        exact resolveIn_agree (next :: rest) hfields

end Content

end RecordQuery
