import Mathlib.Data.List.TakeWhile
import RecordQuery.Calendar.Layout

/-!
# The characters of a written date

Reading by a layout takes the characters of a text from the left, one item after the other
(`Item.takes_of_take`). So a text that a layout reads consists of digits, blanks and the marks of
the layout (`Layout.hasLetter_of_read`).
-/

namespace RecordQuery.Calendar

open Text Literal

/-! ## Taking characters -/

/-- What is left comes after characters of a class. -/
def Takes (P : Char → Prop) (cs rest : List Char) : Prop :=
  ∃ taken, cs = taken ++ rest ∧ ∀ c ∈ taken, P c

namespace Takes

variable {P Q : Char → Prop} {cs cs' rest : List Char}

theorem refl (cs : List Char) : Takes P cs cs := ⟨[], rfl, nofun⟩

theorem cons {c : Char} (hc : P c) (h : Takes P cs rest) : Takes P (c :: cs) rest := by
  obtain ⟨taken, rfl, htaken⟩ := h
  exact ⟨c :: taken, rfl, List.forall_mem_cons.2 ⟨hc, htaken⟩⟩

theorem trans (h : Takes P cs cs') (h' : Takes P cs' rest) : Takes P cs rest := by
  obtain ⟨taken, rfl, htaken⟩ := h
  obtain ⟨taken', rfl, htaken'⟩ := h'
  exact ⟨taken ++ taken', (List.append_assoc ..).symm,
    List.forall_mem_append.2 ⟨htaken, htaken'⟩⟩

theorem mono (hPQ : ∀ c, P c → Q c) (h : Takes P cs rest) : Takes Q cs rest := by
  obtain ⟨taken, rfl, htaken⟩ := h
  exact ⟨taken, rfl, fun c hc => hPQ c (htaken c hc)⟩

theorem forall_mem (h : Takes P cs rest) (hrest : ∀ c ∈ rest, P c) : ∀ c ∈ cs, P c := by
  obtain ⟨taken, rfl, htaken⟩ := h
  exact List.forall_mem_append.2 ⟨htaken, hrest⟩

theorem of_takeWhile (p : Char → Bool) (cs : List Char) :
    Takes (fun c => p c = true) cs (cs.dropWhile p) :=
  ⟨cs.takeWhile p, List.takeWhile_append_dropWhile.symm, fun _ hc => List.mem_takeWhile_imp hc⟩

theorem of_isPrefix {taken : List Char} (h : taken <+: cs) (htaken : ∀ c ∈ taken, P c) :
    Takes P cs (cs.drop taken.length) :=
  ⟨taken, (List.prefix_iff_eq_append.1 h).symm, htaken⟩

end Takes

theorem exists_of_map_eq_some {α β : Type} {f : α × List Char → β × List Char}
    {o : Option (α × List Char)} {b : β} {rest : List Char} (h : o.map f = some (b, rest))
    (hf : ∀ x, (f x).2 = x.2) : ∃ a, o = some (a, rest) := by
  obtain ⟨⟨a, rest'⟩, ho, he⟩ := Option.map_eq_some_iff.1 h
  obtain rfl : rest = rest' := (congrArg Prod.snd he).symm.trans (hf _)
  exact ⟨a, ho⟩

/-! ## Numbers -/

def IsDigit (c : Char) : Prop := c.isDigit = true

theorem takes_of_takeNumber {most n : Nat} {cs rest : List Char}
    (h : takeNumber most cs = some (n, rest)) : Takes IsDigit cs rest := by
  have htaken : (cs.take most).takeWhile Char.isDigit <+: cs :=
    (List.takeWhile_prefix _).trans (List.take_prefix most cs)
  unfold takeNumber at h
  dsimp only at h
  split at h
  · cases h
  · obtain ⟨-, rfl⟩ := Prod.mk.inj (Option.some.inj h)
    exact .of_isPrefix htaken fun _ hc => List.mem_takeWhile_imp hc

theorem takes_of_takeExactly {count n : Nat} {cs rest : List Char}
    (h : takeExactly count cs = some (n, rest)) : Takes IsDigit cs rest := by
  unfold takeExactly at h
  dsimp only at h
  split at h
  · rename_i hdigits
    obtain ⟨-, rfl⟩ := Prod.mk.inj (Option.some.inj h)
    have htaken := Takes.of_isPrefix (List.take_prefix count cs) (List.all_eq_true.1 hdigits.2)
    rwa [hdigits.1] at htaken
  · cases h

/-! ## Items -/

namespace Item

def marks : Item → List Char
  | loose .year => ['+', '-']
  | loose _ => []
  | exact _ => []
  | mark choices => choices
  | fraction => ['.']
  | offset => ['Z', 'z', '+', '-', '−', ':']

def HasLetter (item : Item) (c : Char) : Prop :=
  c.isDigit = true ∨ isBlank c = true ∨ c ∈ item.marks

instance (item : Item) (c : Char) : Decidable (item.HasLetter c) :=
  inferInstanceAs (Decidable (_ ∨ _ ∨ _))

variable {item : Item} {cs rest : List Char}

theorem hasLetter_of_isDigit {c : Char} (h : IsDigit c) : item.HasLetter c := .inl h

theorem hasLetter_of_mem_marks {c : Char} (h : c ∈ item.marks) : item.HasLetter c := .inr (.inr h)

theorem takes_of_takeYear {n : Int} (h : takeYear cs = some (n, rest)) :
    Takes (loose .year).HasLetter cs rest := by
  unfold takeYear at h
  split at h
  · obtain ⟨m, hm⟩ := exists_of_map_eq_some h fun _ => rfl
    exact .cons (hasLetter_of_mem_marks (by decide))
      ((takes_of_takeNumber hm).mono fun _ => hasLetter_of_isDigit)
  · obtain ⟨m, hm⟩ := exists_of_map_eq_some h fun _ => rfl
    exact .cons (hasLetter_of_mem_marks (by decide))
      ((takes_of_takeNumber hm).mono fun _ => hasLetter_of_isDigit)
  · obtain ⟨m, hm⟩ := exists_of_map_eq_some h fun _ => rfl
    exact (takes_of_takeNumber hm).mono fun _ => hasLetter_of_isDigit

theorem takes_of_takeLoose {f : Field} {n : Int} (h : takeLoose f cs = some (n, rest)) :
    Takes (loose f).HasLetter cs rest := by
  have hblanks : Takes (loose f).HasLetter cs (dropBlanks cs) :=
    (Takes.of_takeWhile isBlank cs).mono fun _ hc => .inr (.inl hc)
  refine hblanks.trans ?_
  unfold takeLoose at h
  split at h
  · rename_i hyear
    subst hyear
    exact takes_of_takeYear h
  · obtain ⟨m, hm⟩ := exists_of_map_eq_some h fun _ => rfl
    exact (takes_of_takeNumber hm).mono fun _ => hasLetter_of_isDigit

theorem takes_of_takeFraction {n : Nat} (h : takeFraction cs = some (n, rest)) :
    Takes fraction.HasLetter cs rest := by
  unfold takeFraction at h
  split at h
  · dsimp only at h
    split at h
    · cases h
    · obtain ⟨-, rfl⟩ := Prod.mk.inj (Option.some.inj h)
      exact .cons (hasLetter_of_mem_marks (by decide))
        ((Takes.of_takeWhile _ _).mono fun _ => hasLetter_of_isDigit)
  · cases h
    exact .refl _

theorem takes_of_takeHoursMinutes {n : Nat} (h : takeHoursMinutes cs = some (n, rest)) :
    Takes offset.HasLetter cs rest := by
  unfold takeHoursMinutes at h
  split at h
  · rename_i hours cs' hhours
    refine ((takes_of_takeExactly hhours).mono fun _ => hasLetter_of_isDigit).trans
      (.cons (hasLetter_of_mem_marks (by decide)) ?_)
    split at h
    · rename_i minutes rest' hminutes
      split at h
      · cases h
        exact (takes_of_takeExactly hminutes).mono fun _ => hasLetter_of_isDigit
      · cases h
    · cases h
  · cases h

theorem takes_of_takeOffset {n : Int} (h : takeOffset cs = some (n, rest)) :
    Takes offset.HasLetter cs rest := by
  unfold takeOffset at h
  split at h
  · cases h
  · rename_i c cs
    have hletter : ∀ m ∈ ['Z', 'z', '+', '-', '−'], offset.HasLetter m :=
      fun m hm => hasLetter_of_mem_marks (List.mem_append_left [':'] hm)
    split at h
    · rename_i hc
      cases h
      exact .cons (hletter c (by rcases hc with rfl | rfl <;> decide)) (.refl _)
    · split at h
      · rename_i hc
        obtain ⟨m, hm⟩ := exists_of_map_eq_some h fun _ => rfl
        exact .cons (hletter c (by simp [hc])) (takes_of_takeHoursMinutes hm)
      · split at h
        · rename_i hc
          obtain ⟨m, hm⟩ := exists_of_map_eq_some h fun _ => rfl
          exact .cons (hletter c (by rcases hc with rfl | rfl <;> decide))
            (takes_of_takeHoursMinutes hm)
        · cases h

theorem takes_of_take {p p' : Parts} (h : item.take p cs = some (p', rest)) :
    Takes item.HasLetter cs rest := by
  cases item with
  | loose f =>
      obtain ⟨n, hn⟩ := exists_of_map_eq_some h fun _ => rfl
      exact takes_of_takeLoose hn
  | exact f =>
      obtain ⟨n, hn⟩ := exists_of_map_eq_some h fun _ => rfl
      exact (takes_of_takeExactly hn).mono fun _ => hasLetter_of_isDigit
  | mark choices =>
      cases cs with
      | nil => cases h
      | cons c cs =>
          have h : (if c ∈ choices then some (p, cs) else none) = some (p', rest) := h
          split at h
          · rename_i hc
            cases h
            exact .cons (hasLetter_of_mem_marks hc) (.refl _)
          · cases h
  | fraction =>
      obtain ⟨n, hn⟩ := exists_of_map_eq_some h fun _ => rfl
      exact takes_of_takeFraction hn
  | offset =>
      obtain ⟨n, hn⟩ := exists_of_map_eq_some h fun _ => rfl
      exact takes_of_takeOffset hn

end Item

/-! ## Layouts -/

namespace Layout

def HasLetter (layout : Layout) (c : Char) : Prop := ∃ item ∈ layout, item.HasLetter c

instance (layout : Layout) (c : Char) : Decidable (layout.HasLetter c) :=
  inferInstanceAs (Decidable (∃ item ∈ layout, item.HasLetter c))

theorem hasLetter_of_readFrom {layout : Layout} {p p' : Parts} {cs : List Char}
    (h : layout.readFrom p cs = some p') : ∀ c ∈ cs, layout.HasLetter c := by
  induction layout generalizing p cs with
  | nil =>
      have h : (if cs.isEmpty then some p else none) = some p' := h
      split at h
      · rename_i hempty
        rw [List.isEmpty_iff.1 hempty]
        nofun
      · cases h
  | cons item items ih =>
      obtain ⟨⟨p₁, rest⟩, htake, hrest⟩ := Option.bind_eq_some_iff.1 h
      refine ((Item.takes_of_take htake).mono fun c hc => ?_).forall_mem fun c hc => ?_
      · exact ⟨item, List.mem_cons_self, hc⟩
      · obtain ⟨item', hitem', hletter⟩ := ih hrest c hc
        exact ⟨item', List.mem_cons_of_mem _ hitem', hletter⟩

theorem hasLetter_of_read {layout : Layout} {s : String} {p : Parts} (h : layout.read s = some p) :
    ∀ c ∈ s.toList, layout.HasLetter c :=
  hasLetter_of_readFrom h

theorem hasLetter_of_instant? {layout : Layout} {s : String} {t : Instant}
    (h : layout.instant? s = some t) : ∀ c ∈ s.toList, layout.HasLetter c := by
  obtain ⟨p, hp, -⟩ := Option.bind_eq_some_iff.1 h
  exact hasLetter_of_read hp

end Layout

end RecordQuery.Calendar
