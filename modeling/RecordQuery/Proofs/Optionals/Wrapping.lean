import Mathlib.Data.List.Forall2
import RecordQuery.Proofs.Optionals.Bare

/-!
# Wrapping values in optionals

Present optionals can be put around a value, around the elements of its sequences and around the
keys and values of its mappings (`Wraps`). Conditions that look under optionals do not see them,
with one exception: an element in an optional is compared with a text with letter case, even where
letter case does not count, so that a match can be hidden (`test_wraps_iff`).
-/

namespace RecordQuery

namespace Value

/-- The second value is the first one with optionals put around it, around elements, and around keys
and values, at any depth. -/
inductive Wraps : Value → Value → Prop
  | refl (v : Value) : Wraps v v
  | around {v v' : Value} : Wraps v v' → Wraps v (.present v')
  | inside {v v' : Value} : Wraps v v' → Wraps (.present v) (.present v')
  | sequence {items items' : List Value} : items.length = items'.length →
      (∀ e ∈ items.zip items', Wraps e.1 e.2) → Wraps (.sequence items) (.sequence items')
  | mapping {entries entries' : List (Value × Value)} : entries.length = entries'.length →
      (∀ e ∈ entries.zip entries', Wraps e.1.1 e.2.1) →
      (∀ e ∈ entries.zip entries', Wraps e.1.2 e.2.2) →
      Wraps (.mapping entries) (.mapping entries')

theorem map_eq_map_of_zip {α β : Type} {f : α → β} : ∀ {xs ys : List α},
    xs.length = ys.length → (∀ e ∈ xs.zip ys, f e.2 = f e.1) → ys.map f = xs.map f
  | [], [], _, _ => rfl
  | x :: xs, y :: ys, hlen, h => by
      rw [List.zip_cons_cons, List.forall_mem_cons] at h
      rw [List.map_cons, List.map_cons, h.1, map_eq_map_of_zip (Nat.succ.inj hlen) h.2]

theorem Wraps.bare_eq {v v' : Value} (h : Wraps v v') : v'.bare = v.bare := by
  induction h with
  | refl => rfl
  | around _ ih => exact ih
  | inside _ ih => exact ih
  | sequence hlen _ ih =>
      rw [bare, bare, bareItems_eq_map, bareItems_eq_map, map_eq_map_of_zip hlen ih]
  | mapping hlen _ _ ihk ihv =>
      rw [bare, bare, bareEntries_eq_map, bareEntries_eq_map,
        map_eq_map_of_zip hlen fun e he => Prod.ext (ihk e he) (ihv e he)]

theorem Wraps.string_eq {v : Value} {s : String} (h : Wraps v (.string s)) : v = .string s := by
  cases h
  rfl

theorem Wraps.deref_sequence {v v' : Value} (h : Wraps v v') :
    (∃ items items', v.deref = some (.sequence items) ∧ v'.deref = some (.sequence items') ∧
      List.Forall₂ Wraps items items') ∨
    ∀ items, v.deref ≠ some (.sequence items) ∧ v'.deref ≠ some (.sequence items) := by
  induction h with
  | refl v =>
      by_cases hv : ∃ items, v.deref = some (.sequence items)
      · obtain ⟨items, hv⟩ := hv
        exact .inl ⟨items, items, hv, hv, List.forall₂_same.2 fun v _ => .refl v⟩
      · exact .inr fun items => ⟨fun h => hv ⟨items, h⟩, fun h => hv ⟨items, h⟩⟩
  | around _ ih => exact ih
  | inside _ ih => exact ih
  | sequence hlen hitems =>
      exact .inl ⟨_, _, rfl, rfl, List.forall₂_iff_zip.2 ⟨hlen, fun he => hitems _ he⟩⟩
  | mapping => exact .inr fun _ => ⟨nofun, nofun⟩

theorem exists_related_of_mem {R : Value → Value → Prop} {items items' : List Value}
    (h : List.Forall₂ R items items') {item : Value} (hitem : item ∈ items) :
    ∃ item' ∈ items', R item item' := by
  induction h with
  | nil => cases hitem
  | cons hr _ ih =>
      rcases List.mem_cons.1 hitem with rfl | hitem
      · exact ⟨_, List.mem_cons_self, hr⟩
      · obtain ⟨item', hmem, hrel⟩ := ih hitem
        exact ⟨item', List.mem_cons_of_mem _ hmem, hrel⟩

end Value

namespace Condition

variable {c : Condition} {v v' : Value}

/-- A sequence is searched for a text without letter case, an element of `v` is such a text, and no
element of `v'` is such a text or equal to the text. -/
def Hides (c : Condition) (v v' : Value) : Prop :=
  ∃ t items items', c = .hasElement (.string t) true ∧ v.deref = some (.sequence items) ∧
    v'.deref = some (.sequence items') ∧
    (∃ s, .string s ∈ items ∧ Text.lowercase s = Text.lowercase t) ∧
    (∀ s, .string s ∈ items' → Text.lowercase s ≠ Text.lowercase t) ∧
    ∀ item ∈ items', isEqual item (.string t) = false

theorem eq_of_isEqual_string {s t : String} (h : isEqual (.string s) (.string t) = true) :
    s = t := by
  have hequals : (Value.string s).equals (.string t) = some (Text.compareBytes s t == .eq) :=
    Value.equals_eq_map_compare _ (.string t)
  change ((Value.string s).equals (.string t) == some true) = true at h
  rw [hequals] at h
  exact Text.compareBytes_eq_iff.1 (by simpa using h)

theorem elementEquals_ignoreCase_iff {item : Value} {t : String} :
    elementEquals item (.string t) true = true ↔
      (∃ s, item = .string s ∧ Text.lowercase s = Text.lowercase t) ∨
        isEqual item (.string t) = true := by
  cases item with
  | string s =>
      change (Text.lowercase s == Text.lowercase t) = true ↔ _
      rw [beq_iff_eq]
      constructor
      · exact fun h => .inl ⟨s, rfl, h⟩
      · rintro (⟨s', hs, h⟩ | h)
        · cases hs
          exact h
        · rw [eq_of_isEqual_string h]
  | _ =>
      change isEqual _ (.string t) = true ↔ _
      simp

theorem test_hasElement_iff {o : Operand} {ignoreCase : Bool} :
    (hasElement o ignoreCase).test v = true ↔ ∃ items, v.deref = some (.sequence items) ∧
      ∃ item ∈ items, elementEquals item o ignoreCase = true := by
  change v.deref.any (hasElement o ignoreCase).testConcrete = true ↔ _
  rw [Option.any_eq_true]
  constructor
  · rintro ⟨w, hw, htest⟩
    cases w with
    | sequence items => exact ⟨items, hw, List.any_eq_true.1 htest⟩
    | _ => cases htest
  · rintro ⟨items, hitems, htest⟩
    exact ⟨_, hitems, List.any_eq_true.2 htest⟩

/-- A text without letter case is found in a sequence as a text of the same lower case or as an
equal element. -/
theorem test_ignoreCase_iff {t : String} :
    (hasElement (.string t) true).test v = true ↔ ∃ items, v.deref = some (.sequence items) ∧
      ((∃ s, .string s ∈ items ∧ Text.lowercase s = Text.lowercase t) ∨
        ∃ item ∈ items, isEqual item (.string t) = true) := by
  rw [test_hasElement_iff]
  refine exists_congr fun items => and_congr_right fun _ => ?_
  constructor
  · rintro ⟨item, hmem, hequal⟩
    rcases elementEquals_ignoreCase_iff.1 hequal with ⟨s, rfl, hs⟩ | hequal
    · exact .inl ⟨s, hmem, hs⟩
    · exact .inr ⟨item, hmem, hequal⟩
  · rintro (⟨s, hmem, hs⟩ | ⟨item, hmem, hequal⟩)
    · exact ⟨_, hmem, elementEquals_ignoreCase_iff.2 (.inl ⟨s, rfl, hs⟩)⟩
    · exact ⟨item, hmem, elementEquals_ignoreCase_iff.2 (.inr hequal)⟩

theorem isEqual_of_wraps (h : v.Wraps v') (o : Operand) : isEqual v' o = isEqual v o := by
  rw [← isEqual_bare v', h.bare_eq, isEqual_bare]

/-- A wrapped sequence has no match of a text without letter case that the sequence itself does not
have: the elements that are texts there are not wrapped. -/
theorem test_of_wraps_ignoreCase {t : String} (h : v.Wraps v')
    (htest : (hasElement (.string t) true).test v' = true) :
    (hasElement (.string t) true).test v = true := by
  obtain ⟨items', hitems', hmatch⟩ := test_ignoreCase_iff.1 htest
  rcases h.deref_sequence with ⟨items, _, hitems, hderef, hwraps⟩ | hnone
  swap
  · exact absurd hitems' (hnone items').2
  cases hderef.symm.trans hitems'
  refine test_ignoreCase_iff.2 ⟨items, hitems, ?_⟩
  rcases hmatch with ⟨s, hmem', hs⟩ | ⟨item', hmem', hequal⟩
  · obtain ⟨item, hmem, hitem⟩ := Value.exists_related_of_mem hwraps.flip hmem'
    exact .inl ⟨s, Value.Wraps.string_eq hitem ▸ hmem, hs⟩
  · obtain ⟨item, hmem, hitem⟩ := Value.exists_related_of_mem hwraps.flip hmem'
    exact .inr ⟨item, hmem, isEqual_of_wraps hitem _ ▸ hequal⟩

theorem lost_match_iff {t : String} (h : v.Wraps v') :
    (hasElement (.string t) true).test v = true ∧ (hasElement (.string t) true).test v' = false ↔
      Hides (hasElement (.string t) true) v v' := by
  constructor
  · rintro ⟨htest, hlost⟩
    obtain ⟨items, hitems, hmatch⟩ := test_ignoreCase_iff.1 htest
    rcases h.deref_sequence with ⟨_, items', hderef, hitems', hwraps⟩ | hnone
    swap
    · exact absurd hitems (hnone items).1
    cases hderef.symm.trans hitems
    have hlost : ¬ ((∃ s, .string s ∈ items' ∧ Text.lowercase s = Text.lowercase t) ∨
        ∃ item' ∈ items', isEqual item' (.string t) = true) := fun hmatch' =>
      Bool.eq_false_iff.1 hlost (test_ignoreCase_iff.2 ⟨items', hitems', hmatch'⟩)
    obtain ⟨hunfolded, hunequal⟩ := not_or.1 hlost
    refine ⟨t, items, items', rfl, hitems, hitems', ?_, fun s hs hfold => hunfolded ⟨s, hs, hfold⟩,
      fun item' hmem' => Bool.eq_false_iff.2 fun hequal => hunequal ⟨item', hmem', hequal⟩⟩
    rcases hmatch with hfolded | ⟨item, hmem, hequal⟩
    · exact hfolded
    · -- an equal element would still be equal in its optionals
      obtain ⟨item', hmem', hitem⟩ := Value.exists_related_of_mem hwraps hmem
      exact absurd ⟨item', hmem', isEqual_of_wraps hitem _ ▸ hequal⟩ hunequal
  · rintro ⟨_, items, items', heq, hitems, hitems', hfolded, hunfolded, hunequal⟩
    cases heq
    have htest := test_ignoreCase_iff.2 ⟨items, hitems, .inl hfolded⟩
    refine ⟨htest, Bool.eq_false_iff.2 fun htest' => ?_⟩
    obtain ⟨_, hderef, hmatch'⟩ := test_ignoreCase_iff.1 htest'
    cases hitems'.symm.trans hderef
    rcases hmatch' with ⟨s, hs, hfold⟩ | ⟨item', hmem', hequal⟩
    · exact hunfolded s hs hfold
    · exact Bool.eq_false_iff.1 (hunequal item' hmem') hequal

/-- Optionals around a value, its elements, its keys and its values do not change the test of a
condition that looks under them, unless they hide the match of a text without letter case. -/
theorem test_wraps_iff (hc : c.LooksUnder) (h : v.Wraps v') :
    c.test v' = c.test v ↔ ¬ c.Hides v v' := by
  by_cases hfold : ∃ t, c = hasElement (.string t) true
  · obtain ⟨t, rfl⟩ := hfold
    have hkeeps := test_of_wraps_ignoreCase (t := t) h
    rw [← lost_match_iff h]
    generalize (hasElement (.string t) true).test v = test at *
    generalize (hasElement (.string t) true).test v' = test' at *
    revert test test'
    decide
  · have hfold : ∀ t, c ≠ hasElement (.string t) true := fun t ht => hfold ⟨t, ht⟩
    have hequal : c.test v' = c.test v := by
      rw [← test_bare hc hfold v', h.bare_eq, test_bare hc hfold v]
    have hshown : ¬ c.Hides v v' := fun ⟨t, _, _, ht, _⟩ => hfold t ht
    exact iff_of_true hequal hshown

/-- A match stays where the text itself is not wrapped. -/
theorem test_wraps_shown :
    let c := hasElement (.string "go") true
    let v := Value.sequence [.string "Go", .sequence [.null]]
    let v' := Value.present (.sequence [.string "Go", .sequence [.present .null]])
    c.LooksUnder ∧ v.Wraps v' ∧ ¬ c.Hides v v' ∧ c.test v' = c.test v := by
  intro c v v'
  have hc : c.LooksUnder := trivial
  have hinner : (Value.sequence [.null]).Wraps (.sequence [.present .null]) :=
    .sequence rfl (by simpa using .around (.refl .null))
  have hwraps : v.Wraps v' := .around (.sequence rfl (by simpa using ⟨.refl _, hinner⟩))
  have hshown : ¬ c.Hides v v' := by
    rintro ⟨t, items, items', ht, -, hitems', -, hunfolded, -⟩
    obtain rfl : "go" = t := by simpa [c] using ht
    obtain rfl : [.string "Go", .sequence [.present .null]] = items' := by
      simpa [v', Value.deref] using hitems'
    exact hunfolded "Go" List.mem_cons_self (by decide +kernel)
  exact ⟨hc, hwraps, hshown, (test_wraps_iff hc hwraps).2 hshown⟩

/-- An optional around the element hides the match. -/
theorem test_wraps_hidden :
    ¬ ∀ (c : Condition) (v v' : Value), c.LooksUnder → v.Wraps v' → c.test v' = c.test v := by
  intro hkept
  have hwraps : (Value.sequence [.string "RUST"]).Wraps (.sequence [.present (.string "RUST")]) :=
    .sequence rfl (by simpa using .around (.refl (.string "RUST")))
  have hequal := hkept (hasElement (.string "rust") true) _ _ trivial hwraps
  have hfound : (hasElement (.string "rust") true).test (.sequence [.string "RUST"]) = true := by
    decide +kernel
  have hlost : (hasElement (.string "rust") true).test (.sequence [.present (.string "RUST")]) =
      false := by
    decide +kernel
  exact Bool.false_ne_true (hlost.symm.trans (hequal.trans hfound))

end Condition

end RecordQuery
