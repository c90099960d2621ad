import RecordQuery.Proofs.Equality

/-!
# Bare values

A value is bare without the present optionals around it, around the elements of its sequences and
around the keys and values of its mappings. The bare value is equal to the same values as the value
itself (`equals_bare`), and it passes the same tests of every condition that looks under optionals,
apart from the search of a sequence for a text without letter case (`test_bare`).
-/

namespace RecordQuery

namespace Value

/-! ## Bare values -/

mutual

/-- The value without present optionals around it, its elements, or its keys and values. -/
def bare : Value → Value
  | present v => v.bare
  | sequence items => sequence (bareItems items)
  | mapping entries => mapping (bareEntries entries)
  | v => v

def bareItems : List Value → List Value
  | [] => []
  | v :: vs => v.bare :: bareItems vs

def bareEntries : List (Value × Value) → List (Value × Value)
  | [] => []
  | (k, v) :: entries => (k.bare, v.bare) :: bareEntries entries

end

theorem bareItems_eq_map : ∀ items : List Value, bareItems items = items.map bare
  | [] => rfl
  | v :: vs => by rw [bareItems, bareItems_eq_map vs, List.map_cons]

theorem bareEntries_eq_map : ∀ entries : List (Value × Value),
    bareEntries entries = entries.map (Prod.map bare bare)
  | [] => rfl
  | (k, v) :: entries => by rw [bareEntries, bareEntries_eq_map entries, List.map_cons, Prod.map]

theorem deref_bare (v : Value) : v.bare.deref = v.deref.map bare := by
  fun_induction Value.deref v with
  | case1 => rfl
  | case2 v ih => exact ih
  | case3 v hnull hpresent =>
    cases v with
    | null => exact absurd rfl hnull
    | present v => exact absurd rfl (hpresent v)
    | _ => rfl

theorem compareConcrete_bare {x y : Value} (hx : x.IsConcrete) (hy : y.IsConcrete) :
    x.bare.compareConcrete y.bare = x.compareConcrete y := by
  cases x <;> cases y <;> first | rfl | exact hx.elim | exact hy.elim

theorem compare_bare (a b : Value) : a.bare.compare b.bare = a.compare b := by
  unfold compare
  rw [deref_bare, deref_bare]
  cases ha : a.deref with
  | none => rfl
  | some x =>
      cases hb : b.deref with
      | none => rfl
      | some y => exact compareConcrete_bare (isConcrete_of_deref ha) (isConcrete_of_deref hb)

/-! ## Equality -/

theorem length_bareItems (items : List Value) : (bareItems items).length = items.length := by
  rw [bareItems_eq_map, List.length_map]

theorem length_bareEntries (entries : List (Value × Value)) :
    (bareEntries entries).length = entries.length := by
  rw [bareEntries_eq_map, List.length_map]

mutual

theorem equals_bare (a b : Value) : a.bare.equals b.bare = a.equals b := by
  rw [equals_eq, equals_eq, deref_bare, deref_bare]
  cases ha : a.deref with
  | none => cases b.deref <;> rfl
  | some x =>
    cases hb : b.deref with
    | none => rfl
    | some y =>
      have hx := isConcrete_of_deref ha
      have hy := isConcrete_of_deref hb
      cases x <;> cases y
      case sequence.sequence xs ys =>
        simp only [Option.map_some, bare, length_bareItems, equalItems_bare xs ys]
      case mapping.mapping xs ys =>
        simp only [Option.map_some, bare, length_bareEntries, equalEntries_bare xs ys]
      all_goals first | rfl | exact hx.elim | exact hy.elim
termination_by sizeOf a + sizeOf b
decreasing_by
  all_goals
    have h₁ := sizeOf_deref_le ha
    have h₂ := sizeOf_deref_le hb
    simp only [sequence.sizeOf_spec, mapping.sizeOf_spec] at h₁ h₂
    omega

theorem equalItems_bare : ∀ xs ys : List Value,
    equalItems (bareItems xs) (bareItems ys) = equalItems xs ys
  | [], ys => by simp [bareItems, equalItems]
  | x :: xs, [] => by simp [bareItems, equalItems]
  | x :: xs, y :: ys => by
      rw [bareItems, bareItems, equalItems, equalItems, equals_bare x y, equalItems_bare xs ys]
termination_by xs ys => sizeOf xs + sizeOf ys

theorem equalEntries_bare : ∀ xs ys : List (Value × Value),
    equalEntries (bareEntries xs) (bareEntries ys) = equalEntries xs ys
  | [], ys => by simp [bareEntries, equalEntries]
  | (k, v) :: xs, ys => by
      rw [bareEntries, equalEntries, equalEntries, equalEntry_bare ys k v, equalEntries_bare xs ys]
termination_by xs ys => sizeOf xs + sizeOf ys

theorem equalEntry_bare : ∀ (ys : List (Value × Value)) (k v : Value),
    equalEntry (bareEntries ys) k.bare v.bare = equalEntry ys k v
  | [], k, v => by simp [bareEntries, equalEntry]
  | (k', v') :: ys, k, v => by
      rw [bareEntries, equalEntry, equalEntry, equals_bare k' k, equals_bare v v',
        equalEntry_bare ys k v]
termination_by ys k v => sizeOf ys + sizeOf k + sizeOf v

end

theorem lookup_bare (entries : List (Value × Value)) (key : Value) :
    lookup (bareEntries entries) key.bare = (lookup entries key).map bare := by
  unfold lookup
  rw [bareEntries_eq_map, List.find?_map, Option.map_map, Option.map_map]
  simp only [Function.comp_def, Prod.map, equals_bare]

end Value

/-! ## Operands -/

namespace Operand

mutual

theorem bare_toValue : ∀ o : Operand, o.toValue.bare = o.toValue
  | string _ | number _ | bool _ | timestamp _ | null => rfl
  | list items => by rw [toValue, Value.bare, bareItems_toValues items]

theorem bareItems_toValues : ∀ os : List Operand, Value.bareItems (toValues os) = toValues os
  | [] => rfl
  | o :: os => by rw [toValues, Value.bareItems, bare_toValue o, bareItems_toValues os]

end

end Operand

/-! ## Conditions -/

namespace Condition

/-- The condition looks neither at the value as it is stored nor, by a test of the caller's own, at
elements as they are stored. -/
def LooksUnder : Condition → Prop
  | isNull | isNotNull | isZero | isNotZero | anyElement _ | allElements _ => False
  | _ => True

variable {v v' : Value} {c : Condition}

theorem equals_bare_toValue (v : Value) (o : Operand) :
    v.bare.equals o.toValue = v.equals o.toValue := by
  rw [← v.equals_bare o.toValue, o.bare_toValue]

theorem isEqual_bare (v : Value) (o : Operand) : isEqual v.bare o = isEqual v o := by
  rw [isEqual, isEqual, equals_bare_toValue]

theorem any_isEqual_bareItems (items : List Value) (o : Operand) :
    (Value.bareItems items).any (isEqual · o) = items.any (isEqual · o) := by
  rw [Value.bareItems_eq_map, List.any_map]
  simp only [Function.comp_def, isEqual_bare]

theorem lookup_bareEntries (entries : List (Value × Value)) (key : Operand) :
    Value.lookup (Value.bareEntries entries) key.toValue =
      (Value.lookup entries key.toValue).map Value.bare := by
  rw [← Value.lookup_bare, key.bare_toValue]

theorem entryMatches_bareEntries (entries : List (Value × Value)) (key o : Operand) :
    entryMatches (Value.bareEntries entries) key o = entryMatches entries key o := by
  rw [entryMatches, entryMatches, lookup_bareEntries, Option.any_map]
  simp only [isEqual_bare]

/-- Only a text that is compared without letter case looks at an element as it is stored. -/
theorem elementEquals_eq_isEqual {o : Operand} {ignoreCase : Bool}
    (h : ∀ t, ¬ (o = .string t ∧ ignoreCase = true)) (item : Value) :
    elementEquals item o ignoreCase = isEqual item o := by
  unfold elementEquals
  split
  · rename_i t
    exact absurd ⟨rfl, rfl⟩ (h t)
  · rfl

theorem testConcrete_bare_sequence (hc : c.LooksUnder)
    (hfold : ∀ t, c ≠ hasElement (.string t) true) (items : List Value) :
    c.testConcrete (.sequence (Value.bareItems items)) = c.testConcrete (.sequence items) := by
  cases c with
  | isNull | isNotNull | isZero | isNotZero | anyElement test | allElements test => exact hc.elim
  | hasElement o ignoreCase =>
      have hequal : ∀ t, ¬ (o = .string t ∧ ignoreCase = true) := by
        rintro t ⟨rfl, rfl⟩
        exact hfold t rfl
      simp only [testConcrete, elementEquals_eq_isEqual hequal, any_isEqual_bareItems]
  | contains o | hasAnyElement os | hasAllElements os =>
      simp only [testConcrete, any_isEqual_bareItems]
  | regex r => cases r <;> rfl
  | _ => rfl

theorem testConcrete_bare_mapping (c : Condition) (entries : List (Value × Value)) :
    c.testConcrete (.mapping (Value.bareEntries entries)) = c.testConcrete (.mapping entries) := by
  cases c with
  | hasKey key => simp only [testConcrete, lookup_bareEntries, Option.isSome_map]
  | hasValue o =>
      simp only [testConcrete, Value.bareEntries_eq_map, List.any_map, Function.comp_def, Prod.map,
        isEqual_bare]
  | hasEntry key o | hasAllEntries pairs | hasAnyEntry pairs =>
      simp only [testConcrete, entryMatches_bareEntries]
  | sizeIs n | sizeAbove n | sizeBelow n => simp only [testConcrete, Value.length_bareEntries]
  | regex r => cases r <;> rfl
  | contains o => cases o <;> rfl
  | _ => rfl

theorem testConcrete_bare (hc : c.LooksUnder) (hfold : ∀ t, c ≠ hasElement (.string t) true)
    (hv : v.IsConcrete) : c.testConcrete v.bare = c.testConcrete v := by
  cases v with
  | null | present v => exact hv.elim
  | sequence items => exact testConcrete_bare_sequence hc hfold items
  | mapping entries => exact testConcrete_bare_mapping c entries
  | _ => rfl

/-- Conditions that look under optionals take a bare value for the value that it was. -/
theorem test_bare (hc : c.LooksUnder) (hfold : ∀ t, c ≠ hasElement (.string t) true) (v : Value) :
    c.test v.bare = c.test v := by
  have hderef : v.bare.deref.any c.testConcrete = v.deref.any c.testConcrete := by
    rw [Value.deref_bare]
    cases hw : v.deref with
    | none => rfl
    | some w => exact testConcrete_bare hc hfold (Value.isConcrete_of_deref hw)
  cases c with
  | isNull | isNotNull | isZero | isNotZero | anyElement test | allElements test => exact hc.elim
  | compare op o =>
      have hcompare := v.compare_bare o.toValue
      rw [o.bare_toValue] at hcompare
      cases op <;> simp only [test, equals_bare_toValue, hcompare]
  | isIn os => exact congrArg os.any (funext (isEqual_bare v))
  | _ => exact hderef

end Condition

end RecordQuery
