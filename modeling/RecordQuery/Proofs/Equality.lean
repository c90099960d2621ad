import RecordQuery.Condition

/-!
# The equality of values

Equality looks under the optionals of both values once and then goes by what is there (`equals_eq`).
Next to a scalar it is the order that decides (`equals_eq_map_compare`), so that every operator asks
for the order of the field and its operand (`test_compare_eq`).
-/

namespace RecordQuery

namespace Value

theorem equals_eq (a b : Value) : a.equals b =
    match a.deref, b.deref with
    | none, none => some true
    | none, some _ => none
    | some _, none => none
    | some (.sequence xs), some (.sequence ys) =>
      if xs.length = ys.length then equalItems xs ys else some false
    | some (.mapping xs), some (.mapping ys) =>
      if xs.length = ys.length then equalEntries xs ys else some false
    | some x, some y => (x.compareConcrete y).map (· == .eq) := by
  rw [equals]
  split <;> simp_all

inductive IsScalar : Value → Prop
  | string (s : String) : IsScalar (.string s)
  | number (n : Number) : IsScalar (.number n)
  | bool (b : Bool) : IsScalar (.bool b)
  | timestamp (t : Instant) : IsScalar (.timestamp t)

theorem equals_eq_map_compare (a : Value) {b : Value} (hb : b.IsScalar) :
    a.equals b = (a.compare b).map (· == .eq) := by
  rw [equals_eq, compare]
  cases hb <;> cases a.deref with
    | none => rfl
    | some x => cases x <;> rfl

end Value

namespace Condition

theorem test_compare_eq (op : Operator) {o : Operand} (ho : o.toValue.IsScalar) (v : Value) :
    (compare op o).test v = (v.compare o.toValue).any op.accepts := by
  have hequals := v.equals_eq_map_compare ho
  cases op with
  | eq =>
      change (v.equals o.toValue == some true) = _
      rw [hequals]
      cases v.compare o.toValue with
      | none => rfl
      | some ord => cases ord <;> rfl
  | ne =>
      change (v.equals o.toValue == some false) = _
      rw [hequals]
      cases v.compare o.toValue with
      | none => rfl
      | some ord => cases ord <;> rfl
  | _ => rfl

end Condition

end RecordQuery
