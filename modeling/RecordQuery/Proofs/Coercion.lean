import RecordQuery.Coercion

/-!
# Operands of a kind

What raw text becomes when it is read for a kind: a scalar operand of exactly the variant and the
width that the element kind names (`ofKind_of_coerce`).
-/

namespace RecordQuery

/-- The operand is a scalar of the kind, in its width or precision. -/
inductive Operand.OfKind : Kind → Operand → Prop
  | string (s : String) : OfKind .string (.string s)
  | integer (n : Sized) : OfKind (.integer n.width) (.number (.integer n))
  | single (x : Binary .single) : OfKind (.float .single) (.number (.single x))
  | double (x : Binary .double) : OfKind (.float .double) (.number (.double x))
  | bool (b : Bool) : OfKind .bool (.bool b)
  | timestamp (t : Instant) : OfKind .timestamp (.timestamp t)

theorem Sized.width_of_read {w : Width} {s : String} {n : Sized} (h : Sized.read w s = some n) :
    n.width = w := by
  obtain ⟨m, -, hm⟩ := Option.bind_eq_some_iff.1 h
  split at hm
  · cases hm
    rfl
  · cases hm

theorem Number.ofKind_of_readFloat {p : Precision} {s : String} {x : Number}
    (h : Number.readFloat p s = some x) : Operand.OfKind (.float p) (.number x) := by
  cases p with
  | single =>
      obtain ⟨y, -, rfl⟩ := Option.map_eq_some_iff.1 h
      exact .single y
  | double =>
      obtain ⟨y, -, rfl⟩ := Option.map_eq_some_iff.1 h
      exact .double y

theorem ofKind_of_coerceElement {raw : String} {k : Kind} {o : Operand}
    (h : coerceElement raw k = some o) : o.OfKind k := by
  cases k with
  | string =>
      cases h
      exact .string raw
  | integer w =>
      obtain ⟨n, hn, rfl⟩ := Option.map_eq_some_iff.1 h
      rw [← Sized.width_of_read hn]
      exact .integer n
  | float p =>
      obtain ⟨x, hx, rfl⟩ := Option.map_eq_some_iff.1 h
      exact Number.ofKind_of_readFloat hx
  | bool =>
      obtain ⟨b, -, rfl⟩ := Option.map_eq_some_iff.1 h
      exact .bool b
  | timestamp =>
      obtain ⟨t, -, rfl⟩ := Option.map_eq_some_iff.1 h
      exact .timestamp t
  | mapping => cases h
  | record => cases h
  | sequence k => cases h
  | optional k => cases h

theorem coerce_eq_ok_iff {raw : String} {k : Kind} {o : Operand} :
    coerce raw k = .ok o ↔ coerceElement raw k.element = some o := by
  unfold coerce
  cases coerceElement raw k.element <;> simp

theorem ofKind_of_coerce {raw : String} {k : Kind} {o : Operand} (h : coerce raw k = .ok o) :
    o.OfKind k.element :=
  ofKind_of_coerceElement (coerce_eq_ok_iff.1 h)

end RecordQuery
