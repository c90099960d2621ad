import RecordQuery.Proofs.Coercion
import RecordQuery.Proofs.Equality

/-!
# Values of a kind

A field of a declared kind holds values of the kind (`Value.OfKind`). When the kind is a scalar one
whose values are all defined, every value that is not null compares with every operand that text is
read as for the kind (`exists_compare_of_ofKind`).
-/

namespace RecordQuery

inductive Value.OfKind : Kind → Value → Prop
  | string (s : String) : OfKind .string (.string s)
  | integer (n : Sized) : OfKind (.integer n.width) (.number (.integer n))
  | single (x : Binary .single) : OfKind (.float .single) (.number (.single x))
  | double (x : Binary .double) : OfKind (.float .double) (.number (.double x))
  | bool (b : Bool) : OfKind .bool (.bool b)
  | timestamp (t : Instant) : OfKind .timestamp (.timestamp t)
  | sequence {k : Kind} {items : List Value} : (∀ v ∈ items, OfKind k v) →
      OfKind (.sequence k) (.sequence items)
  | mapping (entries : List (Value × Value)) : OfKind .mapping (.mapping entries)
  | null (k : Kind) : OfKind (.optional k) .null
  | present {k : Kind} {v : Value} : OfKind k v → OfKind (.optional k) (.present v)
  | record (rule : ZeroRule) (fields : Fields) : OfKind .record (.record rule fields)

/-- Texts, integers, truth values and instants, under any number of optionals: the scalars without
an undefined number. -/
inductive Kind.Exact : Kind → Prop
  | string : Exact .string
  | integer (w : Width) : Exact (.integer w)
  | bool : Exact .bool
  | timestamp : Exact .timestamp
  | optional {k : Kind} : Exact k → Exact (.optional k)

theorem Operand.OfKind.isScalar {k : Kind} {o : Operand} (h : o.OfKind k) :
    o.toValue.IsScalar := by
  cases h with
  | string s => exact .string s
  | integer n => exact .number _
  | single x => exact .number _
  | double x => exact .number _
  | bool b => exact .bool b
  | timestamp t => exact .timestamp t

theorem Value.IsScalar.deref {v : Value} (h : v.IsScalar) : v.deref = some v := by
  cases h <;> rfl

theorem Value.OfKind.exists_integer {w : Width} {v : Value} (h : v.OfKind (.integer w)) :
    ∃ n, v = .number (.integer n) := by
  generalize hk : Kind.integer w = k at h
  cases h with
  | integer n => exact ⟨n, rfl⟩
  | _ => cases hk

theorem Operand.OfKind.exists_integer {w : Width} {o : Operand} (h : o.OfKind (.integer w)) :
    ∃ n, o = .number (.integer n) := by
  generalize hk : Kind.integer w = k at h
  cases h with
  | integer n => exact ⟨n, rfl⟩
  | _ => cases hk

theorem exists_compareConcrete_of_ofKind {k : Kind} (hk : k.Exact) {o : Operand}
    (ho : o.OfKind k.element) {v w : Value} (hv : v.OfKind k) (hw : v.deref = some w) :
    ∃ ord, w.compareConcrete o.toValue = some ord := by
  induction hk generalizing v with
  | optional _ ih =>
      cases hv with
      | null => cases hw
      | present hv => exact ih ho hv hw
  | integer _ =>
      obtain ⟨m, rfl⟩ := hv.exists_integer
      obtain ⟨n, rfl⟩ := ho.exists_integer
      cases hw
      exact ⟨_, rfl⟩
  | _ =>
      cases hv
      cases hw
      cases ho
      exact ⟨_, rfl⟩

theorem exists_compare_of_ofKind {k : Kind} (hk : k.Exact) {o : Operand}
    (ho : o.OfKind k.element) {v : Value} (hv : v.OfKind k) (hnull : v.deref ≠ none) :
    ∃ ord, v.compare o.toValue = some ord := by
  obtain ⟨w, hw⟩ := Option.ne_none_iff_exists'.1 hnull
  rw [Value.compare, hw, ho.isScalar.deref]
  exact exists_compareConcrete_of_ofKind hk ho hv hw

end RecordQuery
