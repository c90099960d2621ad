import RecordQuery.Instant
import RecordQuery.Number

/-!
# Values

What a field of a record holds: text, a number, a truth value, an instant, a sequence, a mapping, a
null or present optional, or a record with fields of its own. `deref` follows optionals to what is
under them, and `isZero` tells the zero value of each kind. An operand, which a condition compares
fields with, presents itself as a value (`Operand.toValue`), so that one comparison serves both.
-/

namespace RecordQuery

inductive ZeroRule where
  | never
  /-- When all its fields are zero. -/
  | allFields
deriving DecidableEq

inductive Value where
  | string (s : String)
  | number (n : Number)
  | bool (b : Bool)
  | timestamp (t : Instant)
  | sequence (items : List Value)
  | mapping (entries : List (Value × Value))
  | null
  | present (v : Value)
  | record (rule : ZeroRule) (fields : List (String × Value))

abbrev Fields := List (String × Value)

def Fields.get? (fields : Fields) (name : String) : Option Value := List.lookup name fields

structure Record where
  rule : ZeroRule
  fields : Fields

namespace Value

/-- Follows optionals to the value under them; nothing when one of them is null. -/
def deref : Value → Option Value
  | null => none
  | present v => v.deref
  | v => some v

def kindName : Value → String
  | string _ => "string"
  | number n => n.widthName
  | bool _ => "bool"
  | timestamp _ => "timestamp"
  | sequence _ => "sequence"
  | mapping _ => "mapping"
  | null => "optional"
  | present _ => "optional"
  | record _ _ => "record"

mutual

/-- The value is the zero value of its kind: the empty text, numeric zero, falsehood, the epoch, an
empty collection, a null, or a record that its rule counts as zero. -/
def isZero : Value → Bool
  | string s => s.isEmpty
  | number n => n.isZero
  | bool b => !b
  | timestamp t => t.seconds == 0 && t.nanos == 0
  | sequence items => items.isEmpty
  | mapping entries => entries.isEmpty
  | null => true
  | present _ => false
  | record .never _ => false
  | record .allFields fields => fieldsAreZero fields

def fieldsAreZero : List (String × Value) → Bool
  | [] => true
  | (_, v) :: fields => v.isZero && fieldsAreZero fields

end

def isNull : Value → Bool
  | null => true
  | _ => false

def asString? : Value → Option String
  | string s => some s
  | _ => none

def asNumber? : Value → Option Number
  | number n => some n
  | _ => none

def asBool? : Value → Option Bool
  | bool b => some b
  | _ => none

def asTimestamp? : Value → Option Instant
  | timestamp t => some t
  | _ => none

def asSequence? : Value → Option (List Value)
  | sequence items => some items
  | _ => none

def asMapping? : Value → Option (List (Value × Value))
  | mapping entries => some entries
  | _ => none

/-! ## Dereferencing -/

@[simp] theorem deref_null : null.deref = none := rfl

@[simp] theorem deref_present (v : Value) : (present v).deref = v.deref := rfl

def IsConcrete : Value → Prop
  | null => False
  | present _ => False
  | _ => True

theorem isConcrete_of_deref {v w : Value} (h : v.deref = some w) : w.IsConcrete := by
  fun_induction deref v with
  | case1 => cases h
  | case2 v ih => exact ih h
  | case3 v h₁ h₂ =>
    cases h
    cases w <;> simp_all [IsConcrete]

theorem sizeOf_deref_le {v w : Value} (h : v.deref = some w) : sizeOf w ≤ sizeOf v := by
  fun_induction Value.deref v with
  | case1 => cases h
  | case2 v ih =>
    have := ih h
    simp only [present.sizeOf_spec]
    omega
  | case3 v =>
    cases h
    exact Nat.le_refl _

end Value

namespace Record

def get? (r : Record) (name : String) : Option Value := r.fields.get? name

def isZero (r : Record) : Bool := (Value.record r.rule r.fields).isZero

end Record

/-! ## Operands -/

inductive Operand where
  | string (s : String)
  | number (n : Number)
  | bool (b : Bool)
  | timestamp (t : Instant)
  | list (items : List Operand)
  | null

namespace Operand

mutual

def toValue : Operand → Value
  | string s => .string s
  | number n => .number n
  | bool b => .bool b
  | timestamp t => .timestamp t
  | list items => .sequence (toValues items)
  | null => .null

def toValues : List Operand → List Value
  | [] => []
  | o :: os => o.toValue :: toValues os

end

end Operand

end RecordQuery
