import RecordQuery.Binary.Literal
import RecordQuery.Calendar.Layout
import RecordQuery.Kind
import RecordQuery.Value

/-!
# Reading raw text as a typed operand

Text from a query becomes an operand of the element kind of a field. Integers have to fit the width,
floating-point numbers are rounded once, truth values have six spellings each, and mappings and
records cannot be written as text.
-/

namespace RecordQuery

structure CoercionError where
  raw : String
  expected : String
deriving DecidableEq

def CoercionError.message (e : CoercionError) : String :=
  s!"cannot parse '{e.raw}' as {e.expected}"

def Sized.read (w : Width) (s : String) : Option Sized :=
  (Literal.readInteger w.isSigned s.toList).bind fun n =>
    if h : w.Holds n then some ⟨w, n, h⟩ else none

def Number.readFloat : Precision → String → Option Number
  | .single, s => (Literal.readFloat .single s.toList).map .single
  | .double, s => (Literal.readFloat .double s.toList).map .double

def readBool (s : String) : Option Bool :=
  if s ∈ ["1", "t", "T", "true", "TRUE", "True"] then some true
  else if s ∈ ["0", "f", "F", "false", "FALSE", "False"] then some false
  else none

/-- Reads text as an operand of a kind without optional or sequence layers. -/
def coerceElement (raw : String) : Kind → Option Operand
  | .string => some (.string raw)
  | .integer w => (Sized.read w raw).map fun n => .number (.integer n)
  | .float p => (Number.readFloat p raw).map .number
  | .bool => (readBool raw).map .bool
  | .timestamp => (Calendar.readTimestamp raw).map .timestamp
  | .mapping => none
  | .record => none
  | .sequence _ => none
  | .optional _ => none

def coerce (raw : String) (kind : Kind) : Except CoercionError Operand :=
  match coerceElement raw kind.element with
  | some o => .ok o
  | none => .error ⟨raw, kind.element.display⟩

end RecordQuery
