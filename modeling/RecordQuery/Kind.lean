import RecordQuery.Number

/-!
# Kinds

The declared shape of a field. Optional and sequence kinds have an element kind, the kind that is
left when every such layer is taken off (`element`); raw text is read as a value of it.
-/

namespace RecordQuery

inductive Kind where
  | string
  | integer (w : Width)
  | float (p : Precision)
  | bool
  | timestamp
  | sequence (k : Kind)
  | mapping
  | optional (k : Kind)
  | record
deriving DecidableEq

namespace Precision

def name : Precision → String
  | single => "f32"
  | double => "f64"

end Precision

namespace Kind

/-- The kind under all optional and sequence layers. -/
def element : Kind → Kind
  | sequence k => k.element
  | optional k => k.element
  | k => k

def isInteger : Kind → Bool
  | integer _ => true
  | _ => false

def isFloat : Kind → Bool
  | float _ => true
  | _ => false

def display : Kind → String
  | string => "string"
  | integer w => w.name
  | float p => p.name
  | bool => "bool"
  | timestamp => "timestamp"
  | sequence k => "[" ++ k.display ++ "]"
  | mapping => "mapping"
  | optional k => "optional " ++ k.display
  | record => "record"

end Kind

end RecordQuery
