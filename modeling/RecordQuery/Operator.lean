/-!
# Comparison operators

The operators that a parameter key can name as its suffix. A key is a field followed by an
underscore and the operator's name, or a field alone for equality.
-/

namespace RecordQuery

inductive Operator where
  | eq
  | ne
  | gt
  | gte
  | lt
  | lte
  | isIn
  | contains
  | between
deriving DecidableEq

namespace Operator

def name : Operator → String
  | eq => "eq"
  | ne => "ne"
  | gt => "gt"
  | gte => "gte"
  | lt => "lt"
  | lte => "lte"
  | isIn => "in"
  | contains => "contains"
  | between => "between"

def accepts (op : Operator) (o : Ordering) : Bool :=
  match op with
  | eq => o == .eq
  | ne => o != .eq
  | gt => o == .gt
  | gte => o != .lt
  | lt => o == .lt
  | lte => o != .gt
  | isIn => false
  | contains => false
  | between => false

/-! ## Keys -/

def suffix (op : Operator) : List Char := '_' :: op.name.toList

/-- The operators that have a suffix, in the order in which they are tried. -/
def suffixed : List Operator := [between, contains, gte, gt, lte, lt, ne, isIn]

def dropSuffix? (suffix cs : List Char) : Option (List Char) :=
  if suffix.isSuffixOf cs then some (cs.take (cs.length - suffix.length)) else none

/-- The field before the operator's suffix, when there is one and it is not empty. -/
def fieldBefore? (cs : List Char) (op : Operator) : Option (List Char × Operator) :=
  match dropSuffix? op.suffix cs with
  | some (c :: field) => some (c :: field, op)
  | _ => none

/-- The field and the operator of a key, with the suffixes tried in a given order. -/
def splitKeyBy (order : List Operator) (key : String) : String × Operator :=
  match order.findSome? (fieldBefore? key.toList) with
  | some (field, op) => (String.ofList field, op)
  | none => (key, eq)

def splitKey (key : String) : String × Operator := splitKeyBy suffixed key

theorem dropSuffix?_eq_some_iff {suffix cs field : List Char} :
    dropSuffix? suffix cs = some field ↔ cs = field ++ suffix := by
  unfold dropSuffix?
  split
  · rename_i h
    obtain ⟨t, rfl⟩ := List.isSuffixOf_iff_suffix.1 h
    simp [eq_comm]
  · rename_i h
    simp only [reduceCtorEq, false_iff]
    rintro rfl
    exact h (List.isSuffixOf_iff_suffix.2 ⟨field, rfl⟩)

end Operator

end RecordQuery
