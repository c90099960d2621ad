import RecordQuery.Comparison
import RecordQuery.Path

/-!
# Sorting records

Records are sorted by the value at a path, ascending or descending. Texts come before numbers, these
before truth values and these before instants; a record without such a value, or with an undefined
number, comes after all others in either direction. Records that compare equal keep their places.
-/

namespace RecordQuery

inductive Direction where
  | ascending
  | descending
deriving DecidableEq

namespace Direction

def standard : Direction := ascending

def isAscending : Direction → Bool
  | ascending => true
  | descending => false

def isDescending : Direction → Bool
  | ascending => false
  | descending => true

def name : Direction → String
  | ascending => "asc"
  | descending => "desc"

def apply : Direction → Ordering → Ordering
  | ascending, o => o
  | descending, o => o.swap

end Direction

structure Order where
  field : FieldPath
  direction : Direction
deriving DecidableEq

namespace Order

/-- Reads a sort parameter: a minus sign in front of the field means descending. -/
def parse (raw : String) : Order :=
  match raw.toList with
  | '-' :: field => ⟨.parse (String.ofList field), .descending⟩
  | _ => ⟨.parse raw, .ascending⟩

/-! ## Sort keys -/

/-- A value can be a sort key: a text, a number that is defined, a truth value or an instant. -/
def isKey : Value → Bool
  | .string _ => true
  | .number n => !n.isNaN
  | .bool _ => true
  | .timestamp _ => true
  | _ => false

def key? (r : Record) (path : FieldPath) : Option Value :=
  match r.resolve path with
  | .error _ => none
  | .ok v => v.deref.filter isKey

def rank : Value → Nat
  | .string _ => 0
  | .number _ => 1
  | .bool _ => 2
  | _ => 3

/-- The order of two keys. Records without a key come last in either direction. -/
def compareKeys (d : Direction) : Option Value → Option Value → Ordering
  | some a, some b =>
    d.apply ((compare (rank a) (rank b)).then ((a.compare b).getD .eq))
  | some _, none => .lt
  | none, some _ => .gt
  | none, none => .eq

/-! ## Stable sorting -/

section Insertion

variable {α : Type} (less : α → α → Bool)

/-- Puts an item into a list in falling order, before the first item that it is not less than. -/
def insert (x : α) : List α → List α
  | [] => [x]
  | y :: ys => if less x y then y :: insert x ys else x :: y :: ys

/-- Each item in turn goes behind those that it is not less than, so items of which neither is less
keep their places. If `less` is the strict part of a total preorder, the items are in rising order.
For any other comparison, as that of sort keys in mixed number formats, the order that the standard
sort leaves is unspecified and it may panic; one outcome is taken here. -/
def stableSort (items : List α) : List α :=
  (items.foldl (fun sorted x => insert less x sorted) []).reverse

end Insertion

def sortBy {α : Type} (record : α → Record) (order : Order) (items : List α) : List α :=
  let keyed := items.map fun item => (key? (record item) order.field, item)
  (stableSort (fun a b => compareKeys order.direction a.1 b.1 == .lt) keyed).map (·.2)

def sort (order : Order) (records : List Record) : List Record := order.sortBy id records

end Order

end RecordQuery
