import RecordQuery.Kind
import RecordQuery.Path
import RecordQuery.Text.Case

/-!
# Registries

A registry holds the fields of a record type that queries may name, each under its column name: the
declared one, or the segments of the path in snake case. When two fields have one column name the
later field has it alone, for filtering and for sorting alike.
-/

namespace RecordQuery

/-! ## Snake case -/

/-- A separator stands before an upper-case character that follows a lower-case one, or that follows
an upper-case one and precedes a lower-case one. -/
def startsWord (previous : Option Char) (c : Char) (next : Option Char) : Bool :=
  Text.isUppercase c && previous.any fun p =>
    Text.isLowercase p || (Text.isUppercase p && next.any Text.isLowercase)

def snakeFrom (previous : Option Char) : List Char → List Char
  | [] => []
  | c :: cs =>
    (if startsWord previous c cs.head? then ['_'] else [])
      ++ (if Text.isUppercase c then Text.lowerChar c else [c])
      ++ snakeFrom (some c) cs

def snakeCase (name : String) : String := String.ofList (snakeFrom none name.toList)

/-! ## Descriptors -/

structure Descriptor where
  path : FieldPath
  kind : Kind
  column : Option String := none
  filterable : Bool := false
  sortable : Bool := false
deriving DecidableEq

namespace Descriptor

def columnName (d : Descriptor) : String :=
  match d.column with
  | some column => column
  | none => Text.joinTexts '_' (d.path.segments.map snakeCase)

end Descriptor

/-! ## Registries -/

abbrev Columns := List (String × Nat)

namespace Columns

/-- Gives a name a position, in place of the one that it may have had. -/
def insert (columns : Columns) (name : String) (position : Nat) : Columns :=
  match columns with
  | [] => [(name, position)]
  | (n, i) :: rest =>
    if n = name then (n, position) :: rest else (n, i) :: insert rest name position

end Columns

structure Registry where
  fields : List Descriptor
deriving DecidableEq

namespace Registry

/-- The columns of the fields, which are entered in turn: a later field takes a name over from an
earlier one. -/
def columns (r : Registry) : Columns :=
  r.fields.zipIdx.foldl (fun columns (d, i) => columns.insert d.columnName i) []

def get? (r : Registry) (column : String) : Option Descriptor :=
  (r.columns.lookup column).bind (r.fields[·]?)

def filterable? (r : Registry) (column : String) : Option Descriptor :=
  (r.get? column).filter (·.filterable)

def sortable? (r : Registry) (column : String) : Option Descriptor :=
  (r.get? column).filter (·.sortable)

theorem filterable?_eq_some_iff {r : Registry} {column : String} {d : Descriptor} :
    r.filterable? column = some d ↔ r.get? column = some d ∧ d.filterable = true :=
  Option.filter_eq_some_iff

theorem sortable?_eq_some_iff {r : Registry} {column : String} {d : Descriptor} :
    r.sortable? column = some d ↔ r.get? column = some d ∧ d.sortable = true :=
  Option.filter_eq_some_iff

end Registry

end RecordQuery
