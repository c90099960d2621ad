import RecordQuery.Order
import RecordQuery.Page

/-!
# Query options

The defaults and limits that apply when a query is compiled, and their form as documents. In an
object, members that are absent keep their defaults and unknown ones are passed over; an array
gives the members in order and may be short. Whole numbers written without a point or an exponent
are told apart from all others, since counts have to be written that way.
-/

namespace RecordQuery

/-! ## Documents -/

inductive Json where
  | null
  | bool (b : Bool)
  | integer (n : Int)
  /-- A number written with a point or an exponent, or beyond the words of 64 bits. -/
  | decimal (text : String)
  | string (s : String)
  | array (items : List Json)
  | object (members : List (String × Json))

namespace Json

/-- The member of an object with a name; of two members with one name the later counts. -/
def member? (members : List (String × Json)) (name : String) : Option Json :=
  (members.reverse.find? (·.1 == name)).map (·.2)

end Json

/-! ## Options -/

def defaultLimit : Nat := 20

structure Options where
  defaultLimit : Nat := RecordQuery.defaultLimit
  maxLimit : Option Nat := none
  defaultSort : Option Order := none
deriving DecidableEq

/-! ## Orders as documents -/

namespace Direction

def toJson (d : Direction) : Json := .string d.name

def ofName? (name : String) : Option Direction :=
  if name = "asc" then some ascending
  else if name = "desc" then some descending
  else none

/-- A direction is its name, or an object with the name for its only member and null in it. -/
def ofJson? : Json → Option Direction
  | .string name => ofName? name
  | .object [(name, .null)] => ofName? name
  | _ => none

end Direction

namespace FieldPath

def toJson (p : FieldPath) : Json := .string p.display

def ofJson? : Json → Option FieldPath
  | .string text => some (.parse text)
  | _ => none

end FieldPath

namespace Order

def toJson (o : Order) : Json :=
  .object [("field", o.field.toJson), ("dir", o.direction.toJson)]

/-- An order is an object with both members, or an array of both. -/
def ofJson? : Json → Option Order
  | .object members => do
    let field ← (Json.member? members "field").bind FieldPath.ofJson?
    let direction ← (Json.member? members "dir").bind Direction.ofJson?
    some ⟨field, direction⟩
  | .array [field, direction] => do
    some ⟨← FieldPath.ofJson? field, ← Direction.ofJson? direction⟩
  | _ => none

end Order

/-! ## Options as documents -/

def countOfJson? : Json → Option Nat
  | .integer n => if 0 ≤ n ∧ n ≤ maxCount then some n.toNat else none
  | _ => none

def optionalOfJson? {α : Type} (read : Json → Option α) : Json → Option (Option α)
  | .null => some none
  | j => (read j).map some

namespace Options

def toJson (o : Options) : Json :=
  .object [
    ("default_limit", .integer o.defaultLimit),
    ("max_limit", match o.maxLimit with | some n => .integer n | none => .null),
    ("default_sort", match o.defaultSort with | some s => s.toJson | none => .null)]

def memberOr {α : Type} (read : Json → Option α) (standard : α) : Option Json → Option α
  | none => some standard
  | some j => read j

def ofMembers? (limit max sort : Option Json) : Option Options := do
  let standard : Options := {}
  let defaultLimit ← memberOr countOfJson? standard.defaultLimit limit
  let maxLimit ← memberOr (optionalOfJson? countOfJson?) standard.maxLimit max
  let defaultSort ← memberOr (optionalOfJson? Order.ofJson?) standard.defaultSort sort
  some { defaultLimit, maxLimit, defaultSort }

def ofJson? : Json → Option Options
  | .object members =>
    ofMembers? (Json.member? members "default_limit") (Json.member? members "max_limit")
      (Json.member? members "default_sort")
  | .array items =>
    if items.length ≤ 3 then ofMembers? items[0]? items[1]? items[2]? else none
  | _ => none

end Options

end RecordQuery
