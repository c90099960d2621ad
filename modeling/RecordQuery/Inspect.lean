import RecordQuery.Query
import RecordQuery.Text.Category

/-!
# Inspection

The text of each data type that shows its whole structure: constructors with their arguments in
parentheses, records with named fields in braces, lists in brackets and texts in quotes, with
escapes for characters that do not show.
-/

namespace RecordQuery

/-! ## Quoted texts -/

namespace Text

/-- The categories of characters that do not show: controls, separators and code points without a
character. -/
def hiddenCategories : List Ranges := [
  Category.control, Category.format, Category.unassigned, Category.privateUse,
  Category.lineSeparator, Category.paragraphSeparator, Category.spaceSeparator]

/-- The character shows. The ASCII space does, unlike other spaces. -/
def isShown (c : Char) : Bool :=
  if c.toNat < 0x7F then 0x20 ≤ c.toNat else hiddenCategories.all (!·.contains c)

def codePointEscape (c : Char) : List Char :=
  '\\' :: 'u' :: '\x7b' :: (Nat.toDigits 16 c.toNat ++ ['\x7d'])

def escapeChar (c : Char) : List Char :=
  match c with
  | '\x00' => ['\\', '0']
  | '\t' => ['\\', 't']
  | '\r' => ['\\', 'r']
  | '\n' => ['\\', 'n']
  | '\\' => ['\\', '\\']
  | '"' => ['\\', '"']
  | c =>
    if c.toNat < 0x7F then if isShown c then [c] else codePointEscape c
    else if Property.graphemeExtend.contains c || !isShown c then codePointEscape c
    else [c]

def quoted (s : String) : String :=
  String.ofList ('"' :: (s.toList.flatMap escapeChar ++ ['"']))

end Text

/-! ## Shapes -/

namespace Inspect

def commas (items : List String) : String := String.intercalate ", " items

def call (name : String) (arguments : List String) : String :=
  name ++ "(" ++ commas arguments ++ ")"

def list (items : List String) : String := "[" ++ commas items ++ "]"

def pair (a b : String) : String := "(" ++ a ++ ", " ++ b ++ ")"

def entries (items : List (String × String)) : String :=
  "\x7b" ++ commas (items.map fun (k, v) => k ++ ": " ++ v) ++ "\x7d"

def record (name : String) (fields : List (String × String)) : String :=
  name ++ " \x7b " ++ commas (fields.map fun (k, v) => k ++ ": " ++ v) ++ " \x7d"

def option : Option String → String
  | none => "None"
  | some s => call "Some" [s]

def bool (b : Bool) : String := if b then "true" else "false"

end Inspect

open Inspect

/-! ## Scalars -/

namespace Width

def tag : Width → String
  | i8 => "I8"
  | i16 => "I16"
  | i32 => "I32"
  | i64 => "I64"
  | u8 => "U8"
  | u16 => "U16"
  | u32 => "U32"
  | u64 => "U64"

end Width

namespace Precision

def tag : Precision → String
  | single => "F32"
  | double => "F64"

end Precision

namespace Number

def inspect : Number → String
  | integer n => call n.width.tag [toString n.value]
  | single x => call "F32" [x.inspect]
  | double x => call "F64" [x.inspect]

end Number

namespace Kind

def inspect : Kind → String
  | string => "String"
  | integer w => w.tag
  | float p => p.tag
  | bool => "Bool"
  | timestamp => "Timestamp"
  | sequence k => call "Sequence" [k.inspect]
  | mapping => "Mapping"
  | optional k => call "Optional" [k.inspect]
  | record => "Record"

end Kind

/-! ## Values and operands -/

namespace Value

mutual

def inspect : Value → String
  | string s => call "String" [Text.quoted s]
  | number n => call "Number" [n.inspect]
  | bool b => call "Bool" [Inspect.bool b]
  | timestamp t => call "Timestamp" [t.inspect]
  | sequence items => Inspect.list (inspectItems items)
  | mapping items => Inspect.entries (inspectEntries items)
  | null => "Null"
  | present v => call "Some" [v.inspect]
  | record _ _ => "Record(..)"

def inspectItems : List Value → List String
  | [] => []
  | v :: vs => v.inspect :: inspectItems vs

def inspectEntries : List (Value × Value) → List (String × String)
  | [] => []
  | (k, v) :: es => (k.inspect, v.inspect) :: inspectEntries es

end

end Value

namespace Operand

mutual

def inspect : Operand → String
  | string s => call "String" [Text.quoted s]
  | number n => call "Number" [n.inspect]
  | bool b => call "Bool" [Inspect.bool b]
  | timestamp t => call "Timestamp" [t.inspect]
  | list items => call "List" [Inspect.list (inspectItems items)]
  | null => "Null"

def inspectItems : List Operand → List String
  | [] => []
  | o :: os => o.inspect :: inspectItems os

end

end Operand

/-! ## Predicates -/

def FieldPath.inspect (p : FieldPath) : String :=
  record "FieldPath" [("segments", list (p.segments.map Text.quoted))]

namespace Operator

def tag : Operator → String
  | eq => "Eq"
  | ne => "Ne"
  | gt => "Gt"
  | gte => "Gte"
  | lt => "Lt"
  | lte => "Lte"
  | isIn => "In"
  | contains => "Contains"
  | between => "Between"

end Operator

namespace MatchMode

def tag : MatchMode → String
  | exact => "Exact"
  | contains => "Contains"
  | start => "Prefix"
  | finish => "Suffix"

end MatchMode

namespace Condition

def inspectList (os : List Operand) : String := Inspect.list (os.map Operand.inspect)

def inspectPairs (pairs : List (Operand × Operand)) : String :=
  Inspect.list (pairs.map fun (k, o) => pair k.inspect o.inspect)

def inspect : Condition → String
  | compare op o => call "Compare" [op.tag, o.inspect]
  | isIn os => call "In" [inspectList os]
  | contains o => call "Contains" [o.inspect]
  | text needle mode ignoreCase =>
    record "Text" [("value", Text.quoted needle),
      ("options", record "MatchOptions" [("mode", mode.tag), ("ignore_case", bool ignoreCase)])]
  | regex r => call "Regex" [option (r.map fun r => call "Regex" [Text.quoted r.pattern])]
  | isNull => "IsNil"
  | isNotNull => "IsNotNil"
  | isZero => "IsZero"
  | isNotZero => "IsNotZero"
  | before t => call "Before" [t.inspect]
  | after t => call "After" [t.inspect]
  | hasElement o ignoreCase =>
    record "SequenceContains" [("value", o.inspect), ("ignore_case", bool ignoreCase)]
  | hasAnyElement os => call "SequenceContainsAny" [inspectList os]
  | hasAllElements os => call "SequenceContainsAll" [inspectList os]
  | anyElement _ => call "AnyElement" ["ElementTest(..)"]
  | allElements _ => call "AllElements" ["ElementTest(..)"]
  | hasKey key => call "HasKey" [key.inspect]
  | hasValue o => call "HasValue" [o.inspect]
  | hasEntry key o => call "KeyValueEquals" [key.inspect, o.inspect]
  | hasAllEntries pairs => call "ContainsAllEntries" [inspectPairs pairs]
  | hasAnyEntry pairs => call "ContainsAnyEntry" [inspectPairs pairs]
  | sizeIs n => call "SizeEquals" [toString n]
  | sizeAbove n => call "SizeGreaterThan" [toString n]
  | sizeBelow n => call "SizeLessThan" [toString n]

end Condition

def Clause.inspect (c : Clause) : String :=
  record "Clause" [("path", c.path.inspect), ("condition", c.condition.inspect)]

namespace Geo

def Point.inspect (p : Point) : String :=
  record "Point" [("lat", p.lat.inspect), ("lng", p.lng.inspect)]

def Area.inspect : Area → String
  | circle center km => record "Radius" [("center", center.inspect), ("km", km.inspect)]
  | box b => call "Box" [record "BoundingBox" [
      ("south_west", b.southWest.inspect), ("north_east", b.northEast.inspect)]]

def Clause.inspect (c : Clause) : String :=
  record "GeoClause" [
    ("coordinates", record "Coordinates" [
      ("lat", c.coordinates.lat.inspect), ("lng", c.coordinates.lng.inspect)]),
    ("area", c.area.inspect)]

end Geo

namespace Predicate

mutual

def inspect : Predicate → String
  | field c => call "Field" [c.inspect]
  | geo c => call "Geo" [c.inspect]
  | all ps => call "And" [Inspect.list (inspectAll ps)]
  | any ps => call "Or" [Inspect.list (inspectAll ps)]
  | not p => call "Not" [p.inspect]
  | custom _ => "Custom(..)"

def inspectAll : List Predicate → List String
  | [] => []
  | p :: ps => p.inspect :: inspectAll ps

end

end Predicate

/-! ## Queries -/

def Direction.tag : Direction → String
  | .ascending => "Asc"
  | .descending => "Desc"

def Order.inspect (o : Order) : String :=
  record "OrderBy" [("field", o.field.inspect), ("dir", o.direction.tag)]

def Options.inspect (o : Options) : String :=
  record "QueryOptions" [
    ("default_limit", toString o.defaultLimit),
    ("max_limit", option (o.maxLimit.map toString)),
    ("default_sort", option (o.defaultSort.map Order.inspect))]

def Params.inspect (p : Params) : String :=
  record "Params" [("values", Inspect.entries (p.entries.map fun (key, values) =>
    (Text.quoted key, list (values.map Text.quoted))))]

def FilterValue.inspect : FilterValue → String
  | .single o => call "Single" [o.inspect]
  | .list os => call "List" [Inspect.list (os.map Operand.inspect)]
  | .range least greatest => call "Range" [least.inspect, greatest.inspect]

def Filter.inspect (f : Filter) : String :=
  record "FilterSpec" [
    ("field", f.path.inspect), ("op", f.op.tag), ("value", f.value.inspect)]

def Query.inspect (q : Query) : String :=
  record "CompiledQuery" [
    ("filters", list (q.filters.map Filter.inspect)),
    ("sort", option (q.sort.map Order.inspect)),
    ("page", toString q.page),
    ("limit", toString q.limit)]

def QueryError.inspect : QueryError → String
  | notFilterable column => call "FieldNotFilterable" [Text.quoted column]
  | notSortable column => call "FieldNotSortable" [Text.quoted column]
  | invalidValue column value expected =>
    record "InvalidValue" [("field", Text.quoted column), ("value", Text.quoted value),
      ("expected", Text.quoted expected)]
  | limitExceeded requested max =>
    record "LimitExceeded" [("requested", toString requested), ("max", toString max)]

def Query.inspectResult : Except QueryError Query → String
  | .ok q => call "Ok" [q.inspect]
  | .error e => call "Err" [e.inspect]

end RecordQuery
