import RecordQuery.Kind
import RecordQuery.Text.Basic

/-!
# Declared types of fields

The kind of a field, read off the type that it is declared with. Boxes are looked through, optional
types and sequences wrap the kind of what they hold, and a type that is not built in is a record.
-/

namespace RecordQuery

namespace FieldType

def between? (opening closing : String) (cs : List Char) : Option (List Char) :=
  if opening.toList.isPrefixOf cs && closing.toList.isSuffixOf cs then
    some ((cs.drop opening.length).take (cs.length - opening.length - closing.length))
  else none

def plainKinds : List (String × Kind) := [
  ("i8", .integer .i8), ("i16", .integer .i16), ("i32", .integer .i32), ("i64", .integer .i64),
  ("isize", .integer .i64), ("u8", .integer .u8), ("u16", .integer .u16), ("u32", .integer .u32),
  ("u64", .integer .u64), ("usize", .integer .u64), ("f32", .float .single),
  ("f64", .float .double), ("bool", .bool), ("String", .string), ("str", .string),
  ("NaiveDate", .timestamp)]

inductive Layer where
  | optional
  | sequence
  | box

def Layer.wrap : Layer → Kind → Kind
  | optional, k => .optional k
  | sequence, k => .sequence k
  | box, k => k

/-- The part of the text of an array type that names its items. -/
def itemType (cs : List Char) : List Char := (cs.reverse.dropWhile (· != ';')).tail.reverse

/-- The outermost layer of a type, and the type within. -/
def peel? (cs : List Char) : Option (Layer × List Char) :=
  ((between? "Option<" ">" cs).map (Layer.optional, ·)).or <|
  ((between? "Vec<" ">" cs).map (Layer.sequence, ·)).or <|
  ((between? "Box<" ">" cs).map (Layer.box, ·)).or <|
  (between? "[" "]" cs).map fun inner => (Layer.sequence, itemType inner)

/-- The kind of a type that has no layers and may have arguments. A reference can only be one to
text. -/
def namedKind (cs : List Char) : Kind :=
  if (between? "&" "str" cs).isSome then .string
  else if (between? "DateTime<" ">" cs).isSome then .timestamp
  else if (between? "HashMap<" ">" cs).isSome || (between? "BTreeMap<" ">" cs).isSome then .mapping
  else (List.lookup (String.ofList cs) plainKinds).getD .record

def kindOf (cs : List Char) : Kind :=
  match peel? cs with
  | some (layer, inner) =>
    if _h : inner.length < cs.length then layer.wrap (kindOf inner) else .record
  | none => namedKind cs
termination_by cs.length

end FieldType

def Text.withoutBlanks (s : String) : String := String.ofList (s.toList.filter (!Text.isBlank ·))

def Kind.ofType (type : String) : Kind := FieldType.kindOf (Text.withoutBlanks type).toList

end RecordQuery
