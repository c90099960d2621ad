import RecordQuery.Declaration.FieldType

/-!
# Parameters of a declared type

A declared type may have parameters: lifetimes, types and constants. Where the type is implemented
they are written with their bounds, to which every type parameter adds those of a field, and without
defaults; where the type is named they are written by name. Lifetimes come first in both places.
-/

namespace RecordQuery

inductive TypeParameter where
  | lifetime (name : String) (text : String)
  | constant (name : String) (text : String)
  | type (name : String) (bounds : String)
deriving DecidableEq

namespace TypeParameter

/-- The part before the first `=` that stands outside brackets, from a depth of brackets on. The
arrow of a function type is no bracket. -/
def beforeDefault : Nat → List Char → List Char
  | _, [] => []
  | depth, '-' :: '>' :: cs => '-' :: '>' :: beforeDefault depth cs
  | depth, c :: cs =>
    if c = '=' ∧ depth = 0 then []
    else if c = '<' ∨ c = '(' ∨ c = '[' then c :: beforeDefault (depth + 1) cs
    else if c = '>' ∨ c = ')' ∨ c = ']' then c :: beforeDefault (depth - 1) cs
    else c :: beforeDefault depth cs

/-- A text without blanks, split at its first colon. -/
def splitBounds (cs : List Char) : String × String :=
  (String.ofList (cs.takeWhile (· != ':')), String.ofList (cs.dropWhile (· != ':')).tail)

def read (text : String) : TypeParameter :=
  let words := Text.trimBlanks text.toList
  let plain := (beforeDefault 0 words).filter (!Text.isBlank ·)
  if words.head? = some '\'' then
    let (name, bounds) := splitBounds plain
    .lifetime name (if bounds.isEmpty then name else name ++ ":" ++ bounds)
  else if "const".toList.isPrefixOf words && (words.drop 5).head?.any Text.isBlank then
    .constant (splitBounds (plain.drop 5)).1 (String.ofList plain)
  else .type (splitBounds plain).1 (splitBounds plain).2

def name : TypeParameter → String
  | lifetime name _ => name
  | constant name _ => name
  | type name _ => name

def isLifetime : TypeParameter → Bool
  | lifetime _ _ => true
  | constant _ _ => false
  | type _ _ => false

/-- The bounds that make a type parameter usable as a field. -/
def fieldBounds : String := "::sift::FieldValue+::sift::FieldKind"

def implemented : TypeParameter → String
  | lifetime _ text => text
  | constant _ text => text
  | type name bounds =>
    if bounds.isEmpty then name ++ ":" ++ fieldBounds
    else if bounds.toList.getLast? = some '+' then name ++ ":" ++ bounds ++ fieldBounds
    else name ++ ":" ++ bounds ++ "+" ++ fieldBounds

/-- The parameters between angles, each followed by its comma if it has one. A comma is put after
the lifetimes when the last of them has none. -/
def bracketed (write : TypeParameter → String) (ps : List TypeParameter) : String :=
  match ps with
  | [] => ""
  | _ =>
    let last := ps.length - 1
    let written := ps.zipIdx.map fun (p, i) => (p, write p ++ if i < last then "," else "")
    let lifetimes := (written.filter (·.1.isLifetime)).map (·.2)
    let others := (written.filter (!·.1.isLifetime)).map (·.2)
    let comma := if !others.isEmpty && (ps.getLast?.any isLifetime) then "," else ""
    "<" ++ String.join lifetimes ++ comma ++ String.join others ++ ">"

end TypeParameter

end RecordQuery
