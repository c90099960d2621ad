import RecordQuery.Text.Basic
import RecordQuery.Value

/-!
# Field paths

A path names a field, or a field of a record within a field, by segments between dots. A path and
its text determine each other (`display_parse`, `parse_display`). Resolving a path walks from record
to record, looking under optionals on the way, and returns the last value as it is stored.
-/

namespace RecordQuery

structure FieldPath where
  segments : List String
  nonempty : segments ≠ []
  dotless : ∀ s ∈ segments, '.' ∉ s.toList
deriving DecidableEq

namespace FieldPath

def parse (text : String) : FieldPath where
  segments := Text.splitText '.' text
  nonempty := Text.splitText_ne_nil '.' text
  dotless := by
    intro s hs
    obtain ⟨cs, hcs, rfl⟩ := List.mem_map.1 hs
    simpa using Text.not_mem_of_mem_splitOn hcs

def display (p : FieldPath) : String := Text.joinTexts '.' p.segments

def leaf (p : FieldPath) : String := p.segments.getLast p.nonempty

theorem display_parse (text : String) : (parse text).display = text :=
  Text.joinTexts_splitText '.' text

theorem parse_display (p : FieldPath) : parse p.display = p := by
  have h := Text.splitText_joinTexts p.nonempty p.dotless
  cases p
  simpa [parse, display] using h

end FieldPath

/-! ## Resolution -/

inductive FieldError where
  | notFound (segment : String)
  | nilReference (segment : String)
  | notComposite (segment : String) (kind : String)
deriving DecidableEq

namespace FieldError

def message : FieldError → String
  | notFound segment => s!"no field named '{segment}'"
  | nilReference segment => s!"field '{segment}' is null"
  | notComposite segment kind => s!"field '{segment}' is a {kind}, not a record"

end FieldError

namespace Fields

/-- The value at the end of the segments. Each segment but the last has to lead to a record. -/
def resolve (fields : Fields) : List String → Except FieldError Value
  | [] => .error (.notFound "")
  | [s] =>
    match fields.get? s with
    | none => .error (.notFound s)
    | some v => .ok v
  | s :: next :: rest =>
    match fields.get? s with
    | none => .error (.notFound s)
    | some v =>
      match v.deref with
      | none => .error (.nilReference s)
      | some (.record _ inner) => resolve inner (next :: rest)
      | some other => .error (.notComposite s other.kindName)

end Fields

namespace Record

def resolve (r : Record) (p : FieldPath) : Except FieldError Value := r.fields.resolve p.segments

end Record

end RecordQuery
