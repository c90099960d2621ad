/-!
# Annotations of fields

A declared field may carry annotations, each a name with a list of items in parentheses. The one
that counts here is called `query`; its items say whether queries may filter and sort by the field,
under which column name, or that the field is to be skipped altogether.
-/

namespace RecordQuery

/-- What an annotation assigns: a literal, or any other expression as it is written. -/
inductive AnnotationLiteral where
  | text (s : String)
  | integer (n : Int)
  | bool (b : Bool)
  | other (expression : String)
deriving DecidableEq

inductive AnnotationItem where
  | word (path : String)
  | assignment (path : String) (value : AnnotationLiteral)
  | call (path arguments : String)
deriving DecidableEq

structure Annotation where
  path : String
  items : Option (List AnnotationItem)
deriving DecidableEq

inductive DeclarationError where
  | notStruct
  | unnamedFields
  | emptyColumn
  | columnNotText
  | unknownOption
  | skipCombined
  | columnUnregistered
  | withoutItems
deriving DecidableEq

namespace DeclarationError

def message : DeclarationError → String
  | notStruct => "Record can only be derived for structs"
  | unnamedFields => "Record can only be derived for structs with named fields"
  | emptyColumn => "column must not be empty"
  | columnNotText => "column must be a string literal"
  | unknownOption =>
    "unknown query attribute. Expected: filterable, sortable, skip, or column = \"...\""
  | skipCombined => "skip cannot be combined with filterable, sortable or column"
  | columnUnregistered => "column requires filterable or sortable"
  | withoutItems => "expected attribute arguments in parentheses: #[query(...)]"

end DeclarationError

structure FieldOptions where
  filterable : Bool := false
  sortable : Bool := false
  skip : Bool := false
  column : Option String := none
deriving DecidableEq

namespace FieldOptions

def isRegistered (o : FieldOptions) : Bool := o.filterable || o.sortable

def add (o : FieldOptions) : AnnotationItem → Except DeclarationError FieldOptions
  | .word path =>
    if path = "filterable" then .ok { o with filterable := true }
    else if path = "sortable" then .ok { o with sortable := true }
    else if path = "skip" then .ok { o with skip := true }
    else .error .unknownOption
  | .assignment path value =>
    if path = "column" then
      match value with
      | .text "" => .error .emptyColumn
      | .text column => .ok { o with column := some column }
      | .integer _ => .error .columnNotText
      | .bool _ => .error .columnNotText
      | .other _ => .error .columnNotText
    else .error .unknownOption
  | .call _ _ => .error .unknownOption

/-- Options that may stand together: a skipped field has no others, and a column name needs a
field that queries may name. -/
def check (o : FieldOptions) : Except DeclarationError FieldOptions :=
  if o.skip && (o.isRegistered || o.column.isSome) then .error .skipCombined
  else if o.column.isSome && !o.isRegistered then .error .columnUnregistered
  else .ok o

def ofItems (items : List AnnotationItem) : Except DeclarationError FieldOptions :=
  items.foldlM add {} >>= check

/-- The options that the annotations of a field give: those of the first one called `query`. -/
def ofAnnotations (annotations : List Annotation) : Except DeclarationError FieldOptions :=
  match annotations.find? (·.path == "query") with
  | none => .ok {}
  | some a =>
    match a.items with
    | none => .error .withoutItems
    | some items => ofItems items

end FieldOptions

end RecordQuery
