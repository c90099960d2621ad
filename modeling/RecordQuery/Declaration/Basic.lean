import RecordQuery.Declaration.Annotation
import RecordQuery.Declaration.Parameters
import RecordQuery.Registry

/-!
# Declarations of record types

A record type is derived from the declaration of a struct with named fields. Every field that is not
skipped can be read by its name, has a constant for that name, and counts when a record is tested
for zero; those that are marked filterable or sortable are registered for queries.
-/

namespace RecordQuery

inductive Shape where
  | struct
  | tuple
  | unit
  | enum
  | union
deriving DecidableEq

/-- A field as it is declared. A field of a tuple has no name. -/
structure FieldDeclaration where
  member : Option String
  type : String
  annotations : List Annotation := []
deriving DecidableEq

structure Declaration where
  shape : Shape
  name : String
  parameters : List String := []
  fields : List FieldDeclaration
deriving DecidableEq

structure DerivedField where
  /-- The name by which the field is read. -/
  name : String
  /-- The name as it is declared. -/
  member : String
  type : String
  options : FieldOptions
deriving DecidableEq

structure Derivation where
  name : String
  parameters : List TypeParameter
  fields : List DerivedField
deriving DecidableEq

/-! ## Names -/

/-- A declared name without the mark that lets it be a reserved word. -/
def plainName (member : String) : String :=
  match member.toList with
  | 'r' :: '#' :: name => String.ofList name
  | _ => member

/-- Upper-case words with underscores between them. An underscore is put before an upper-case
character that follows one which is neither upper case nor an underscore. -/
def constantFrom (afterLower : Bool) : List Char → List Char
  | [] => []
  | c :: cs =>
    if Text.isUppercase c then
      if afterLower then '_' :: c :: constantFrom false cs else c :: constantFrom false cs
    else if c = '_' then '_' :: constantFrom false cs
    else c.toUpper :: constantFrom true cs

def constantName (name : String) : String := String.ofList (constantFrom false name.toList)

/-! ## Derivation -/

namespace Declaration

/-- The field that a declared one gives, or nothing when it is skipped. -/
def deriveField (f : FieldDeclaration) : Except DeclarationError (Option DerivedField) :=
  match f.member with
  | none => .error .unnamedFields
  | some member => do
    let options ← FieldOptions.ofAnnotations f.annotations
    .ok (if options.skip then none else some ⟨plainName member, member, f.type, options⟩)

/-- The fields that declared ones give. The first error counts. -/
def deriveFields : List FieldDeclaration → Except DeclarationError (List DerivedField)
  | [] => .ok []
  | f :: fs => do
    let field ← deriveField f
    let fields ← deriveFields fs
    .ok (field.toList ++ fields)

def derive (d : Declaration) : Except DeclarationError Derivation :=
  match d.shape with
  | .enum => .error .notStruct
  | .union => .error .notStruct
  | .tuple => .error .unnamedFields
  | .unit => .error .unnamedFields
  | .struct => do
    let fields ← deriveFields d.fields
    .ok ⟨d.name, d.parameters.map TypeParameter.read, fields⟩

end Declaration

namespace DerivedField

def descriptor (f : DerivedField) : Descriptor where
  path := .parse f.name
  kind := .ofType f.type
  column := f.options.column
  filterable := f.options.filterable
  sortable := f.options.sortable

end DerivedField

namespace Derivation

def constants (d : Derivation) : List (String × String) :=
  d.fields.map fun f => (constantName f.name, f.name)

def registered (d : Derivation) : List DerivedField := d.fields.filter (·.options.isRegistered)

def registry (d : Derivation) : Registry := ⟨d.registered.map DerivedField.descriptor⟩

def selfType (d : Derivation) : String :=
  d.name ++ TypeParameter.bracketed TypeParameter.name d.parameters

def implParameters (d : Derivation) : String :=
  TypeParameter.bracketed TypeParameter.implemented d.parameters

def interfaces : List (Option String) :=
  [none, some "::sift::Record", some "::sift::FieldValue", some "::sift::FieldKind"]

/-- What is implemented for the type with its parameters: its constants, which belong to no
interface, and three interfaces. -/
def implementations (d : Derivation) : List (Option String × String × String) :=
  interfaces.map fun interface => (interface, d.selfType, d.implParameters)

def instanceFields {α : Type} (d : Derivation) (members : List (String × α)) : List (String × α) :=
  d.fields.filterMap fun f => (List.lookup f.member members).map (f.name, ·)

/-- An instance of the type. It is zero when all its fields are. -/
def instantiate (d : Derivation) (values : List (String × Value)) : Record :=
  ⟨.allFields, d.instanceFields values⟩

end Derivation

end RecordQuery
