import RecordQuery.Proofs.Declaration.Derivation

/-!
# Instances of derived record types

An instance of a derived record type holds something for every declared member, skipped or not
(`Instance`). What it holds may be, or have in it at any depth, instances of derived record types
(`Content`). As values these show the members that are not skipped (`Content.view`), and a path that
is resolved in the view leads to the view of what it leads to in the instance (`resolveIn_view`).
-/

namespace RecordQuery

/-- A record type with the declaration that it is derived from. -/
structure RecordType where
  declaration : Declaration
  derivation : Derivation
  derives : declaration.derive = .ok derivation
  /-- The members are named by identifiers, which hold no dot. -/
  dotless : ∀ f ∈ declaration.fields, ∀ member ∈ f.member, '.' ∉ member.toList

inductive Content where
  | string (s : String)
  | number (n : Number)
  | bool (b : Bool)
  | timestamp (t : Instant)
  | sequence (items : List Content)
  | mapping (entries : List (Content × Content))
  | null
  | present (c : Content)
  /-- A record of a type that is not derived. -/
  | record (rule : ZeroRule) (fields : List (String × Content))
  /-- An instance of a derived type, with its members by their declared names. -/
  | derived (t : RecordType) (members : List (String × Content))

namespace RecordType

variable {t : RecordType} {g : DerivedField}

theorem accepted (t : RecordType) : ∀ f ∈ t.declaration.fields, f.Accepted :=
  (Declaration.derive_eq_ok_iff.1 t.derives).2.1

theorem fields_eq (t : RecordType) :
    t.derivation.fields = t.declaration.fields.filterMap (·.derived?) :=
  congrArg Derivation.fields (Declaration.derive_eq_ok_iff.1 t.derives).2.2

theorem mem_fields_iff : g ∈ t.derivation.fields ↔ ∃ f ∈ t.declaration.fields, ¬ f.Skipped ∧
    ∃ member o, f.member = some member ∧ FieldOptions.ofAnnotations f.annotations = .ok o ∧
      g = ⟨plainName member, member, f.type, o⟩ := by
  rw [fields_eq, List.mem_filterMap]
  refine exists_congr fun f => and_congr_right fun hf => ?_
  rw [Declaration.derived?_eq_some_iff]
  constructor
  · rintro ⟨member, o, hmember, ho, hskip, rfl⟩
    refine ⟨?_, member, o, hmember, ho, rfl⟩
    rintro ⟨o', ho', hskip'⟩
    rw [ho] at ho'
    cases ho'
    exact Bool.false_ne_true (hskip.symm.trans hskip')
  · rintro ⟨hshown, member, o, hmember, ho, rfl⟩
    exact ⟨member, o, hmember, ho, Bool.eq_false_iff.2 fun hskip => hshown ⟨o, ho, hskip⟩, rfl⟩

/-- The name is the plain one of a declared field that is not skipped. -/
def Readable (t : RecordType) (name : String) : Prop :=
  ∃ f ∈ t.declaration.fields, ¬ f.Skipped ∧
    ∃ member, f.member = some member ∧ plainName member = name

theorem readable_iff {name : String} :
    t.Readable name ↔ ∃ g ∈ t.derivation.fields, g.name = name := by
  simp only [mem_fields_iff]
  constructor
  · rintro ⟨f, hf, hshown, member, hmember, rfl⟩
    obtain ⟨-, o, ho⟩ := t.accepted f hf
    exact ⟨_, ⟨f, hf, hshown, member, o, hmember, ho, rfl⟩, rfl⟩
  · rintro ⟨_, ⟨f, hf, hshown, member, o, hmember, -, rfl⟩, rfl⟩
    exact ⟨f, hf, hshown, member, hmember, rfl⟩

end RecordType

namespace Content

/-! ## Views -/

mutual

/-- What is held as a value. A derived record shows its fields. -/
def view : Content → Value
  | string s => .string s
  | number n => .number n
  | bool b => .bool b
  | timestamp t => .timestamp t
  | sequence items => .sequence (viewItems items)
  | mapping entries => .mapping (viewEntries entries)
  | null => .null
  | present c => .present c.view
  | record rule fields => .record rule (viewFields fields)
  | derived t members =>
    let r := t.derivation.instantiate (viewFields members)
    .record r.rule r.fields

def viewItems : List Content → List Value
  | [] => []
  | c :: cs => c.view :: viewItems cs

def viewEntries : List (Content × Content) → List (Value × Value)
  | [] => []
  | (k, c) :: entries => (k.view, c.view) :: viewEntries entries

def viewFields : List (String × Content) → Fields
  | [] => []
  | (name, c) :: fields => (name, c.view) :: viewFields fields

end

theorem viewFields_eq_map : ∀ fields : List (String × Content),
    viewFields fields = fields.map fun x => (x.1, x.2.view)
  | [] => rfl
  | (_, _) :: fields => by rw [viewFields, viewFields_eq_map fields, List.map_cons]

theorem lookup_viewFields (name : String) : ∀ fields : List (String × Content),
    (viewFields fields).lookup name = (fields.lookup name).map view
  | [] => rfl
  | (n, c) :: fields => by
      rw [viewFields, List.lookup_cons, List.lookup_cons, lookup_viewFields name fields]
      cases name == n <;> rfl

theorem instanceFields_viewFields (d : Derivation) (members : List (String × Content)) :
    d.instanceFields (viewFields members) = viewFields (d.instanceFields members) := by
  unfold Derivation.instanceFields
  rw [viewFields_eq_map (List.filterMap _ _), List.map_filterMap]
  refine List.filterMap_congr fun g _ => ?_
  rw [lookup_viewFields, Option.map_map, Option.map_map]
  rfl

theorem view_derived (t : RecordType) (members : List (String × Content)) :
    (derived t members).view =
      .record .allFields (viewFields (t.derivation.instanceFields members)) := by
  rw [← instanceFields_viewFields, view]
  rfl

/-! ## Resolution -/

def deref : Content → Option Content
  | null => none
  | present c => c.deref
  | c => some c

theorem deref_view : ∀ c : Content, c.view.deref = c.deref.map view
  | string _ | number _ | bool _ | timestamp _ | sequence _ | mapping _ | null | record _ _
  | derived _ _ => by simp only [view, deref]; rfl
  | present c => by
      rw [view, deref]
      exact deref_view c

/-- The fields of a record. A derived one has those that are not skipped. -/
def fields? : Content → Option (List (String × Content))
  | record _ fields => some fields
  | derived t members => some (t.derivation.instanceFields members)
  | _ => none

def resolveIn (fields : List (String × Content)) : List String → Except FieldError Content
  | [] => .error (.notFound "")
  | [s] =>
    match fields.lookup s with
    | none => .error (.notFound s)
    | some c => .ok c
  | s :: next :: rest =>
    match fields.lookup s with
    | none => .error (.notFound s)
    | some c =>
      match c.deref with
      | none => .error (.nilReference s)
      | some inner =>
        match inner.fields? with
        | some fields => resolveIn fields (next :: rest)
        | none => .error (.notComposite s inner.view.kindName)

theorem resolveIn_view : ∀ (segments : List String) (fields : List (String × Content)),
    (viewFields fields).resolve segments = (resolveIn fields segments).map view
  | [], _ => rfl
  | [s], fields => by
      unfold Fields.resolve resolveIn Fields.get?
      rw [lookup_viewFields]
      cases fields.lookup s <;> rfl
  | s :: next :: rest, fields => by
      unfold Fields.resolve resolveIn Fields.get?
      rw [lookup_viewFields]
      cases fields.lookup s with
      | none => rfl
      | some c =>
          simp only [Option.map_some, deref_view]
          cases c.deref with
          | none => rfl
          | some inner =>
              cases inner with
              | record rule inner => exact resolveIn_view (next :: rest) inner
              | derived t members =>
                  simp only [Option.map_some, view_derived, fields?]
                  exact resolveIn_view (next :: rest) (t.derivation.instanceFields members)
              | _ => simp only [Option.map_some, view, fields?]; rfl

end Content

/-! ## Instances -/

/-- An instance of a record type holds something for every declared member. -/
structure Instance (t : RecordType) where
  members : List (String × Content)
  complete : members.map Prod.fst = t.declaration.fields.filterMap (·.member)

namespace Instance

variable {t : RecordType}

def record (x : Instance t) : Record := t.derivation.instantiate (Content.viewFields x.members)

def resolve (x : Instance t) (path : FieldPath) : Except FieldError Content :=
  Content.resolveIn (t.derivation.instanceFields x.members) path.segments

theorem resolve_record (x : Instance t) (path : FieldPath) :
    x.record.resolve path = (x.resolve path).map Content.view := by
  unfold resolve
  rw [← Content.resolveIn_view, ← Content.instanceFields_viewFields]
  rfl

theorem exists_lookup (x : Instance t) {g : DerivedField} (hg : g ∈ t.derivation.fields) :
    ∃ c, x.members.lookup g.member = some c := by
  obtain ⟨f, hf, -, member, o, hmember, -, rfl⟩ := RecordType.mem_fields_iff.1 hg
  have hmem : member ∈ x.members.map Prod.fst := by
    rw [x.complete]
    exact List.mem_filterMap.2 ⟨f, hf, hmember⟩
  obtain ⟨p, hp, rfl⟩ := List.mem_map.1 hmem
  rw [← Option.isSome_iff_exists, List.lookup_isSome_iff]
  exact ⟨p, hp, beq_self_eq_true _⟩

theorem isSome_get?_record_iff (x : Instance t) {name : String} :
    (x.record.get? name).isSome = true ↔ t.Readable name := by
  have hfields : x.record.fields =
      Content.viewFields (t.derivation.instanceFields x.members) :=
    Content.instanceFields_viewFields ..
  unfold Record.get? Fields.get?
  rw [hfields, Content.lookup_viewFields, Option.isSome_map, List.lookup_isSome_iff,
    RecordType.readable_iff]
  unfold Derivation.instanceFields
  constructor
  · rintro ⟨p, hp, hname⟩
    obtain ⟨g, hg, e⟩ := List.mem_filterMap.1 hp
    obtain ⟨c, -, rfl⟩ := Option.map_eq_some_iff.1 e
    exact ⟨g, hg, (beq_iff_eq.1 hname).symm⟩
  · rintro ⟨g, hg, rfl⟩
    obtain ⟨c, hc⟩ := x.exists_lookup hg
    exact ⟨(g.name, c), List.mem_filterMap.2 ⟨g, hg, by rw [hc]; rfl⟩, beq_self_eq_true _⟩

end Instance

end RecordQuery
