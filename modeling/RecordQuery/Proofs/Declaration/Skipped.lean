import RecordQuery.Proofs.Declaration.Agreement
import RecordQuery.Proofs.Predicates.Tests
import RecordQuery.Proofs.Query.Results

/-!
# Skipped members are invisible

The record of an instance has the fields with readable names, and its registry the filterable and
sortable ones (`registry_fields_eq`). Instances that agree have one record (`record_eq_of_agree`),
so that no path, predicate, order or query tells them apart (`skipped_members_invisible`).
-/

namespace RecordQuery

/-! ## Descriptors -/

def FieldDeclaration.descriptor? (f : FieldDeclaration) : Option Descriptor := do
  let member ← f.member
  let o ← (FieldOptions.ofAnnotations f.annotations).toOption
  if o.isRegistered then some (DerivedField.descriptor ⟨plainName member, member, f.type, o⟩)
  else none

theorem FieldDeclaration.descriptor?_eq {f : FieldDeclaration} (h : f.Accepted) : f.descriptor? =
    (f.derived?.filter (·.options.isRegistered)).map DerivedField.descriptor := by
  obtain ⟨hmember, o, ho⟩ := h
  obtain ⟨member, hmember⟩ := Option.isSome_iff_exists.1 hmember
  have hfield := Declaration.derived?_of_deriveField
    (Declaration.deriveField_eq_ok_iff.2 ⟨member, o, hmember, ho, rfl⟩)
  unfold descriptor?
  rw [hfield, hmember, ho]
  show (if o.isRegistered then some _ else none) = _
  cases hskip : o.skip with
  | true =>
      rw [FieldOptions.isRegistered_of_ofAnnotations ho hskip]
      rfl
  | false =>
      simp only [Bool.false_eq_true, if_false, Option.filter_some]
      cases o.isRegistered <;> rfl

theorem not_mem_plainName {c : Char} {member : String} (h : c ∉ member.toList) :
    c ∉ (plainName member).toList := by
  unfold plainName
  split
  · next name hname =>
      rw [hname] at h
      rw [String.toList_ofList]
      exact fun hc => h (List.mem_cons_of_mem _ (List.mem_cons_of_mem _ hc))
  · exact h

theorem FieldPath.segments_parse_of_dotless {name : String} (h : '.' ∉ name.toList) :
    (FieldPath.parse name).segments = [name] := by
  show Text.splitText '.' name = [name]
  rw [Text.splitText, List.splitOn_eq_singleton h, List.map_singleton, String.ofList_toList]

namespace RecordType

variable {t : RecordType}

theorem registry_fields_eq (t : RecordType) :
    t.derivation.registry.fields = t.declaration.fields.filterMap (·.descriptor?) := by
  unfold Derivation.registry Derivation.registered
  rw [fields_eq, List.filter_filterMap, List.map_filterMap]
  exact List.filterMap_congr fun f hf => (FieldDeclaration.descriptor?_eq (t.accepted f hf)).symm

theorem exists_readable_of_mem_registry {d : Descriptor} (hd : d ∈ t.derivation.registry.fields) :
    ∃ name, t.Readable name ∧ d.path.segments = [name] := by
  obtain ⟨g, hg, rfl⟩ := List.mem_map.1 hd
  have hg := (List.mem_filter.1 hg).1
  refine ⟨g.name, readable_iff.2 ⟨g, hg, rfl⟩, FieldPath.segments_parse_of_dotless ?_⟩
  obtain ⟨f, hf, -, member, o, hmember, -, rfl⟩ := mem_fields_iff.1 hg
  exact not_mem_plainName (t.dotless f hf member hmember)

end RecordType

/-! ## Instances that agree -/

namespace Instance

variable {t : RecordType} {x x' : Instance t}

/-- The same but for skipped members, in the instances and in derived records nested in them. -/
def Agree (x x' : Instance t) : Prop := Content.AgreeMembers t x.members x'.members

theorem record_eq_of_agree (h : x.Agree x') : x.record = x'.record := by
  have hview := Content.view_eq_of_agree (.derived t h)
  injection hview with _ hfields
  exact congrArg (Record.mk .allFields) hfields

/-- Neither a path nor a predicate tells the instances apart, however tests of the caller's own
would be answered. -/
structure Indistinguishable (x x' : Instance t) : Prop where
  resolve : ∀ path, Content.AgreeResults (x.resolve path) (x'.resolve path)
  isZero : x.record.isZero = x'.record.isZero
  holds : ∀ p : Predicate, p.tests = [] → ∀ ask : CustomTest → Id Bool,
    p.evaluate ask x.record = p.holds x'.record

theorem indistinguishable_of_agree (h : x.Agree x') : x.Indistinguishable x' where
  resolve path := Content.resolveIn_agree _ (RecordType.instanceFields_rel h.forall₂)
  isZero := congrArg Record.isZero (record_eq_of_agree h)
  holds p hp ask := by
    rw [Predicate.evaluate_of_tests_eq_nil _ _ hp, record_eq_of_agree h]
    rfl

end Instance

/-! ## Lists of instances -/

section Places

variable {α : Type} (record : α → Record) (items : List α)

theorem zipIdx_map_record :
    (items.map record).zipIdx = items.zipIdx.map (Prod.map record id) :=
  List.zipIdx_map ..

theorem Order.map_snd_sortBy (order : Order) :
    (order.sortBy (fun item => record item.1) items.zipIdx).map Prod.snd =
      (order.sortBy (·.1) (items.map record).zipIdx).map Prod.snd := by
  rw [zipIdx_map_record, Order.sortBy_map, List.map_map]
  rfl

theorem Query.map_snd_applyBy (q : Query) :
    (q.applyBy (fun item => record item.1) items.zipIdx).map Prod.snd =
      q.places (items.map record) := by
  rw [Query.places, zipIdx_map_record, Query.applyBy_map, List.map_map]
  rfl

theorem Query.map_snd_executeBy (q : Query) :
    (q.executeBy (fun item => record item.1) items.zipIdx).map Prod.snd =
      q.pageOfPlaces (items.map record) := by
  rw [Query.pageOfPlaces_eq, ← Query.map_snd_applyBy]
  exact Page.map_ofList ..

end Places

namespace Instance

variable {t : RecordType}

/-- No order and no query tells the lists of instances apart: both put the same places in the same
order and on the same page. -/
structure SameAnswers (xs xs' : List (Instance t)) : Prop where
  sort : ∀ order : Order, (order.sortBy (·.1.record) xs.zipIdx).map Prod.snd =
    (order.sortBy (·.1.record) xs'.zipIdx).map Prod.snd
  apply : ∀ q : Query, (q.applyBy (·.1.record) xs.zipIdx).map Prod.snd =
    (q.applyBy (·.1.record) xs'.zipIdx).map Prod.snd
  execute : ∀ q : Query, (q.executeBy (·.1.record) xs.zipIdx).map Prod.snd =
    (q.executeBy (·.1.record) xs'.zipIdx).map Prod.snd

theorem map_record_eq_of_agree {xs xs' : List (Instance t)} (h : List.Forall₂ Agree xs xs') :
    xs.map record = xs'.map record := by
  induction h with
  | nil => rfl
  | cons hx _ ih => rw [List.map_cons, List.map_cons, record_eq_of_agree hx, ih]

theorem sameAnswers_of_agree {xs xs' : List (Instance t)} (h : List.Forall₂ Agree xs xs') :
    SameAnswers xs xs' where
  sort order := by
    rw [Order.map_snd_sortBy, Order.map_snd_sortBy, map_record_eq_of_agree h]
  apply q := by
    rw [Query.map_snd_applyBy, Query.map_snd_applyBy, map_record_eq_of_agree h]
  execute q := by
    rw [Query.map_snd_executeBy, Query.map_snd_executeBy, map_record_eq_of_agree h]

end Instance

namespace RecordType

/-- A record type shows the members that are not skipped and no others. Its records have fields of
the readable names, its registry has the filterable and sortable fields, and what skipped members
hold, in an instance or in records nested in it, changes neither what a path leads to, apart from
skipped members, nor any answer. -/
theorem skipped_members_invisible (t : RecordType) :
    (∀ (x : Instance t) (name : String), (x.record.get? name).isSome = true ↔ t.Readable name) ∧
    t.derivation.registry.fields = t.declaration.fields.filterMap (·.descriptor?) ∧
    (∀ d ∈ t.derivation.registry.fields, ∃ name, t.Readable name ∧ d.path.segments = [name]) ∧
    (∀ (x : Instance t) (path : FieldPath),
      x.record.resolve path = (x.resolve path).map Content.view) ∧
    (∀ x x' : Instance t, x.Agree x' → x.Indistinguishable x') ∧
    (∀ xs xs' : List (Instance t), List.Forall₂ Instance.Agree xs xs' →
      Instance.SameAnswers xs xs') :=
  ⟨fun x _ => x.isSome_get?_record_iff, t.registry_fields_eq,
    fun _ hd => exists_readable_of_mem_registry hd, fun x path => x.resolve_record path,
    fun _ _ h => Instance.indistinguishable_of_agree h,
    fun _ _ h => Instance.sameAnswers_of_agree h⟩

/-- The passwords differ, and so do the notes of the addresses. -/
theorem skipped_members_invisible_passwords :
    let plain (member : String) : FieldDeclaration := { member := some member, type := "String" }
    let skipped (member : String) : FieldDeclaration :=
      { plain member with annotations := [⟨"query", some [.word "skip"]⟩] }
    let address : RecordType := {
      declaration := {
        shape := .struct, name := "Address", fields := [plain "city", skipped "note"] }
      derivation := ⟨"Address", [], [⟨"city", "city", "String", {}⟩]⟩
      derives := rfl
      dotless := by decide }
    let customer : RecordType := {
      declaration := {
        shape := .struct
        name := "Customer"
        fields := [skipped "password", { member := some "address", type := "Address" }] }
      derivation := ⟨"Customer", [], [⟨"address", "address", "Address", {}⟩]⟩
      derives := rfl
      dotless := by decide }
    let instanceOf (password note : String) : Instance customer := {
      members := [("password", .string password),
        ("address", .derived address [("city", .string "Rome"), ("note", .string note)])]
      complete := rfl }
    let x := instanceOf "secret" "at the back"
    let x' := instanceOf "changed" ""
    x.Agree x' ∧ (x.record.get? "password").isSome = false ∧ x.Indistinguishable x' ∧
      Instance.SameAnswers [x, x] [x', x'] := by
  intro plain skipped address customer instanceOf x x'
  have hnote : address.Hides "note" := by
    intro f hf hmember
    rcases List.mem_pair.1 hf with rfl | rfl
    · have hname : "city" = "note" := Option.some.inj hmember
      exact absurd hname (by decide)
    · exact ⟨_, rfl, rfl⟩
  have hpassword : customer.Hides "password" := by
    intro f hf hmember
    rcases List.mem_pair.1 hf with rfl | rfl
    · exact ⟨_, rfl, rfl⟩
    · have hname : "address" = "password" := Option.some.inj hmember
      exact absurd hname (by decide)
  have hagree : x.Agree x' := .hidden _ _ hpassword (.shown (.derived address
    (.shown (.string "Rome") (.hidden _ _ hnote .nil))) .nil)
  obtain ⟨-, -, -, -, hpair, hlists⟩ := customer.skipped_members_invisible
  exact ⟨hagree, rfl, hpair x x' hagree, hlists _ _ (.cons hagree (.cons hagree .nil))⟩

end RecordType

end RecordQuery
