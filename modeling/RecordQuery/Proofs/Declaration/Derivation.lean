import RecordQuery.Declaration.Basic
import RecordQuery.Proofs.Declaration.Annotation

/-!
# Derived record types

A declaration gives a record type when it is one of a struct, all its fields have names, and the
annotations of each are read without an error; its fields are then those that are not skipped, in
the order of declaration (`derive_eq_ok_iff`). What counts of the annotations of a field is the
first list of items called `query` (`queries_of_ofAnnotations`).
-/

namespace RecordQuery

/-! ## Annotations of one field -/

def queryItems (annotations : List Annotation) : List (List AnnotationItem) :=
  (annotations.filter (·.path == "query")).filterMap (·.items)

/-- Annotations are read by the first list of items, if there is one. -/
theorem queries_of_ofAnnotations {annotations : List Annotation} {o : FieldOptions}
    (h : FieldOptions.ofAnnotations annotations = .ok o) :
    queryItems annotations = [] ∧ o = {} ∨
      ∃ first rest, queryItems annotations = first :: rest ∧
        FieldOptions.ofItems first = .ok o := by
  unfold FieldOptions.ofAnnotations at h
  induction annotations with
  | nil =>
      cases h
      exact .inl ⟨rfl, rfl⟩
  | cons a annotations ih =>
      unfold queryItems at ih ⊢
      rw [List.find?_cons] at h
      cases hquery : a.path == "query" with
      | false =>
          rw [hquery] at h
          rw [List.filter_cons, if_neg (Bool.eq_false_iff.1 hquery)]
          exact ih h
      | true =>
          rw [hquery] at h
          rw [List.filter_cons, if_pos hquery, List.filterMap_cons]
          cases hitems : a.items with
          | none =>
              simp only [hitems] at h
              cases h
          | some first =>
              simp only [hitems] at h
              exact .inr ⟨first, _, rfl, h⟩

theorem FieldOptions.isRegistered_of_ofAnnotations {annotations : List Annotation}
    {o : FieldOptions} (h : ofAnnotations annotations = .ok o) (hskip : o.skip = true) :
    o.isRegistered = false := by
  rcases queries_of_ofAnnotations h with ⟨-, rfl⟩ | ⟨first, rest, -, hfirst⟩
  · rfl
  · exact isRegistered_of_skip hfirst hskip

namespace FieldDeclaration

def Skipped (f : FieldDeclaration) : Prop :=
  ∃ o, FieldOptions.ofAnnotations f.annotations = .ok o ∧ o.skip = true

def derived? (f : FieldDeclaration) : Option DerivedField :=
  (Declaration.deriveField f).toOption.join

def Accepted (f : FieldDeclaration) : Prop :=
  f.member.isSome = true ∧ ∃ o, FieldOptions.ofAnnotations f.annotations = .ok o

end FieldDeclaration

/-! ## Fields -/

namespace Declaration

variable {f : FieldDeclaration}

theorem deriveField_eq_ok_iff {g : Option DerivedField} : deriveField f = .ok g ↔
    ∃ member o, f.member = some member ∧ FieldOptions.ofAnnotations f.annotations = .ok o ∧
      g = if o.skip then none else some ⟨plainName member, member, f.type, o⟩ := by
  unfold deriveField
  cases hmember : f.member with
  | none => simp
  | some member =>
      simp only [bind_eq_ok_iff, Except.ok.injEq]
      constructor
      · rintro ⟨o, ho, rfl⟩
        exact ⟨member, o, rfl, ho, rfl⟩
      · rintro ⟨_, o, e, ho, rfl⟩
        cases e
        exact ⟨o, ho, rfl⟩

theorem accepted_iff : f.Accepted ↔ ∃ g, deriveField f = .ok g := by
  simp only [FieldDeclaration.Accepted, deriveField_eq_ok_iff, Option.isSome_iff_exists]
  constructor
  · rintro ⟨⟨member, hmember⟩, o, ho⟩
    exact ⟨_, member, o, hmember, ho, rfl⟩
  · rintro ⟨_, member, o, hmember, ho, -⟩
    exact ⟨⟨member, hmember⟩, o, ho⟩

theorem derived?_of_deriveField {g : Option DerivedField} (h : deriveField f = .ok g) :
    f.derived? = g := by
  rw [FieldDeclaration.derived?, h]
  rfl

theorem derived?_eq_some_iff {g : DerivedField} : f.derived? = some g ↔
    ∃ member o, f.member = some member ∧ FieldOptions.ofAnnotations f.annotations = .ok o ∧
      o.skip = false ∧ g = ⟨plainName member, member, f.type, o⟩ := by
  have hderived : f.derived? = some g ↔ deriveField f = .ok (some g) := by
    refine ⟨fun h => ?_, derived?_of_deriveField⟩
    unfold FieldDeclaration.derived? at h
    cases hfield : deriveField f with
    | error e =>
        rw [hfield] at h
        cases h
    | ok g' =>
        rw [hfield] at h
        exact congrArg Except.ok h
  rw [hderived, deriveField_eq_ok_iff]
  refine exists_congr fun member => exists_congr fun o => and_congr_right fun _ =>
    and_congr_right fun _ => ?_
  cases o.skip <;> simp

theorem deriveFields_eq_ok_iff : ∀ {fs : List FieldDeclaration} {gs : List DerivedField},
    deriveFields fs = .ok gs ↔ (∀ f ∈ fs, f.Accepted) ∧ gs = fs.filterMap (·.derived?)
  | [], gs => by simp [deriveFields, eq_comm]
  | f :: fs, gs => by
      have hcons : ∀ {g}, deriveField f = .ok g →
          (f :: fs).filterMap (·.derived?) = g.toList ++ fs.filterMap (·.derived?) := by
        intro g hg
        rw [List.filterMap_cons, derived?_of_deriveField hg]
        cases g <;> rfl
      rw [deriveFields, bind_eq_ok_iff, List.forall_mem_cons]
      simp only [bind_eq_ok_iff, deriveFields_eq_ok_iff]
      constructor
      · rintro ⟨g, hg, _, ⟨hfs, rfl⟩, e⟩
        cases e
        exact ⟨⟨accepted_iff.2 ⟨g, hg⟩, hfs⟩, (hcons hg).symm⟩
      · rintro ⟨⟨hf, hfs⟩, rfl⟩
        obtain ⟨g, hg⟩ := accepted_iff.1 hf
        exact ⟨g, hg, _, ⟨hfs, rfl⟩, congrArg Except.ok (hcons hg).symm⟩

/-- A declaration of a struct gives a record type when all its fields are accepted. -/
theorem derive_eq_ok_iff {d : Declaration} {t : Derivation} : d.derive = .ok t ↔
    d.shape = .struct ∧ (∀ f ∈ d.fields, f.Accepted) ∧
      t = ⟨d.name, d.parameters.map TypeParameter.read, d.fields.filterMap (·.derived?)⟩ := by
  unfold derive
  cases d.shape with
  | struct =>
      simp only [bind_eq_ok_iff, deriveFields_eq_ok_iff, true_and]
      constructor
      · rintro ⟨_, ⟨hfields, rfl⟩, e⟩
        cases e
        exact ⟨hfields, rfl⟩
      · rintro ⟨hfields, rfl⟩
        exact ⟨_, ⟨hfields, rfl⟩, rfl⟩
  | tuple | unit | enum | union => simp

end Declaration

end RecordQuery
