import RecordQuery.Proofs.Declaration.Derivation

/-!
# Annotations that are heeded

A field can carry several annotations called `query`, and only the first one is read. What a later
one says is passed over: that the field is to be skipped, or something that would be refused in the
first one. Nothing is passed over exactly where no later annotation says such a thing (`heeds_iff`),
as for every field with one annotation.
-/

namespace RecordQuery.Declaration

/-! ## Leaving a field out -/

def withFields (d : Declaration) (fields : List FieldDeclaration) : Declaration :=
  { d with fields }

variable {d : Declaration} {pre post : List FieldDeclaration} {f : FieldDeclaration}
  {t : Derivation}

theorem skipped_of_derived?_eq_none (hf : f.Accepted) (h : f.derived? = none) : f.Skipped := by
  obtain ⟨hmember, o, ho⟩ := hf
  obtain ⟨member, hmember⟩ := Option.isSome_iff_exists.1 hmember
  refine ⟨o, ho, ?_⟩
  by_contra hskip
  have hsome := derived?_eq_some_iff.2
    ⟨member, o, hmember, ho, Bool.eq_false_iff.2 hskip, rfl⟩
  rw [h] at hsome
  cases hsome

theorem derived?_eq_none_of_skipped (h : f.Skipped) : f.derived? = none := by
  obtain ⟨o, ho, hskip⟩ := h
  rw [Option.eq_none_iff_forall_ne_some]
  intro g hg
  obtain ⟨member, o', -, ho', hshown, -⟩ := derived?_eq_some_iff.1 hg
  rw [ho] at ho'
  cases ho'
  exact Bool.false_ne_true (hshown.symm.trans hskip)

/-- A field is skipped when the record type is the one without it. -/
theorem derive_without_iff (h : (d.withFields (pre ++ f :: post)).derive = .ok t) :
    (d.withFields (pre ++ post)).derive = .ok t ↔ f.Skipped := by
  obtain ⟨hshape, hfields, rfl⟩ := derive_eq_ok_iff.1 h
  have haccepted : ∀ g ∈ pre ++ f :: post, g.Accepted := hfields
  have hf : f.Accepted := haccepted f (List.mem_append_right _ List.mem_cons_self)
  constructor
  · intro hwithout
    obtain ⟨-, -, e⟩ := derive_eq_ok_iff.1 hwithout
    have hlength := congrArg (fun t => t.fields.length) e
    simp only [withFields, List.filterMap_append, List.length_append, List.filterMap_cons]
      at hlength
    refine skipped_of_derived?_eq_none hf ?_
    cases hderived : f.derived? with
    | none => rfl
    | some g =>
        simp only [hderived, List.length_cons] at hlength
        omega
  · intro hskipped
    refine derive_eq_ok_iff.2 ⟨hshape, fun g hg => haccepted g ?_, ?_⟩
    · rcases List.mem_append.1 hg with hg | hg
      · exact List.mem_append_left _ hg
      · exact List.mem_append_right _ (List.mem_cons_of_mem _ hg)
    · simp only [withFields, List.filterMap_append, List.filterMap_cons,
        derived?_eq_none_of_skipped hskipped]

theorem derive_eq_without_iff (h : (d.withFields (pre ++ f :: post)).derive = .ok t)
    {o : FieldOptions} (ho : FieldOptions.ofAnnotations f.annotations = .ok o) :
    (d.withFields (pre ++ f :: post)).derive = (d.withFields (pre ++ post)).derive ↔
      o.skip = true := by
  rw [h, eq_comm, derive_without_iff h]
  constructor
  · rintro ⟨o', ho', hskip⟩
    rw [ho] at ho'
    cases ho'
    exact hskip
  · exact fun hskip => ⟨o, ho, hskip⟩

/-! ## Heeding annotations -/

/-- Nothing that the annotations of a field say is passed over: if one of them says that the field
is to be skipped, there is no record type or it is the one without the field; and if one of them is
malformed, there is no record type. -/
structure Heeds (d : Declaration) (pre : List FieldDeclaration) (f : FieldDeclaration)
    (post : List FieldDeclaration) : Prop where
  skip : (∃ items ∈ queryItems f.annotations, .word "skip" ∈ items) →
    (∃ e, (d.withFields (pre ++ f :: post)).derive = .error e) ∨
      (d.withFields (pre ++ f :: post)).derive = (d.withFields (pre ++ post)).derive
  malformed : (∃ items ∈ queryItems f.annotations, FieldOptions.Malformed items) →
    ∃ e, (d.withFields (pre ++ f :: post)).derive = .error e

/-- An annotation says nothing that is lost where only the first one is read. -/
def Harmless (f : FieldDeclaration) (items : List AnnotationItem) : Prop :=
  ¬ FieldOptions.Malformed items ∧ (.word "skip" ∈ items →
    ∃ first ∈ (queryItems f.annotations).head?, .word "skip" ∈ first)

theorem heeds_iff_of_derive (h : (d.withFields (pre ++ f :: post)).derive = .ok t) :
    Heeds d pre f post ↔ ∀ items ∈ (queryItems f.annotations).tail, Harmless f items := by
  have haccepted : ∀ g ∈ pre ++ f :: post, g.Accepted := (derive_eq_ok_iff.1 h).2.1
  obtain ⟨-, o, ho⟩ := haccepted f (List.mem_append_right _ List.mem_cons_self)
  have hsucceeds : ¬ ∃ e, (d.withFields (pre ++ f :: post)).derive = .error e := by
    rw [h]
    rintro ⟨e, he⟩
    cases he
  have hwithout := derive_eq_without_iff h ho
  rcases queries_of_ofAnnotations ho with ⟨hnone, -⟩ | ⟨first, rest, hqueries, hfirst⟩
  · have hheeds : Heeds d pre f post :=
      ⟨fun ⟨items, hitems, _⟩ => absurd (hnone ▸ hitems) List.not_mem_nil,
        fun ⟨items, hitems, _⟩ => absurd (hnone ▸ hitems) List.not_mem_nil⟩
    rw [hnone]
    exact iff_of_true hheeds fun items hitems => absurd hitems List.not_mem_nil
  have hwell : ¬ FieldOptions.Malformed first := FieldOptions.not_malformed_of_ofItems hfirst
  rw [FieldOptions.skip_of_ofItems hfirst] at hwithout
  have hmem : ∀ {items}, items ∈ queryItems f.annotations ↔ items = first ∨ items ∈ rest := by
    intro items
    rw [hqueries, List.mem_cons]
  have hhead : (∃ first ∈ (queryItems f.annotations).head?, .word "skip" ∈ first) ↔
      .word "skip" ∈ first := by
    rw [hqueries]
    simp
  simp only [Harmless, hhead]
  rw [hqueries, List.tail_cons]
  constructor
  · rintro ⟨hskip, hmalformed⟩ items hitems
    have hmem' := hmem.2 (.inr hitems)
    refine ⟨fun hbad => hsucceeds (hmalformed ⟨items, hmem', hbad⟩), fun hsays => ?_⟩
    exact hwithout.1 ((hskip ⟨items, hmem', hsays⟩).resolve_left hsucceeds)
  · intro hrest
    constructor
    · rintro ⟨items, hitems, hsays⟩
      refine .inr (hwithout.2 ?_)
      rcases hmem.1 hitems with rfl | hitems
      · exact hsays
      · exact (hrest items hitems).2 hsays
    · rintro ⟨items, hitems, hbad⟩
      rcases hmem.1 hitems with rfl | hitems
      · exact absurd hbad hwell
      · exact absurd hbad (hrest items hitems).1

/-- Nothing is passed over exactly when there is no record type, or every annotation after the first
is well formed and does not say that the field is to be skipped unless the first one does. -/
theorem heeds_iff (d : Declaration) (pre : List FieldDeclaration) (f : FieldDeclaration)
    (post : List FieldDeclaration) : Heeds d pre f post ↔
      (∃ e, (d.withFields (pre ++ f :: post)).derive = .error e) ∨
        ∀ items ∈ (queryItems f.annotations).tail, Harmless f items := by
  cases h : (d.withFields (pre ++ f :: post)).derive with
  | error e => exact iff_of_true ⟨fun _ => .inl ⟨e, h⟩, fun _ => ⟨e, h⟩⟩ (.inl ⟨e, rfl⟩)
  | ok t =>
      rw [heeds_iff_of_derive h]
      exact (or_iff_right (by rintro ⟨e, he⟩; cases he)).symm

/-- A field that is first said to be filterable and then to be skipped is readable, and filterable
in queries. -/
theorem not_heeds_later_skip :
    let d : Declaration := { shape := .struct, name := "Item", fields := [] }
    let secret : FieldDeclaration := {
      member := some "secret"
      type := "String"
      annotations := [⟨"query", some [.word "filterable"]⟩, ⟨"query", some [.word "skip"]⟩] }
    ¬ Heeds d [] secret [] := by
  intro d secret hheeds
  have hskip := hheeds.skip ⟨[.word "skip"], by decide, by decide⟩
  have hlength : ∀ t, (d.withFields [secret]).derive = .ok t → t.fields.length = 1 := by
    intro t ht
    obtain rfl : _ = t := Except.ok.inj ht
    rfl
  rcases hskip with ⟨e, he⟩ | hwithout
  · cases he
  · have hnone := hlength _ (hwithout.trans rfl)
    cases hnone

end RecordQuery.Declaration
