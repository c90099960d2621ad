import RecordQuery.Proofs.Declaration.Annotation

/-!
# Lists of options

The items that may stand in an annotation are three flags and columns with a name. A list of such
items is as good as what it sums up to (`ofItems_eq_check`), where the last column counts
(`column_summary_eq_some_iff`). So another order of the items, with no more than one column among
them, sums up to the same (`summary_eq_of_perm`), and the lists that are accepted are told by what
occurs in them (`ofItems_accepts`).
-/

namespace RecordQuery

namespace AnnotationItem

inductive IsOption : AnnotationItem → Prop
  | filterable : IsOption (.word "filterable")
  | sortable : IsOption (.word "sortable")
  | skip : IsOption (.word "skip")
  | column {name : String} : name ≠ "" → IsOption (.assignment "column" (.text name))

def isColumn : AnnotationItem → Bool
  | assignment path _ => path = "column"
  | _ => false

variable {item : AnnotationItem}

theorem isOption_iff : item.IsOption ↔ item.IsKnown ∧ item.IsNamed := by
  constructor
  · rintro (_ | _ | _ | hname)
    · exact ⟨.inl rfl, trivial⟩
    · exact ⟨.inr (.inl rfl), trivial⟩
    · exact ⟨.inr (.inr rfl), trivial⟩
    · exact ⟨rfl, _, rfl, hname⟩
  · cases item with
    | word path =>
        rintro ⟨rfl | rfl | rfl, -⟩
        · exact .filterable
        · exact .sortable
        · exact .skip
    | assignment path value =>
        rintro ⟨rfl, name, rfl, hname⟩
        exact .column hname
    | call path arguments => exact fun h => h.1.elim

theorem IsOption.column?_eq_some_iff (h : item.IsOption) {name : String} :
    item.column? = some name ↔ item = .assignment "column" (.text name) := by
  cases h <;> simp [column?]

theorem IsOption.column?_eq_none_iff (h : item.IsOption) :
    item.column? = none ↔ ∀ value, item ≠ .assignment "column" value := by
  cases h <;> simp [column?]

theorem IsOption.isColumn_of_column? (h : item.IsOption) (hcolumn : item.column?.isSome = true) :
    item.isColumn = true := by
  obtain ⟨name, hname⟩ := Option.isSome_iff_exists.1 hcolumn
  rw [h.column?_eq_some_iff.1 hname]
  rfl

end AnnotationItem

namespace FieldOptions

variable {items items' : List AnnotationItem}

theorem forall_isOption_iff : (∀ item ∈ items, item.IsOption) ↔
    ∀ item ∈ items, item.IsKnown ∧ item.IsNamed := by
  simp only [AnnotationItem.isOption_iff]

/-- Flags and columns are refused only for what does not stand together. -/
theorem ofItems_eq_check (h : ∀ item ∈ items, item.IsOption) :
    ofItems items = (summary items).check := by
  have hfold : items.foldlM add {} = .ok (summary items) :=
    foldlM_add_eq_ok_iff.2 ⟨forall_isOption_iff.1 h, (empty_join _).symm⟩
  rw [ofItems, hfold]
  rfl

/-! ## The last column -/

def IsLastColumn (items : List AnnotationItem) (name : String) : Prop :=
  ∃ before after, items = before ++ .assignment "column" (.text name) :: after ∧
    ∀ value, .assignment "column" value ∉ after

theorem column_summary_eq_some_iff (h : ∀ item ∈ items, item.IsOption) {name : String} :
    (summary items).column = some name ↔ IsLastColumn items name := by
  have hcolumn : (summary items).column = items.reverse.findSome? (·.column?) :=
    List.getLast?_filterMap
  rw [hcolumn, List.findSome?_eq_some_iff]
  constructor
  · rintro ⟨after, item, before, hsplit, hname, hafter⟩
    have hitems : items = before.reverse ++ item :: after.reverse := by
      simpa using congrArg List.reverse hsplit
    subst hitems
    obtain ⟨-, hfrom⟩ := List.forall_mem_append.1 h
    obtain ⟨hitem, hoptions⟩ := List.forall_mem_cons.1 hfrom
    obtain rfl := hitem.column?_eq_some_iff.1 hname
    refine ⟨_, _, rfl, fun value hvalue => ?_⟩
    have hnone := hafter _ (List.mem_reverse.1 hvalue)
    exact (hoptions _ hvalue).column?_eq_none_iff.1 hnone value rfl
  · rintro ⟨before, after, rfl, hafter⟩
    refine ⟨after.reverse, .assignment "column" (.text name), before.reverse, by simp, rfl,
      fun item hitem => ?_⟩
    have hmem : item ∈ after := List.mem_reverse.1 hitem
    have hoption := h item (List.mem_append_right _ (List.mem_cons_of_mem _ hmem))
    exact hoption.column?_eq_none_iff.2 fun value heq => hafter value (heq ▸ hmem)

/-! ## Other orders -/

theorem eq_of_perm_of_length_le_one {α : Type} : ∀ {xs ys : List α}, xs.Perm ys → xs.length ≤ 1 →
    xs = ys
  | [], _, h, _ => h.nil_eq
  | [_], _, h, _ => List.singleton_perm.1 h
  | _ :: _ :: _, _, _, hlen => absurd hlen (by simp)

theorem summary_eq_of_perm (h : ∀ item ∈ items, item.IsOption) (hperm : items'.Perm items)
    (hone : items.countP (·.isColumn) ≤ 1) : summary items' = summary items := by
  have hlen : (items.filterMap (·.column?)).length ≤ 1 := by
    rw [List.length_filterMap_eq_countP]
    have hle := List.countP_mono_left fun item hitem => (h item hitem).isColumn_of_column?
    exact Nat.le_trans hle hone
  have hcolumns := eq_of_perm_of_length_le_one (hperm.symm.filterMap (·.column?)) hlen
  simp only [summary, hperm.mem_iff, hcolumns]

theorem ofItems_eq_of_perm (h : ∀ item ∈ items, item.IsOption) (hperm : items'.Perm items)
    (hone : items.countP (·.isColumn) ≤ 1) : ofItems items' = ofItems items := by
  rw [ofItems_eq_check h, ofItems_eq_check fun item hitem => h item (hperm.mem_iff.1 hitem),
    summary_eq_of_perm h hperm hone]

theorem isOption_of_ofItems {o : FieldOptions} (ho : ofItems items = .ok o) :
    ∀ item ∈ items, item.IsOption :=
  forall_isOption_iff.2 (ofItems_eq_ok_iff.1 ho).1

/-- Another order is accepted when the list is, and read as the same. -/
theorem ofItems_eq_ok_iff_of_perm (hperm : items'.Perm items)
    (hone : items.countP (·.isColumn) ≤ 1) {o : FieldOptions} :
    ofItems items' = .ok o ↔ ofItems items = .ok o := by
  constructor
  · intro ho
    have h : ∀ item ∈ items, item.IsOption := fun item hitem =>
      isOption_of_ofItems ho item (hperm.mem_iff.2 hitem)
    rwa [← ofItems_eq_of_perm h hperm hone]
  · intro ho
    rwa [ofItems_eq_of_perm (isOption_of_ofItems ho) hperm hone]

/-- Exactly those lists are accepted that hold nothing but flags and columns with a name, with
nothing else next to `skip` and no column without `filterable` or `sortable`. What is read is the
flags that occur and the last column. With at most one column in a list, no other order of its items
is accepted otherwise or read as something else; and if there is nothing in it but flags and
columns, then no other order is refused for another reason either. -/
theorem ofItems_accepts (items : List AnnotationItem) :
    ((∃ o, ofItems items = .ok o) ↔
      (∀ item ∈ items, item.IsOption) ∧
      ¬ (.word "skip" ∈ items ∧ (.word "filterable" ∈ items ∨ .word "sortable" ∈ items ∨
        ∃ value, .assignment "column" value ∈ items)) ∧
      ((∃ value, .assignment "column" value ∈ items) →
        .word "filterable" ∈ items ∨ .word "sortable" ∈ items)) ∧
    (∀ o, ofItems items = .ok o →
      (o.filterable = true ↔ .word "filterable" ∈ items) ∧
      (o.sortable = true ↔ .word "sortable" ∈ items) ∧
      (o.skip = true ↔ .word "skip" ∈ items) ∧
      (∀ name, o.column = some name ↔ IsLastColumn items name)) ∧
    (∀ items' : List AnnotationItem, items'.Perm items → items.countP (·.isColumn) ≤ 1 →
      (∀ o, ofItems items' = .ok o ↔ ofItems items = .ok o) ∧
      ((∀ item ∈ items, item.IsOption) → ofItems items' = ofItems items)) := by
  refine ⟨?_, fun o ho => ?_, fun items' hperm hone =>
    ⟨fun o => ofItems_eq_ok_iff_of_perm hperm hone, fun h => ofItems_eq_of_perm h hperm hone⟩⟩
  · simp only [ofItems_eq_ok_iff, ← forall_isOption_iff, exists_and_left, exists_eq, and_true]
    refine and_congr_right fun h => ?_
    rw [clashes_summary_iff (forall_isOption_iff.1 h), not_or]
    tauto
  · obtain ⟨h, -, rfl⟩ := ofItems_eq_ok_iff.1 ho
    exact ⟨decide_eq_true_iff, decide_eq_true_iff, decide_eq_true_iff,
      fun name => column_summary_eq_some_iff (forall_isOption_iff.2 h)⟩

/-- A column between flags, and the same list backwards. -/
theorem ofItems_accepts_created :
    let items : List AnnotationItem :=
      [.word "filterable", .assignment "column" (.text "created"), .word "sortable"]
    let o : FieldOptions := { filterable := true, sortable := true, column := some "created" }
    items.reverse.Perm items ∧ items.countP (·.isColumn) ≤ 1 ∧ (∀ item ∈ items, item.IsOption) ∧
      ofItems items = .ok o ∧ IsLastColumn items "created" ∧ ofItems items.reverse = .ok o := by
  intro items o
  have hperm : items.reverse.Perm items := List.reverse_perm items
  have hone : items.countP (·.isColumn) ≤ 1 := by decide
  obtain ⟨haccepted, hread, horders⟩ := ofItems_accepts items
  have ho : ofItems items = .ok o := by decide
  have hoptions := (haccepted.1 ⟨o, ho⟩).1
  exact ⟨hperm, hone, hoptions, ho, ((hread o ho).2.2.2 "created").1 rfl,
    ((horders _ hperm hone).2 hoptions).trans ho⟩

end FieldOptions

end RecordQuery
