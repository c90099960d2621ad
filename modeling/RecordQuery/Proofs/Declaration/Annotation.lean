import Mathlib.Data.List.Basic
import RecordQuery.Declaration.Annotation
import RecordQuery.Proofs.Query.Settings

/-!
# Items of an annotation

A list of items is read when every item is one of the options there are, each column has a name, and
the options may stand together; it gives the flags that occur in it and the last column
(`ofItems_eq_ok_iff`). All other lists are malformed, for one of four reasons
(`malformed_iff_ofItems`).
-/

namespace RecordQuery

namespace AnnotationItem

def IsKnown : AnnotationItem → Prop
  | word path => path = "filterable" ∨ path = "sortable" ∨ path = "skip"
  | assignment path _ => path = "column"
  | call _ _ => False

def IsNamed : AnnotationItem → Prop
  | assignment _ value => ∃ s, value = .text s ∧ s ≠ ""
  | _ => True

def column? : AnnotationItem → Option String
  | assignment _ (.text s) => some s
  | _ => none

end AnnotationItem

namespace FieldOptions

/-! ## Taking items in -/

/-- The options that a list of items stands for: the flags in it and its last column. -/
def summary (items : List AnnotationItem) : FieldOptions where
  filterable := .word "filterable" ∈ items
  sortable := .word "sortable" ∈ items
  skip := .word "skip" ∈ items
  column := (items.filterMap (·.column?)).getLast?

def join (o o' : FieldOptions) : FieldOptions where
  filterable := o.filterable || o'.filterable
  sortable := o.sortable || o'.sortable
  skip := o.skip || o'.skip
  column := o'.column.or o.column

theorem join_assoc (o₁ o₂ o₃ : FieldOptions) : (o₁.join o₂).join o₃ = o₁.join (o₂.join o₃) := by
  simp only [join, Bool.or_assoc, Option.or_assoc]

theorem join_summary_nil (o : FieldOptions) : o.join (summary []) = o := by
  simp [join, summary]

theorem empty_join (o : FieldOptions) : ({} : FieldOptions).join o = o := by
  simp [join]

theorem summary_cons (item : AnnotationItem) (items : List AnnotationItem) :
    summary (item :: items) = (summary [item]).join (summary items) := by
  have hcolumn : ((item :: items).filterMap (·.column?)).getLast? =
      ((items.filterMap (·.column?)).getLast?).or ([item].filterMap (·.column?)).getLast? := by
    rw [← List.singleton_append, List.filterMap_append, List.getLast?_append]
  simp only [summary, join, hcolumn, List.mem_cons, List.not_mem_nil, or_false, Bool.decide_or]

theorem add_eq_ok_iff {o o' : FieldOptions} {item : AnnotationItem} : o.add item = .ok o' ↔
    (item.IsKnown ∧ item.IsNamed) ∧ o' = o.join (summary [item]) := by
  cases item with
  | word path =>
      simp only [add, AnnotationItem.IsKnown, AnnotationItem.IsNamed, and_true]
      split_ifs with hf hs hk
      · subst hf
        simp [join, summary, AnnotationItem.column?, eq_comm]
      · subst hs
        simp [join, summary, AnnotationItem.column?, eq_comm]
      · subst hk
        simp [join, summary, AnnotationItem.column?, eq_comm]
      · simp [hf, hs, hk]
  | assignment path value =>
      simp only [add, AnnotationItem.IsKnown, AnnotationItem.IsNamed]
      split_ifs with hpath
      · cases value with
        | text s =>
            by_cases hs : s = ""
            · simp [hs]
            · simp [hs, hpath, join, summary, AnnotationItem.column?, eq_comm]
        | integer n => simp
        | bool b => simp
        | other expression => simp
      · simp [hpath]
  | call path arguments => simp [add, AnnotationItem.IsKnown]

theorem foldlM_add_eq_ok_iff : ∀ {items : List AnnotationItem} {o o' : FieldOptions},
    items.foldlM add o = .ok o' ↔
      (∀ item ∈ items, item.IsKnown ∧ item.IsNamed) ∧ o' = o.join (summary items)
  | [], o, o' => by
      rw [join_summary_nil]
      simp [pure, Except.pure, eq_comm]
  | item :: items, o, o' => by
      rw [List.foldlM_cons, bind_eq_ok_iff, List.forall_mem_cons, summary_cons, ← join_assoc]
      constructor
      · rintro ⟨o₁, hitem, hitems⟩
        obtain ⟨hok, rfl⟩ := add_eq_ok_iff.1 hitem
        obtain ⟨hoks, rfl⟩ := foldlM_add_eq_ok_iff.1 hitems
        exact ⟨⟨hok, hoks⟩, rfl⟩
      · rintro ⟨⟨hok, hoks⟩, rfl⟩
        exact ⟨_, add_eq_ok_iff.2 ⟨hok, rfl⟩, foldlM_add_eq_ok_iff.2 ⟨hoks, rfl⟩⟩

/-! ## Options that stand together -/

/-- A skipped field has other options, or an unregistered one has a column. -/
def Clashes (o : FieldOptions) : Prop :=
  o.skip = true ∧ (o.isRegistered = true ∨ o.column.isSome = true) ∨
    o.column.isSome = true ∧ o.isRegistered = false

theorem check_eq_ok_iff {o o' : FieldOptions} : o.check = .ok o' ↔ ¬ o.Clashes ∧ o' = o := by
  have hclashes : o.Clashes ↔ (o.skip && (o.isRegistered || o.column.isSome)) = true ∨
      (o.column.isSome && !o.isRegistered) = true := by
    rw [Clashes, Bool.and_eq_true, Bool.or_eq_true, Bool.and_eq_true, Bool.not_eq_true']
  unfold check
  rw [hclashes, not_or]
  split_ifs with hskip hcolumn
  · exact iff_of_false nofun fun h => h.1.1 hskip
  · exact iff_of_false nofun fun h => h.1.2 hcolumn
  · rw [Except.ok.injEq, eq_comm]
    exact (and_iff_right ⟨hskip, hcolumn⟩).symm

theorem ofItems_eq_ok_iff {items : List AnnotationItem} {o : FieldOptions} :
    ofItems items = .ok o ↔ (∀ item ∈ items, item.IsKnown ∧ item.IsNamed) ∧
      ¬ (summary items).Clashes ∧ o = summary items := by
  unfold ofItems
  simp only [bind_eq_ok_iff, foldlM_add_eq_ok_iff, check_eq_ok_iff, empty_join]
  constructor
  · rintro ⟨_, ⟨hitems, rfl⟩, hclash, rfl⟩
    exact ⟨hitems, hclash, rfl⟩
  · rintro ⟨hitems, hclash, rfl⟩
    exact ⟨_, ⟨hitems, rfl⟩, hclash, rfl⟩

theorem skip_of_ofItems {items : List AnnotationItem} {o : FieldOptions}
    (h : ofItems items = .ok o) : o.skip = true ↔ .word "skip" ∈ items := by
  obtain ⟨-, -, rfl⟩ := ofItems_eq_ok_iff.1 h
  exact decide_eq_true_iff

theorem isRegistered_of_skip {items : List AnnotationItem} {o : FieldOptions}
    (h : ofItems items = .ok o) (hskip : o.skip = true) : o.isRegistered = false := by
  obtain ⟨-, hclash, rfl⟩ := ofItems_eq_ok_iff.1 h
  exact Bool.eq_false_iff.2 fun hregistered => hclash (.inl ⟨hskip, .inl hregistered⟩)

/-! ## Malformed lists -/

inductive Malformed (items : List AnnotationItem) : Prop
  | unknown {item : AnnotationItem} : item ∈ items → ¬ item.IsKnown → Malformed items
  | unnamed {value : AnnotationLiteral} : .assignment "column" value ∈ items →
      (∀ s, value = .text s → s = "") → Malformed items
  | skipCombined : .word "skip" ∈ items →
      (.word "filterable" ∈ items ∨ .word "sortable" ∈ items ∨
        ∃ value, .assignment "column" value ∈ items) → Malformed items
  | unregistered {value : AnnotationLiteral} : .assignment "column" value ∈ items →
      .word "filterable" ∉ items → .word "sortable" ∉ items → Malformed items

theorem isRegistered_summary_iff {items : List AnnotationItem} :
    (summary items).isRegistered = true ↔
      .word "filterable" ∈ items ∨ .word "sortable" ∈ items := by
  simp [isRegistered, summary]

theorem isSome_column_summary_iff {items : List AnnotationItem}
    (hitems : ∀ item ∈ items, item.IsKnown ∧ item.IsNamed) :
    (summary items).column.isSome = true ↔ ∃ value, .assignment "column" value ∈ items := by
  have hcolumn : (summary items).column.isSome = true ↔ ∃ item ∈ items, item.column?.isSome := by
    simp [summary, Option.isSome_iff_ne_none]
  rw [hcolumn]
  constructor
  · rintro ⟨item, hitem, hsome⟩
    obtain ⟨hknown, -⟩ := hitems item hitem
    cases item with
    | assignment path value =>
        obtain rfl : path = "column" := hknown
        exact ⟨value, hitem⟩
    | word path => cases hsome
    | call path arguments => cases hsome
  · rintro ⟨value, hvalue⟩
    obtain ⟨-, s, rfl, -⟩ := hitems _ hvalue
    exact ⟨_, hvalue, rfl⟩

theorem clashes_summary_iff {items : List AnnotationItem}
    (hitems : ∀ item ∈ items, item.IsKnown ∧ item.IsNamed) : (summary items).Clashes ↔
      .word "skip" ∈ items ∧ (.word "filterable" ∈ items ∨ .word "sortable" ∈ items ∨
        ∃ value, .assignment "column" value ∈ items) ∨
      (∃ value, .assignment "column" value ∈ items) ∧
        .word "filterable" ∉ items ∧ .word "sortable" ∉ items := by
  have hskip : (summary items).skip = true ↔ .word "skip" ∈ items := decide_eq_true_iff
  rw [Clashes, hskip, ← Bool.not_eq_true, isRegistered_summary_iff,
    isSome_column_summary_iff hitems, or_assoc, not_or]

/-- Exactly the malformed lists are refused. -/
theorem malformed_iff_ofItems {items : List AnnotationItem} :
    Malformed items ↔ ∃ e, ofItems items = .error e := by
  have hrefused : (∃ e, ofItems items = .error e) ↔ ¬ ∃ o, ofItems items = .ok o := by
    cases ofItems items <;> simp
  simp only [hrefused, ofItems_eq_ok_iff, exists_and_left, exists_eq, and_true]
  constructor
  · rintro hmalformed ⟨hitems, hclash⟩
    rw [clashes_summary_iff hitems] at hclash
    cases hmalformed with
    | unknown hitem hunknown => exact hunknown (hitems _ hitem).1
    | unnamed hcolumn hempty =>
        obtain ⟨-, s, rfl, hs⟩ := hitems _ hcolumn
        exact hs (hempty s rfl)
    | skipCombined hskip hother => exact hclash (.inl ⟨hskip, hother⟩)
    | unregistered hcolumn hf hs => exact hclash (.inr ⟨⟨_, hcolumn⟩, hf, hs⟩)
  · intro hrefused
    by_contra hwell
    have hitems : ∀ item ∈ items, item.IsKnown ∧ item.IsNamed := by
      intro item hitem
      have hknown : item.IsKnown := by
        by_contra hunknown
        exact hwell (.unknown hitem hunknown)
      refine ⟨hknown, ?_⟩
      cases item with
      | assignment path value =>
          obtain rfl : path = "column" := hknown
          by_contra hunnamed
          refine hwell (.unnamed hitem fun s hs => ?_)
          by_contra hne
          exact hunnamed ⟨s, hs, hne⟩
      | word path => trivial
      | call path arguments => trivial
    refine hrefused ⟨hitems, fun hclash => ?_⟩
    rcases (clashes_summary_iff hitems).1 hclash with ⟨hskip, hother⟩ | ⟨⟨value, hcolumn⟩, hf, hs⟩
    · exact hwell (.skipCombined hskip hother)
    · exact hwell (.unregistered hcolumn hf hs)

theorem not_malformed_of_ofItems {items : List AnnotationItem} {o : FieldOptions}
    (h : ofItems items = .ok o) : ¬ Malformed items := by
  rw [malformed_iff_ofItems, h]
  rintro ⟨e, he⟩
  cases he

end FieldOptions

end RecordQuery
