import RecordQuery.Proofs.Coercion
import RecordQuery.Proofs.Query.Settings

/-!
# Reading a filter

A parameter that reads as a filter names a filterable column (`ofParam_eq_ok_iff`), and its raw text
is read as a list, as a range or as a single operand, as its operator says (`readValue_isIn`,
`readValue_between`, `readValue_scalar`). Such a filter is well typed (`wellTyped_of_readValue`),
and the question that it asks compares by order or equality only (`not_compares_toPredicate`).
-/

namespace RecordQuery

/-! ## Operands of a filter -/

namespace FilterValue

def operands : FilterValue → List Operand
  | single o => [o]
  | list os => os
  | range least greatest => [least, greatest]

end FilterValue

namespace Filter

/-- The value of a filter fits its operator and holds operands of a descriptor's element kind. -/
structure WellTyped (d : Descriptor) (f : Filter) : Prop where
  list_iff : f.op = .isIn ↔ ∃ o os, f.value = .list (o :: os)
  range_iff : f.op = .between ↔ ∃ least greatest, f.value = .range least greatest
  single_iff : f.op ≠ .isIn ∧ f.op ≠ .between ↔ ∃ o, f.value = .single o
  ofKind : ∀ o ∈ f.value.operands, o.OfKind d.kind.element

variable {d : Descriptor} {column raw : String}

theorem typed_eq_ok_iff {part : String} {o : Operand} :
    typed d column raw part = .ok o ↔ coerce part d.kind = .ok o := by
  unfold typed
  cases coerce part d.kind <;> simp

theorem readValue_isIn {v : FilterValue} : readValue d column raw .isIn = .ok v ↔
    ∃ os, (Text.splitText ',' raw).mapM (fun part => typed d column raw (Text.trim part)) = .ok os ∧
      v = .list os := by
  unfold readValue
  simp only [bind_eq_ok_iff, Except.ok.injEq, @eq_comm _ v]

theorem readValue_between {v : FilterValue} : readValue d column raw .between = .ok v ↔
    ∃ left right least greatest, Text.splitFirst? ',' raw.toList = some (left, right) ∧
      coerce (Text.trim (String.ofList left)) d.kind = .ok least ∧
      coerce (Text.trim (String.ofList right)) d.kind = .ok greatest ∧
      v = .range least greatest := by
  unfold readValue
  cases Text.splitFirst? ',' raw.toList with
  | none => simp
  | some parts =>
      obtain ⟨left, right⟩ := parts
      simp only [bind_eq_ok_iff, typed_eq_ok_iff]
      constructor
      · rintro ⟨least, hl, greatest, hg, h⟩
        cases h
        exact ⟨left, right, least, greatest, rfl, hl, hg, rfl⟩
      · rintro ⟨_, _, least, greatest, h, hl, hg, rfl⟩
        cases h
        exact ⟨least, hl, greatest, hg, rfl⟩

theorem readValue_scalar {op : Operator} (hi : op ≠ .isIn) (hb : op ≠ .between) {v : FilterValue} :
    readValue d column raw op = .ok v ↔ ∃ o, coerce raw d.kind = .ok o ∧ v = .single o := by
  have hread : readValue d column raw op = (typed d column raw raw).map .single := by
    cases op with
    | isIn => exact absurd rfl hi
    | between => exact absurd rfl hb
    | _ => unfold readValue; cases typed d column raw raw <;> rfl
  simp only [hread, map_eq_ok_iff, typed_eq_ok_iff, @eq_comm _ v]

theorem ofParam_eq_ok_iff {r : Registry} {key : String} {f : Filter} :
    ofParam r key raw = .ok f ↔ ∃ d v, r.filterable? (Operator.splitKey key).1 = some d ∧
      readValue d (Operator.splitKey key).1 raw (Operator.splitKey key).2 = .ok v ∧
      f = ⟨d.path, (Operator.splitKey key).2, v⟩ := by
  unfold ofParam
  dsimp only
  cases r.filterable? (Operator.splitKey key).1 with
  | none => simp
  | some d =>
      simp only [bind_eq_ok_iff, Except.ok.injEq, Option.some.injEq, @eq_comm _ f,
        exists_and_left, exists_eq_left']

/-! ## Well-typed filters -/

theorem mapM_typed_ofKind {parts : List String} {os : List Operand}
    (h : parts.mapM (fun part => typed d column raw (Text.trim part)) = .ok os) :
    ∀ o ∈ os, o.OfKind d.kind.element := by
  induction parts generalizing os with
  | nil =>
      cases h
      simp
  | cons part parts ih =>
      obtain ⟨o, os, ho, hos, rfl⟩ := mapM_cons_eq_ok_iff.1 h
      exact List.forall_mem_cons.2 ⟨ofKind_of_coerce (typed_eq_ok_iff.1 ho), ih hos⟩

theorem wellTyped_of_readValue {op : Operator} {v : FilterValue}
    (h : readValue d column raw op = .ok v) (path : FieldPath) : WellTyped d ⟨path, op, v⟩ := by
  by_cases hi : op = .isIn
  · subst hi
    obtain ⟨os, hos, rfl⟩ := readValue_isIn.1 h
    -- there is a part even in an empty text, so the list is not empty
    obtain ⟨part, parts, hparts⟩ := List.exists_cons_of_ne_nil (Text.splitText_ne_nil ',' raw)
    rw [hparts] at hos
    have hall := mapM_typed_ofKind hos
    obtain ⟨o, os, -, -, rfl⟩ := mapM_cons_eq_ok_iff.1 hos
    exact ⟨by simp, by simp, by simp, hall⟩
  by_cases hb : op = .between
  · subst hb
    obtain ⟨_, _, least, greatest, -, hl, hg, rfl⟩ := readValue_between.1 h
    refine ⟨by simp, by simp, by simp, fun o ho => ?_⟩
    simp only [FilterValue.operands, List.mem_cons, List.not_mem_nil, or_false] at ho
    rcases ho with rfl | rfl
    · exact ofKind_of_coerce hl
    · exact ofKind_of_coerce hg
  · obtain ⟨o, ho, rfl⟩ := (readValue_scalar hi hb).1 h
    refine ⟨by simp [hi], by simp [hb], by simp [hi, hb], fun o' ho' => ?_⟩
    obtain rfl := List.mem_singleton.1 ho'
    exact ofKind_of_coerce ho

end Filter

/-! ## Comparisons in a predicate -/

inductive Predicate.Compares (op : Operator) : Predicate → Prop
  | field (path : FieldPath) (o : Operand) : Compares op (.field ⟨path, .compare op o⟩)
  | all {p : Predicate} {ps : List Predicate} : p ∈ ps → Compares op p → Compares op (.all ps)
  | any {p : Predicate} {ps : List Predicate} : p ∈ ps → Compares op p → Compares op (.any ps)
  | not {p : Predicate} : Compares op p → Compares op (.not p)

namespace Predicate

theorem compares_compare_iff {op op' : Operator} {path : FieldPath} {o : Operand} :
    (compare path op' o).Compares op ↔ op' = op := by
  constructor
  · rintro ⟨⟩
    rfl
  · rintro rfl
    exact .field path o

theorem compares_all_iff {op : Operator} {ps : List Predicate} :
    (all ps).Compares op ↔ ∃ p ∈ ps, p.Compares op := by
  constructor
  · rintro (_ | ⟨hp, h⟩)
    exact ⟨_, hp, h⟩
  · rintro ⟨p, hp, h⟩
    exact .all hp h

end Predicate

theorem Filter.toPredicate_single {path : FieldPath} {op : Operator} (hop : op ≠ .contains)
    (o : Operand) : (⟨path, op, .single o⟩ : Filter).toPredicate = .compare path op o := by
  cases op with
  | contains => exact absurd rfl hop
  | _ => rfl

theorem Filter.not_compares_toPredicate {d : Descriptor} {f : Filter} (h : f.WellTyped d)
    {op : Operator} (hc : f.toPredicate.Compares op) :
    op ≠ .isIn ∧ op ≠ .contains ∧ op ≠ .between := by
  obtain ⟨path, fop, v⟩ := f
  cases v with
  | range least greatest =>
      obtain ⟨p, hp, hc⟩ := Predicate.compares_all_iff.1 hc
      simp only [List.mem_cons, List.not_mem_nil, or_false] at hp
      rcases hp with rfl | rfl
      all_goals
        obtain rfl := Predicate.compares_compare_iff.1 hc
        decide
  | list os => cases hc
  | single o =>
      obtain ⟨hi, hb⟩ := h.single_iff.2 ⟨o, rfl⟩
      by_cases hcont : fop = .contains
      · subst hcont
        cases hc
      · rw [Filter.toPredicate_single hcont, Predicate.compares_compare_iff] at hc
        subst hc
        exact ⟨hi, hcont, hb⟩

end RecordQuery
