import Mathlib.Data.List.Basic
import RecordQuery.Operator

/-!
# Keys with an operator

No suffix is the end of another one (`eq_of_suffix`), so a key is spelled as a field and an operator
in at most one way (`Spells.unique`), whatever the field is called. Splitting a key finds this way
in any order of the suffixes (`splitKeyBy_of_spells`), and takes a key that is not spelled so for a
field (`splitKeyBy_of_not_spells`).
-/

namespace RecordQuery.Operator

theorem mem_suffixed_iff {op : Operator} : op ∈ suffixed ↔ op ≠ eq := by
  cases op <;> decide

theorem eq_of_suffix : ∀ op ∈ suffixed, ∀ op' ∈ suffixed, op.suffix <:+ op'.suffix → op = op' := by
  decide

/-! ## Spelling -/

@[mk_iff]
structure Spells (key field : String) (op : Operator) : Prop where
  field_ne : field ≠ ""
  op_ne : op ≠ eq
  key_eq : key = field ++ "_" ++ op.name

variable {key field field' : String} {op op' : Operator}

theorem spells_toList_iff : Spells key field op ↔
    field.toList ≠ [] ∧ op ∈ suffixed ∧ key.toList = field.toList ++ op.suffix := by
  have hkey : key = field ++ "_" ++ op.name ↔ key.toList = field.toList ++ op.suffix := by
    rw [← String.toList_inj, String.toList_append, String.toList_append, List.append_assoc]
    rfl
  rw [spells_iff, mem_suffixed_iff, ← hkey, String.toList_eq_nil_iff.ne]

theorem Spells.unique (h : Spells key field op) (h' : Spells key field' op') :
    field = field' ∧ op = op' := by
  obtain ⟨-, hop, hkey⟩ := spells_toList_iff.1 h
  obtain ⟨-, hop', hkey'⟩ := spells_toList_iff.1 h'
  have hsuffix : op.suffix <:+ key.toList := ⟨field.toList, hkey.symm⟩
  have hsuffix' : op'.suffix <:+ key.toList := ⟨field'.toList, hkey'.symm⟩
  have heq : op = op' := by
    rcases List.suffix_or_suffix_of_suffix hsuffix hsuffix' with hends | hends
    · exact eq_of_suffix op hop op' hop' hends
    · exact (eq_of_suffix op' hop' op hop hends).symm
  subst heq
  exact ⟨String.toList_inj.1 (List.append_cancel_right (hkey.symm.trans hkey')), rfl⟩

/-! ## Splitting -/

theorem fieldBefore?_eq_some_iff {cs : List Char} {r : List Char × Operator} :
    fieldBefore? cs op = some r ↔ r.1 ≠ [] ∧ r.2 = op ∧ cs = r.1 ++ op.suffix := by
  unfold fieldBefore?
  constructor
  · intro h
    split at h
    · rename_i hdrop
      cases h
      exact ⟨List.cons_ne_nil _ _, rfl, dropSuffix?_eq_some_iff.1 hdrop⟩
    · cases h
  · obtain ⟨before, op'⟩ := r
    rintro ⟨hne, rfl, hcs⟩
    obtain ⟨c, before, rfl⟩ := List.exists_cons_of_ne_nil hne
    rw [dropSuffix?_eq_some_iff.2 hcs]

theorem spells_of_fieldBefore? {r : List Char × Operator} (hop : op ∈ suffixed)
    (h : fieldBefore? key.toList op = some r) : Spells key (String.ofList r.1) r.2 := by
  obtain ⟨hne, rfl, hkey⟩ := fieldBefore?_eq_some_iff.1 h
  rw [spells_toList_iff, String.toList_ofList]
  exact ⟨hne, hop, hkey⟩

section Orders

variable {order : List Operator}

theorem splitKeyBy_of_spells (horder : ∀ op, op ∈ order ↔ op ∈ suffixed)
    (h : Spells key field op) : splitKeyBy order key = (field, op) := by
  obtain ⟨hne, hop, hkey⟩ := spells_toList_iff.1 h
  have hbefore : fieldBefore? key.toList op = some (field.toList, op) :=
    fieldBefore?_eq_some_iff.2 ⟨hne, rfl, hkey⟩
  have hfound : order.findSome? (fieldBefore? key.toList) ≠ none := by
    intro hnone
    rw [List.findSome?_eq_none_iff.1 hnone op ((horder op).2 hop)] at hbefore
    cases hbefore
  -- what is found first spells the key as well, so it is no other field and operator
  obtain ⟨r, hr⟩ := Option.ne_none_iff_exists'.1 hfound
  obtain ⟨op', hop', hfirst⟩ := List.exists_of_findSome?_eq_some hr
  obtain ⟨hfield, heq⟩ := (spells_of_fieldBefore? ((horder op').1 hop') hfirst).unique h
  rw [splitKeyBy, hr, ← hfield, ← heq]

theorem splitKeyBy_of_not_spells (horder : ∀ op, op ∈ order ↔ op ∈ suffixed)
    (h : ¬ ∃ field op, Spells key field op) : splitKeyBy order key = (key, eq) := by
  have hnone : order.findSome? (fieldBefore? key.toList) = none := by
    rw [List.findSome?_eq_none_iff]
    intro op hop
    by_contra hsome
    obtain ⟨r, hr⟩ := Option.ne_none_iff_exists'.1 hsome
    exact h ⟨_, _, spells_of_fieldBefore? ((horder op).1 hop) hr⟩
  rw [splitKeyBy, hnone]

theorem splitKeyBy_eq_splitKey (horder : ∀ op, op ∈ order ↔ op ∈ suffixed) (key : String) :
    splitKeyBy order key = splitKey key := by
  by_cases h : ∃ field op, Spells key field op
  · obtain ⟨field, op, h⟩ := h
    rw [splitKeyBy_of_spells horder h, splitKey, splitKeyBy_of_spells (fun _ => Iff.rfl) h]
  · rw [splitKeyBy_of_not_spells horder h, splitKey, splitKeyBy_of_not_spells (fun _ => Iff.rfl) h]

end Orders

theorem splitKey_of_spells (h : Spells key field op) : splitKey key = (field, op) :=
  splitKeyBy_of_spells (fun _ => Iff.rfl) h

theorem splitKey_append_suffix (hop : op ∈ suffixed) (hfield : field ≠ "")
    (hkey : key.toList = field.toList ++ op.suffix) : splitKey key = (field, op) :=
  splitKey_of_spells (spells_toList_iff.2 ⟨mt String.toList_eq_nil_iff.1 hfield, hop, hkey⟩)

theorem splitKey_append {suffix : String} (hop : op ∈ suffixed)
    (hsuffix : suffix.toList = op.suffix) (hfield : field ≠ "") :
    splitKey (field ++ suffix) = (field, op) :=
  splitKey_append_suffix hop hfield (by rw [String.toList_append, hsuffix])

theorem splitKey_eq_iff : splitKey key = (key, eq) ↔ ¬ ∃ field op, Spells key field op := by
  constructor
  · rintro hsplit ⟨field, op, h⟩
    rw [splitKey_of_spells h] at hsplit
    cases hsplit
    exact h.op_ne rfl
  · exact splitKeyBy_of_not_spells fun _ => Iff.rfl

theorem splitKey_eq_of_snd_eq (h : (splitKey key).2 = eq) : splitKey key = (key, eq) := by
  rw [splitKey_eq_iff]
  rintro ⟨field, op, hspells⟩
  rw [splitKey_of_spells hspells] at h
  exact hspells.op_ne h

/-- A key is split in the same way in every order of the suffixes, because it is spelled as a field
and an operator in at most one way. Any field that is not empty is found again in front of any
operator with a suffix, also if it ends like one itself, and exactly the keys that are not spelled
so are fields. -/
theorem splitKey_unambiguous (key : String) :
    (∀ order : List Operator, order.Perm suffixed → splitKeyBy order key = splitKey key) ∧
    (∀ field op field' op', Spells key field op → Spells key field' op' →
      field = field' ∧ op = op') ∧
    (∀ (field : String) (op : Operator), field ≠ "" → op ≠ eq →
      splitKey (field ++ "_" ++ op.name) = (field, op)) ∧
    (splitKey key = (key, eq) ↔ ¬ ∃ field op, Spells key field op) := by
  refine ⟨fun order horder => splitKeyBy_eq_splitKey (fun _ => horder.mem_iff) key,
    fun _ _ _ _ h h' => h.unique h', fun field op hfield hop => ?_, splitKey_eq_iff⟩
  exact splitKey_of_spells ⟨hfield, hop, rfl⟩

/-- A field that ends like an operator, with the suffixes tried backwards, and a suffix alone. -/
theorem splitKey_unambiguous_bounds :
    let key := "price_lt_gte"
    suffixed.reverse.Perm suffixed ∧ splitKeyBy suffixed.reverse key = ("price_lt", gte) ∧
      (∀ field op, Spells key field op → field = "price_lt" ∧ op = gte) ∧
      splitKey ("price_lt" ++ "_" ++ gte.name) = ("price_lt", gte) ∧
      ¬ ∃ field op, Spells "_in" field op := by
  intro key
  have hspells : Spells key "price_lt" gte := ⟨by decide, by decide, by decide⟩
  obtain ⟨horders, hunique, hsplit, -⟩ := splitKey_unambiguous key
  have hfound := hsplit "price_lt" gte (by decide) (by decide)
  have hperm : suffixed.reverse.Perm suffixed := List.reverse_perm suffixed
  refine ⟨hperm, (horders _ hperm).trans hfound, fun field op h => hunique _ _ _ _ h hspells,
    hfound, (splitKey_unambiguous "_in").2.2.2.1 (by decide)⟩

end RecordQuery.Operator
