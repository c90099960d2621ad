import RecordQuery.Proofs.Commas
import RecordQuery.Proofs.Query.Parts

/-!
# Ranges of two parts

A range is two parts around a comma. The raw text is cut at its first comma, and only text can hold
another one, so a range that compiles has exactly two parts unless its parts are texts
(`exists_readValue_between_iff`). Raw text that does not compile is named in the error as it is
(`compile_between_takesTwoParts_iff`).
-/

namespace RecordQuery

/-! ## Raw text -/

namespace Filter

variable {kind : Kind} {d : Descriptor} {column raw : String}

def Readable (kind : Kind) (part : String) : Prop := ∃ o, coerce (Text.trim part) kind = .ok o

/-- The raw text has one comma, and the parts on both sides of it are read for the kind. -/
def IsTwoParts (kind : Kind) (raw : String) : Prop :=
  ∃ a b, raw = a ++ "," ++ b ∧ ',' ∉ a.toList ∧ ',' ∉ b.toList ∧
    Readable kind a ∧ Readable kind b

/-- The raw text is to be read as texts and has more commas than one. -/
def HasSurplus (kind : Kind) (raw : String) : Prop :=
  kind.element = .string ∧ 2 ≤ raw.toList.count ','

instance (kind : Kind) (raw : String) : Decidable (HasSurplus kind raw) :=
  inferInstanceAs (Decidable (_ ∧ _))

theorem count_comma_append {a : String} (ha : ',' ∉ a.toList) (b : String) :
    (a ++ "," ++ b).toList.count ',' = b.toList.count ',' + 1 := by
  have hcomma : ",".toList = [','] := rfl
  rw [String.toList_append, String.toList_append, hcomma, List.count_append, List.count_append,
    List.count_eq_zero_of_not_mem ha, List.count_singleton_self]
  omega

theorem IsTwoParts.count_eq_one (h : IsTwoParts kind raw) : raw.toList.count ',' = 1 := by
  obtain ⟨a, b, rfl, ha, hb, -⟩ := h
  rw [count_comma_append ha, List.count_eq_zero_of_not_mem hb]

theorem splitFirst?_comma_iff {left right : List Char} :
    Text.splitFirst? ',' raw.toList = some (left, right) ↔
      raw = String.ofList left ++ "," ++ String.ofList right ∧ ',' ∉ left := by
  rw [Text.splitFirst?_eq_some_iff, ← String.toList_inj]
  simp

theorem exists_readValue_between_first : (∃ v, readValue d column raw .between = .ok v) ↔
    ∃ a b, raw = a ++ "," ++ b ∧ ',' ∉ a.toList ∧ Readable d.kind a ∧ Readable d.kind b := by
  constructor
  · rintro ⟨v, hv⟩
    obtain ⟨left, right, least, greatest, hsplit, hl, hg, -⟩ := readValue_between.1 hv
    obtain ⟨hraw, hleft⟩ := splitFirst?_comma_iff.1 hsplit
    exact ⟨_, _, hraw, by rwa [String.toList_ofList], ⟨least, hl⟩, greatest, hg⟩
  · rintro ⟨a, b, rfl, ha, ⟨least, hl⟩, greatest, hg⟩
    exact ⟨_, (readValue_between_append ha).2 ⟨least, greatest, hl, hg, rfl⟩⟩

/-- A range is read when its raw text is two parts, or more parts of which all are texts. -/
theorem exists_readValue_between_iff : (∃ v, readValue d column raw .between = .ok v) ↔
    IsTwoParts d.kind raw ∨ HasSurplus d.kind raw := by
  rw [exists_readValue_between_first]
  constructor
  · rintro ⟨a, b, rfl, ha, hreada, hreadb⟩
    by_cases hb : ',' ∈ b.toList
    · -- a second comma is in the second part, which is then a text
      right
      obtain ⟨o, ho⟩ := hreadb
      refine ⟨element_eq_string_of_coerce ho (Text.comma_mem_trim_iff.2 hb), ?_⟩
      have hpos := List.count_pos_iff.2 hb
      rw [count_comma_append ha]
      omega
    · exact .inl ⟨a, b, rfl, ha, hb, hreada, hreadb⟩
  · rintro (⟨a, b, hraw, ha, -, hreada, hreadb⟩ | ⟨hkind, hcount⟩)
    · exact ⟨a, b, hraw, ha, hreada, hreadb⟩
    · have hmem : ',' ∈ raw.toList := List.count_pos_iff.1 (by omega)
      obtain ⟨left, right, hsplit, hleft⟩ := List.eq_append_cons_of_mem hmem
      obtain ⟨hraw, -⟩ := splitFirst?_comma_iff.1 (Text.splitFirst?_eq_some_iff.2 ⟨hsplit, hleft⟩)
      exact ⟨_, _, hraw, by rwa [String.toList_ofList],
        exists_coerce_of_element_eq_string _ hkind, exists_coerce_of_element_eq_string _ hkind⟩

theorem typed_eq_error {part : String} {e : QueryError} (h : typed d column raw part = .error e) :
    e = invalid d column raw := by
  unfold typed at h
  split at h
  · cases h
  · cases h
    rfl

/-- Whatever part of a range is not read, the error names the raw text as a whole. -/
theorem readValue_between_eq_error {e : QueryError}
    (h : readValue d column raw .between = .error e) : e = invalid d column raw := by
  unfold readValue at h
  dsimp only at h
  split at h
  · cases h
    rfl
  · rcases bind_eq_error_iff.1 h with hleast | ⟨least, -, h⟩
    · exact typed_eq_error hleast
    rcases bind_eq_error_iff.1 h with hgreatest | ⟨greatest, -, h⟩
    · exact typed_eq_error hgreatest
    · cases h

end Filter

/-! ## Parameters -/

namespace Query

open RecordQuery.Filter

variable {r : Registry} {options : Options} {column : String} {d : Descriptor} {raw : String}

/-- The parameter compiles exactly when its raw text is two parts, and otherwise fails with an error
that names the column, the raw text and the element kind. -/
structure TakesTwoParts (r : Registry) (options : Options) (column : String) (d : Descriptor)
    (raw : String) : Prop where
  compiles_iff : (∃ q, compile r (.single (column ++ "_between") raw) options = .ok q) ↔
    IsTwoParts d.kind raw
  fails : ¬ IsTwoParts d.kind raw → compile r (.single (column ++ "_between") raw) options =
    .error (.invalidValue column raw d.kind.element.display)

theorem compile_between_eq (hc : column ≠ "") (hd : r.filterable? column = some d) (raw : String) :
    compile r (.single (column ++ "_between") raw) options =
      (readValue d column raw .between).map fun v => ofFilter options ⟨d.path, .between, v⟩ :=
  have hsplit := Operator.splitKey_append (by decide) rfl hc
  compile_column_eq (not_isReserved_of_splitKey hsplit (by decide)) hsplit hd raw

/-- On a filterable column a range is taken as two parts, unless its parts are texts and the raw
text has more commas than one. It then compiles all the same, as the parts around the first one. -/
theorem compile_between_takesTwoParts_iff (options : Options) (hc : column ≠ "")
    (hd : r.filterable? column = some d) (raw : String) :
    TakesTwoParts r options column d raw ↔ ¬ HasSurplus d.kind raw := by
  have hok : (∃ q, compile r (.single (column ++ "_between") raw) options = .ok q) ↔
      IsTwoParts d.kind raw ∨ HasSurplus d.kind raw := by
    rw [compile_between_eq hc hd, ← @exists_readValue_between_iff d column raw]
    cases readValue d column raw .between <;> simp [Except.map]
  constructor
  · rintro ⟨hcompiles, -⟩ hsurplus
    have htwo := (hcompiles.1 (hok.2 (.inr hsurplus))).count_eq_one
    have hmany := hsurplus.2
    omega
  · intro hnot
    have hiff : (∃ q, compile r (.single (column ++ "_between") raw) options = .ok q) ↔
        IsTwoParts d.kind raw := hok.trans (or_iff_left hnot)
    refine ⟨hiff, fun htwo => ?_⟩
    rw [← hiff, compile_between_eq hc hd] at htwo
    rw [compile_between_eq hc hd]
    cases hread : readValue d column raw .between with
    | ok v => exact absurd ⟨_, by rw [hread]; rfl⟩ htwo
    | error e =>
        rw [readValue_between_eq_error hread]
        rfl

/-- Both ends of a range of optional integers have blanks around them, and a third part is refused.
A range of texts is taken with one comma. -/
theorem compile_between_takesTwoParts_iff_ages :
    let age : Descriptor := { path := .parse "age", kind := .optional (.integer .u8),
                              filterable := true }
    let name : Descriptor := { path := .parse "name", kind := .string, filterable := true }
    let r : Registry := ⟨[age, name]⟩
    "age" ≠ "" ∧ r.filterable? "age" = some age ∧
      TakesTwoParts r {} "age" age " 18, 30" ∧ TakesTwoParts r {} "age" age "18,30,40" ∧
      "name" ≠ "" ∧ r.filterable? "name" = some name ∧ TakesTwoParts r {} "name" name "a,b" ∧
      ¬ TakesTwoParts r {} "name" name "a,b,c" := by
  intro age name r
  have hage : r.filterable? "age" = some age := by decide +kernel
  have hname : r.filterable? "name" = some name := by decide +kernel
  have hages := compile_between_takesTwoParts_iff {} (by decide) hage
  have hnames := compile_between_takesTwoParts_iff {} (by decide) hname
  exact ⟨by decide, hage, (hages " 18, 30").2 (by decide), (hages "18,30,40").2 (by decide),
    by decide, hname, (hnames "a,b").2 (by decide),
    fun h => (hnames "a,b,c").1 h (by decide)⟩

/-- Three texts compile to a range whose second end has a comma in it. -/
theorem compile_between_three_texts :
    let name : Descriptor := { path := .parse "name", kind := .string, filterable := true }
    (⟨[name]⟩ : Registry).filterable? "name" = some name ∧ ¬ IsTwoParts name.kind "a,b,c" ∧
      ∃ q, compile ⟨[name]⟩ (.single ("name" ++ "_between") "a,b,c") {} = .ok q ∧
        q.filters = [⟨name.path, .between, .range (.string "a") (.string "b,c")⟩] := by
  intro name
  have hname : (⟨[name]⟩ : Registry).filterable? "name" = some name := by decide +kernel
  refine ⟨hname, fun h => absurd h.count_eq_one (by decide), ?_⟩
  rw [compile_between_eq (by decide) hname]
  exact ⟨_, rfl, rfl⟩

end Query

end RecordQuery
