import RecordQuery.Proofs.Calendar.Alphabet
import RecordQuery.Proofs.Coercion
import RecordQuery.Proofs.Literal

/-!
# Commas in raw text

Raw text with a comma in it is read as text only: no number, truth value or instant is written with
a comma (`element_eq_string_of_coerce`). The comma is no blank, so it is still there when the blanks
at the ends are taken off (`Text.comma_mem_trim_iff`).
-/

namespace RecordQuery

/-! ## Blanks -/

namespace Text

variable {c : Char} {cs : List Char}

theorem mem_dropWhile_iff {p : Char → Bool} (hc : p c = false) : c ∈ cs.dropWhile p ↔ c ∈ cs := by
  refine ⟨fun h => (List.dropWhile_sublist p).subset h, fun h => ?_⟩
  rw [← List.takeWhile_append_dropWhile (p := p) (l := cs), List.mem_append] at h
  refine h.resolve_left fun htaken => ?_
  rw [List.mem_takeWhile_imp htaken] at hc
  cases hc

theorem mem_trim_iff (hc : isBlank c = false) {s : String} :
    c ∈ (trim s).toList ↔ c ∈ s.toList := by
  rw [trim, String.toList_ofList, trimBlanks, List.mem_reverse, dropBlanks, mem_dropWhile_iff hc,
    List.mem_reverse, dropBlanks, mem_dropWhile_iff hc]

theorem comma_mem_trim_iff {s : String} : ',' ∈ (trim s).toList ↔ ',' ∈ s.toList :=
  mem_trim_iff (by decide)

end Text

/-! ## Numbers -/

namespace Literal

variable {cs : List Char}

theorem comma_not_mem_of_isNumeral {n : Nat} (h : IsNumeral cs n) : ',' ∉ cs :=
  fun hmem => absurd (h.isDigit hmem) (by decide)

theorem comma_not_mem_of_readInteger {signed : Bool} {n : Int}
    (h : readInteger signed cs = some n) : ',' ∉ cs := by
  rcases readInteger_eq_some_iff.1 h with hds | hds | ⟨-, hds⟩
  · exact comma_not_mem_of_isNumeral hds
  · simpa using comma_not_mem_of_isNumeral hds
  · simpa using comma_not_mem_of_isNumeral hds

theorem comma_not_mem_of_readExponent {e : Int} (h : readExponent cs = some e) : ',' ∉ cs := by
  unfold readExponent at h
  split at h
  · exact List.not_mem_nil
  · split at h
    · rename_i hc
      have hinteger := comma_not_mem_of_readInteger h
      rcases hc with rfl | rfl
      · simpa using hinteger
      · simpa using hinteger
    · cases h

theorem comma_not_mem_of_readDecimal {r : Nat × Int} (h : readDecimal cs = some r) : ',' ∉ cs := by
  have hdigit : Char.isDigit ',' = false := by decide
  rw [← Text.mem_dropWhile_iff hdigit]
  unfold readDecimal at h
  dsimp only at h
  split at h
  · -- after a point there are more digits before the exponent
    rename_i cs' hpoint
    split at h
    · cases h
    · obtain ⟨e, he, -⟩ := Option.map_eq_some_iff.1 h
      have hrest := comma_not_mem_of_readExponent he
      rw [Text.mem_dropWhile_iff hdigit] at hrest
      rw [hpoint]
      simpa using hrest
  · split at h
    · cases h
    · obtain ⟨e, he, -⟩ := Option.map_eq_some_iff.1 h
      exact comma_not_mem_of_readExponent he

theorem comma_mem_takeSign (h : ',' ∈ cs) : ',' ∈ (takeSign cs).2 := by
  unfold takeSign
  split
  · simpa using h
  · simpa using h
  · exact h

theorem comma_not_mem_of_lower_mem {name : String} (hname : ',' ∉ name.toList)
    (h : String.ofList (cs.map Char.toLower) = name) : ',' ∉ cs := by
  intro hmem
  rw [← h, String.toList_ofList] at hname
  exact hname (List.mem_map.2 ⟨',', hmem, by decide⟩)

theorem comma_not_mem_of_readFloat {p : Precision} {x : Binary p} (h : readFloat p cs = some x) :
    ',' ∉ cs := by
  intro hmem
  have hrest := comma_mem_takeSign hmem
  unfold readFloat at h
  dsimp only at h
  split at h
  · rename_i hname
    rcases hname with hname | hname
    · exact comma_not_mem_of_lower_mem (by decide) hname hrest
    · exact comma_not_mem_of_lower_mem (by decide) hname hrest
  · split at h
    · rename_i hname
      exact comma_not_mem_of_lower_mem (by decide) hname hrest
    · obtain ⟨r, hr, -⟩ := Option.map_eq_some_iff.1 h
      exact comma_not_mem_of_readDecimal hr hrest

end Literal

/-! ## Other values -/

theorem comma_not_mem_of_readBool {s : String} {b : Bool} (h : readBool s = some b) :
    ',' ∉ s.toList := by
  have hnames : ∀ s ∈ ["1", "t", "T", "true", "TRUE", "True"] ++
      ["0", "f", "F", "false", "FALSE", "False"], ',' ∉ s.toList := by
    decide
  unfold readBool at h
  split at h
  · rename_i hs
    exact hnames s (List.mem_append_left _ hs)
  · split at h
    · rename_i hs
      exact hnames s (List.mem_append_right _ hs)
    · cases h

theorem Calendar.comma_not_mem_of_readTimestamp {s : String} {t : Instant}
    (h : readTimestamp s = some t) : ',' ∉ s.toList := by
  have hletter : ∀ layout ∈ timestampLayouts, ¬ Layout.HasLetter layout ',' := by decide
  obtain ⟨layout, hlayout, ht⟩ := List.exists_of_findSome?_eq_some h
  exact fun hmem => hletter layout hlayout (Layout.hasLetter_of_instant? ht ',' hmem)

/-! ## Operands -/

theorem comma_not_mem_of_coerceElement {raw : String} {k : Kind} (hk : k ≠ .string) {o : Operand}
    (h : coerceElement raw k = some o) : ',' ∉ raw.toList := by
  cases k with
  | string => exact absurd rfl hk
  | integer w =>
      obtain ⟨n, hn, -⟩ := Option.map_eq_some_iff.1 h
      obtain ⟨m, hm, -⟩ := Option.bind_eq_some_iff.1 hn
      exact Literal.comma_not_mem_of_readInteger hm
  | float p =>
      obtain ⟨x, hx, -⟩ := Option.map_eq_some_iff.1 h
      cases p with
      | single =>
          obtain ⟨y, hy, -⟩ := Option.map_eq_some_iff.1 hx
          exact Literal.comma_not_mem_of_readFloat hy
      | double =>
          obtain ⟨y, hy, -⟩ := Option.map_eq_some_iff.1 hx
          exact Literal.comma_not_mem_of_readFloat hy
  | bool =>
      obtain ⟨b, hb, -⟩ := Option.map_eq_some_iff.1 h
      exact comma_not_mem_of_readBool hb
  | timestamp =>
      obtain ⟨t, ht, -⟩ := Option.map_eq_some_iff.1 h
      exact Calendar.comma_not_mem_of_readTimestamp ht
  | mapping => cases h
  | record => cases h
  | sequence k => cases h
  | optional k => cases h

/-- Text with a comma is an operand of no kind but text. -/
theorem element_eq_string_of_coerce {raw : String} {k : Kind} {o : Operand}
    (h : coerce raw k = .ok o) (hcomma : ',' ∈ raw.toList) : k.element = .string := by
  by_contra hk
  exact comma_not_mem_of_coerceElement hk (coerce_eq_ok_iff.1 h) hcomma

theorem exists_coerce_of_element_eq_string (raw : String) {k : Kind} (hk : k.element = .string) :
    ∃ o, coerce raw k = .ok o :=
  ⟨.string raw, coerce_eq_ok_iff.2 (by rw [hk]; rfl)⟩

end RecordQuery
