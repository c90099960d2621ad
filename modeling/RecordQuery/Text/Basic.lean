/-!
# Texts and tables of characters

The order of texts by their bytes, search in texts, cutting at separators, and texts without the
blanks at their ends. A table of characters is a list of ranges of code points.
-/

namespace RecordQuery.Text

/-! ## Byte order -/

def bytes (s : String) : List UInt8 := s.toByteArray.data.toList

/-- Lexicographic order of the UTF-8 bytes; a proper beginning comes first. -/
def compareBytes (s t : String) : Ordering := compare (bytes s) (bytes t)

theorem bytes_inj {s t : String} : bytes s = bytes t ↔ s = t := by
  refine ⟨fun h => ?_, fun h => h ▸ rfl⟩
  have h := Array.toList_inj.1 h
  exact String.toByteArray_inj.1 (ByteArray.ext h)

theorem compareBytes_eq_iff {s t : String} : compareBytes s t = .eq ↔ s = t := by
  rw [compareBytes, Std.LawfulEqOrd.compare_eq_iff_eq, bytes_inj]

theorem compareBytes_self (s : String) : compareBytes s s = .eq := compareBytes_eq_iff.2 rfl

theorem compareBytes_self_ne_lt (s : String) : compareBytes s s ≠ .lt := by
  rw [compareBytes_self]
  decide

theorem compareBytes_swap (s t : String) : (compareBytes s t).swap = compareBytes t s :=
  Std.OrientedOrd.eq_swap.symm

theorem compareBytes_lt_trans {s t u : String} (h : compareBytes s t = .lt)
    (h' : compareBytes t u = .lt) : compareBytes s u = .lt := by
  unfold compareBytes at h h' ⊢
  exact Std.TransCmp.lt_trans h h'

theorem compareBytes_gt_iff {s t : String} : compareBytes s t = .gt ↔ compareBytes t s = .lt := by
  rw [← compareBytes_swap t s]
  cases compareBytes t s <;> decide

/-! ## Search -/

def occursIn (needle : List Char) : List Char → Bool
  | [] => needle.isEmpty
  | c :: cs => needle.isPrefixOf (c :: cs) || occursIn needle cs

def startsWith (field needle : String) : Bool := needle.toList.isPrefixOf field.toList

def endsWith (field needle : String) : Bool := needle.toList.isSuffixOf field.toList

def contains (field needle : String) : Bool := occursIn needle.toList field.toList

theorem occursIn_iff {needle : List Char} : ∀ {cs : List Char},
    occursIn needle cs = true ↔ needle <:+: cs
  | [] => by simp [occursIn]
  | c :: cs => by
      rw [occursIn, Bool.or_eq_true, List.isPrefixOf_iff_prefix, occursIn_iff, List.infix_cons_iff]

theorem contains_iff {field needle : String} :
    contains field needle = true ↔ needle.toList <:+: field.toList := occursIn_iff

theorem startsWith_iff {field needle : String} :
    startsWith field needle = true ↔ needle.toList <+: field.toList :=
  List.isPrefixOf_iff_prefix

theorem endsWith_iff {field needle : String} :
    endsWith field needle = true ↔ needle.toList <:+ field.toList :=
  List.isSuffixOf_iff_suffix

/-! ## Separators -/

theorem not_mem_of_mem_splitOn {sep : Char} {cs piece : List Char} (h : piece ∈ cs.splitOn sep) :
    sep ∉ piece := by
  induction cs generalizing piece with
  | nil =>
      rw [List.splitOn_nil, List.mem_singleton] at h
      exact h ▸ List.not_mem_nil
  | cons c cs ih =>
      rw [List.splitOn_cons_eq_if_modifyHead] at h
      obtain ⟨first, rest, hs⟩ := List.exists_cons_of_ne_nil (List.splitOn_ne_nil sep cs)
      rw [hs] at h ih
      split at h
      · rcases List.mem_cons.1 h with rfl | h
        · exact List.not_mem_nil
        · exact ih h
      · rename_i hc
        rcases List.mem_cons.1 h with rfl | h
        · have hsep : sep ≠ c := fun heq => hc (beq_iff_eq.2 heq.symm)
          exact List.not_mem_cons_of_ne_of_not_mem hsep (ih List.mem_cons_self)
        · exact ih (List.mem_cons_of_mem _ h)

def splitText (sep : Char) (s : String) : List String :=
  (s.toList.splitOn sep).map String.ofList

def joinTexts (sep : Char) (pieces : List String) : String :=
  String.ofList ([sep].intercalate (pieces.map String.toList))

theorem splitText_ne_nil (sep : Char) (s : String) : splitText sep s ≠ [] :=
  mt List.map_eq_nil_iff.1 (List.splitOn_ne_nil sep s.toList)

theorem joinTexts_splitText (sep : Char) (s : String) : joinTexts sep (splitText sep s) = s := by
  simp [joinTexts, splitText, Function.comp_def, List.intercalate_splitOn]

theorem splitText_joinTexts {sep : Char} {pieces : List String} (h : pieces ≠ [])
    (h' : ∀ p ∈ pieces, sep ∉ p.toList) : splitText sep (joinTexts sep pieces) = pieces := by
  rw [splitText, joinTexts, String.toList_ofList,
    List.splitOn_intercalate sep (by simpa using h') (by simpa using h)]
  simp [Function.comp_def]

/-- What stands before and after the first separator. -/
def splitFirst? (sep : Char) : List Char → Option (List Char × List Char)
  | [] => none
  | c :: cs =>
    if c = sep then some ([], cs)
    else (splitFirst? sep cs).map fun (before, after) => (c :: before, after)

theorem splitFirst?_eq_some_iff {sep : Char} : ∀ {cs before after : List Char},
    splitFirst? sep cs = some (before, after) ↔ cs = before ++ sep :: after ∧ sep ∉ before
  | [], before, after => by simp [splitFirst?]
  | c :: cs, before, after => by
      by_cases hc : c = sep
      · rw [splitFirst?, if_pos hc]
        cases before with
        | nil => simp [hc]
        | cons b bs =>
          constructor
          · rintro ⟨⟩
          · rintro ⟨heq, hmem⟩
            obtain rfl : c = b := (List.cons.inj heq).1
            exact absurd (hc ▸ List.mem_cons_self) hmem
      · rw [splitFirst?, if_neg hc]
        cases before with
        | nil => simp [hc]
        | cons b bs =>
          simp only [Option.map_eq_some_iff, Prod.exists, Prod.mk.injEq, List.cons.injEq,
            List.cons_append, List.mem_cons, not_or]
          constructor
          · rintro ⟨x, y, h, ⟨rfl, rfl⟩, rfl⟩
            have := splitFirst?_eq_some_iff.1 h
            exact ⟨⟨rfl, this.1⟩, Ne.symm hc, this.2⟩
          · rintro ⟨⟨rfl, h⟩, _, h'⟩
            exact ⟨bs, after, splitFirst?_eq_some_iff.2 ⟨h, h'⟩, ⟨rfl, rfl⟩, rfl⟩

/-! ## Tables and blanks -/

/-- Ranges of code points, both ends included. -/
abbrev Ranges := List (Nat × Nat)

def Ranges.contains (table : Ranges) (c : Char) : Bool :=
  table.any fun (first, last) => first ≤ c.toNat && c.toNat ≤ last

theorem Ranges.contains_iff {table : Ranges} {c : Char} :
    table.contains c = true ↔ ∃ r ∈ table, r.1 ≤ c.toNat ∧ c.toNat ≤ r.2 := by
  simp [Ranges.contains]

/-- The code points with the property `White_Space`. -/
def blankRanges : Ranges := [
  (0x0009, 0x000D), (0x0020, 0x0020), (0x0085, 0x0085), (0x00A0, 0x00A0), (0x1680, 0x1680),
  (0x2000, 0x200A), (0x2028, 0x2029), (0x202F, 0x202F), (0x205F, 0x205F), (0x3000, 0x3000)]

def isBlank (c : Char) : Bool := blankRanges.contains c

def dropBlanks (cs : List Char) : List Char := cs.dropWhile isBlank

def trimBlanks (cs : List Char) : List Char := (dropBlanks (dropBlanks cs).reverse).reverse

def trim (s : String) : String := String.ofList (trimBlanks s.toList)

end RecordQuery.Text
