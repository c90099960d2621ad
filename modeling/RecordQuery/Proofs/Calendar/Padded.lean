import Mathlib.Algebra.Group.Nat.Defs
import Mathlib.Data.List.TakeWhile
import RecordQuery.Calendar.Layout
import RecordQuery.Instant
import RecordQuery.Proofs.Literal

/-!
# Numbers with zeros in front

A number that is written with zeros up to a width it does not pass has exactly that many digits
(`length_padded`) and keeps its value (`digitsValue_padded`). So a layout reads it back and goes on
with what follows, also when that begins with a digit (`Layout.readFrom_loose`,
`Layout.readFrom_exact`).
-/

namespace RecordQuery

open Text Literal

/-! ## Digits -/

theorem Text.isBlank_eq_false_of_isDigit {c : Char} (h : c.isDigit = true) : isBlank c = false := by
  have hdigit : 48 ≤ c.toNat ∧ c.toNat ≤ 57 := Char.isDigit_iff_toNat.1 h
  rw [← Bool.not_eq_true, isBlank, Ranges.contains_iff]
  rintro ⟨r, hr, hlow, hhigh⟩
  have hrange : ∀ r ∈ blankRanges, r.2 < 48 ∨ 57 < r.1 := by decide
  have houtside := hrange r hr
  omega

section Padded

variable {width n : Nat} {c : Char}

theorem toList_padded (width n : Nat) : (padded width n).toList =
    List.replicate (width - (Nat.toDigits 10 n).length) '0' ++ Nat.toDigits 10 n :=
  String.toList_ofList

theorem length_padded (hwidth : 0 < width) (h : n < 10 ^ width) :
    (padded width n).toList.length = width := by
  have hle := (Nat.length_toDigits_le_iff (by decide) hwidth).2 h
  rw [toList_padded, List.length_append, List.length_replicate, Nat.sub_add_cancel hle]

theorem isDigit_of_mem_padded (h : c ∈ (padded width n).toList) : c.isDigit = true := by
  rw [toList_padded, List.mem_append] at h
  rcases h with h | h
  · rw [List.eq_of_mem_replicate h]
    rfl
  · exact Nat.isDigit_of_mem_toDigits (by decide) (by decide) h

theorem not_mem_padded (hc : c.isDigit = false) : c ∉ (padded width n).toList := by
  intro hmem
  rw [isDigit_of_mem_padded hmem] at hc
  cases hc

theorem digitsValue_padded (width n : Nat) : digitsValue (padded width n).toList = n := by
  rw [toList_padded, digitsValue_zeros_append, digitsValue_toDigits]

end Padded

namespace Calendar

/-! ## Reading rows of digits -/

variable {ds : List Char}

theorem takeNumber_append (hne : ds ≠ []) (hds : ∀ c ∈ ds, c.isDigit = true) (rest : List Char) :
    takeNumber ds.length (ds ++ rest) = some (digitsValue ds, rest) := by
  unfold takeNumber
  dsimp only
  rw [List.take_left, List.takeWhile_eq_self_iff.2 hds, List.drop_left]
  exact if_neg fun hempty => hne (List.isEmpty_iff.1 hempty)

theorem takeExactly_append (hds : ∀ c ∈ ds, c.isDigit = true) (rest : List Char) :
    takeExactly ds.length (ds ++ rest) = some (digitsValue ds, rest) := by
  unfold takeExactly
  dsimp only
  rw [List.take_left, List.drop_left]
  exact if_pos ⟨rfl, List.all_eq_true.2 hds⟩

theorem dropBlanks_append (hne : ds ≠ []) (hds : ∀ c ∈ ds, c.isDigit = true) (rest : List Char) :
    dropBlanks (ds ++ rest) = ds ++ rest := by
  obtain ⟨c, ds, rfl⟩ := List.exists_cons_of_ne_nil hne
  have hblank := isBlank_eq_false_of_isDigit (hds c List.mem_cons_self)
  exact List.dropWhile_cons_of_neg (by rw [hblank]; decide)

theorem takeYear_append (hne : ds ≠ []) (hds : ∀ c ∈ ds, c.isDigit = true) (rest : List Char) :
    takeYear (ds ++ rest) =
      (takeNumber Field.year.digits (ds ++ rest)).map fun (n, rest) => ((n : Int), rest) := by
  obtain ⟨c, ds, rfl⟩ := List.exists_cons_of_ne_nil hne
  have hdigit := hds c List.mem_cons_self
  unfold takeYear
  split
  · rename_i heq
    cases heq
    cases hdigit
  · rename_i heq
    cases heq
    cases hdigit
  · rfl

/-! ## Reading a number with zeros in front -/

variable {f : Field} {n : Nat}

theorem Field.digits_pos (f : Field) : 0 < f.digits := by
  cases f <;> decide

theorem padded_ne_nil (h : n < 10 ^ f.digits) : (padded f.digits n).toList ≠ [] := by
  rw [← List.length_pos_iff, length_padded f.digits_pos h]
  exact f.digits_pos

theorem takeNumber_padded (h : n < 10 ^ f.digits) (rest : List Char) :
    takeNumber f.digits ((padded f.digits n).toList ++ rest) = some (n, rest) := by
  have hread := takeNumber_append (padded_ne_nil h) (fun _ => isDigit_of_mem_padded) rest
  rwa [length_padded f.digits_pos h, digitsValue_padded] at hread

theorem takeExactly_padded (h : n < 10 ^ f.digits) (rest : List Char) :
    takeExactly f.digits ((padded f.digits n).toList ++ rest) = some (n, rest) := by
  have hdigits : ∀ c ∈ (padded f.digits n).toList, c.isDigit = true :=
    fun _ => isDigit_of_mem_padded
  have hread := takeExactly_append hdigits rest
  rwa [length_padded f.digits_pos h, digitsValue_padded] at hread

theorem takeLoose_padded (h : n < 10 ^ f.digits) (rest : List Char) :
    takeLoose f ((padded f.digits n).toList ++ rest) = some ((n : Int), rest) := by
  have hdigits : ∀ c ∈ (padded f.digits n).toList, c.isDigit = true :=
    fun _ => isDigit_of_mem_padded
  unfold takeLoose
  rw [dropBlanks_append (padded_ne_nil h) hdigits]
  split
  · rename_i hyear
    subst hyear
    rw [takeYear_append (padded_ne_nil h) hdigits, takeNumber_padded h]
    rfl
  · rw [takeNumber_padded h]
    rfl

namespace Layout

variable {p : Parts} {rest : List Char} {layout : Layout} {width : Nat}

theorem readFrom_loose (f : Field) (h : n < 10 ^ width) (hwidth : f.digits = width) :
    readFrom p ((padded width n).toList ++ rest) (.loose f :: layout) =
      readFrom (p.set n f) rest layout := by
  subst hwidth
  rw [readFrom, Item.take, takeLoose_padded h]
  rfl

theorem readFrom_exact (f : Field) (h : n < 10 ^ width) (hwidth : f.digits = width) :
    readFrom p ((padded width n).toList ++ rest) (.exact f :: layout) =
      readFrom (p.set n f) rest layout := by
  subst hwidth
  rw [readFrom, Item.take, takeExactly_padded h]
  rfl

theorem readFrom_mark {c : Char} {choices : List Char} (h : c ∈ choices) :
    readFrom p (c :: rest) (.mark choices :: layout) = readFrom p rest layout := by
  have htake : (Item.mark choices).take p (c :: rest) = some (p, rest) := if_pos h
  rw [readFrom, htake]
  rfl

end Layout

end Calendar

end RecordQuery
