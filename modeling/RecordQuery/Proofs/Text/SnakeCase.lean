import Mathlib.Data.List.Basic
import RecordQuery.Registry

/-!
# Names in snake case

A name in snake case is the name with its upper-case characters in lower case and with separators in
front of the characters that begin a word (`toList_snakeCase`). A separator never stands next to an
underscore of the name (`WordAt.ne_underscore`), so no other choice of positions gives the same text
(`separated_eq_iff`). In ASCII no upper-case character is left, and then nothing changes any more
(`snakeFrom_eq_self`).
-/

namespace RecordQuery

/-! ## Lower case -/

namespace Text

theorem lowerChar_ne_nil (c : Char) : lowerChar c ≠ [] := by
  unfold lowerChar
  split
  · exact List.cons_ne_nil _ _
  · split <;> exact List.cons_ne_nil _ _

/-- No run of the table has an underscore among its lower-case forms. -/
theorem underscore_not_in_lowerRuns : ∀ run ∈ Case.lowerRuns,
    ¬ ((run.1 : Int) + run.2.2.2 ≤ 0x5F ∧ (0x5F : Int) ≤ run.2.1 + run.2.2.2) := by
  decide +kernel

theorem shiftByRuns_ne_underscore {n : ℕ} (hn : n ≠ 0x5F) :
    shiftByRuns Case.lowerRuns n ≠ 0x5F := by
  unfold shiftByRuns
  split
  · rename_i first last step offset hfind
    have hrun := underscore_not_in_lowerRuns _ (List.mem_of_find?_eq_some hfind)
    have hin := List.find?_some hfind
    simp only [Bool.and_eq_true, decide_eq_true_eq] at hrun hin
    omega
  · exact hn

theorem eq_of_ofNat_eq_underscore {n : ℕ} (h : Char.ofNat n = '_') : n = 0x5F := by
  by_cases hvalid : n.isValidChar
  · rw [Char.ofNat, dif_pos hvalid] at h
    exact congrArg Char.toNat h
  · rw [Char.ofNat, dif_neg hvalid] at h
    exact absurd h (by decide)

theorem eq_of_toLower_eq_underscore {c : Char} (hc : c.toNat < 0x80) (h : c.toLower = '_') :
    c = '_' := by
  have hall : ∀ n < 0x80, (Char.ofNat n).toLower = '_' → Char.ofNat n = '_' := by decide
  have hone := hall c.toNat hc
  rw [Char.ofNat_toNat] at hone
  exact hone h

theorem isUppercase_toLower {c : Char} (hc : c.toNat < 0x80) : isUppercase c.toLower = false := by
  have hall : ∀ n < 0x80, isUppercase (Char.ofNat n).toLower = false := by decide
  have hone := hall c.toNat hc
  rwa [Char.ofNat_toNat] at hone

theorem eq_of_underscore_mem_lowerChar {c : Char} (h : '_' ∈ lowerChar c) : c = '_' := by
  unfold lowerChar at h
  split at h
  · rename_i hascii
    exact eq_of_toLower_eq_underscore hascii (List.mem_singleton.1 h).symm
  · split at h
    · exact absurd h (by decide)
    · have hshift := eq_of_ofNat_eq_underscore (List.mem_singleton.1 h).symm
      by_contra hc
      refine shiftByRuns_ne_underscore (fun hn => hc ?_) hshift
      rw [← Char.ofNat_toNat c, hn]

end Text

namespace SnakeCase

open Text

def lowered (c : Char) : List Char := if isUppercase c then lowerChar c else [c]

theorem lowered_ne_nil (c : Char) : lowered c ≠ [] := by
  unfold lowered
  split
  · exact lowerChar_ne_nil c
  · exact List.cons_ne_nil _ _

theorem lowered_underscore : lowered '_' = ['_'] := by decide

theorem eq_of_underscore_mem_lowered {c : Char} (h : '_' ∈ lowered c) : c = '_' := by
  unfold lowered at h
  split at h
  · exact eq_of_underscore_mem_lowerChar h
  · exact (List.mem_singleton.1 h).symm

theorem exists_lowered_eq_cons {c : Char} (hc : c ≠ '_') :
    ∃ y ys, lowered c = y :: ys ∧ y ≠ '_' := by
  obtain ⟨y, ys, h⟩ := List.exists_cons_of_ne_nil (lowered_ne_nil c)
  refine ⟨y, ys, h, fun hy => hc (eq_of_underscore_mem_lowered ?_)⟩
  rw [h, hy]
  exact List.mem_cons_self

theorem exists_lowered_eq_concat {c : Char} (hc : c ≠ '_') :
    ∃ xs x, lowered c = xs ++ [x] ∧ x ≠ '_' := by
  obtain ⟨xs, x, h⟩ := (List.eq_nil_or_concat' (lowered c)).resolve_left (lowered_ne_nil c)
  refine ⟨xs, x, h, fun hx => hc (eq_of_underscore_mem_lowered ?_)⟩
  rw [h, hx]
  exact List.mem_append_right _ (List.mem_singleton_self _)

/-! ## Separators at positions -/

/-- The characters of a name, the upper-case ones in lower case, with a separator in front of those
at the marked positions. -/
def separated (mark : ℕ → Bool) : List Char → List Char
  | [] => []
  | c :: cs => (if mark 0 then ['_'] else []) ++ lowered c ++ separated (fun i => mark (i + 1)) cs

variable {mark mark' : ℕ → Bool} {cs : List Char} {c : Char}

theorem separated_congr (h : ∀ i < cs.length, mark i = mark' i) :
    separated mark cs = separated mark' cs := by
  induction cs generalizing mark mark' with
  | nil => rfl
  | cons c cs ih =>
      rw [separated, separated, h 0 (Nat.zero_lt_succ _),
        ih fun i hi => h (i + 1) (Nat.succ_lt_succ hi)]

theorem separated_append (mark : ℕ → Bool) (before after : List Char) :
    separated mark (before ++ after) =
      separated mark before ++ separated (fun i => mark (before.length + i)) after := by
  induction before generalizing mark with
  | nil => simp [separated]
  | cons c before ih =>
      rw [List.cons_append, separated, separated, ih, List.append_assoc, List.append_assoc,
        List.append_assoc]
      simp only [List.length_cons, Nat.add_right_comm]

theorem filter_separated (mark : ℕ → Bool) (cs : List Char) :
    (separated mark cs).filter (· ≠ '_') = (cs.flatMap lowered).filter (· ≠ '_') := by
  induction cs generalizing mark with
  | nil => rfl
  | cons c cs ih =>
      have hseparator : (if mark 0 then ['_'] else []).filter (· ≠ '_') = [] := by
        split <;> rfl
      rw [separated, List.flatMap_cons, List.filter_append, List.filter_append, List.filter_append,
        ih, hseparator, List.nil_append]

/-- No marked position is at an underscore or behind one. -/
def Apart (mark : ℕ → Bool) (cs : List Char) : Prop :=
  ∀ i, mark i = true → cs[i - 1]? ≠ some '_' ∧ cs[i]? ≠ some '_'

theorem Apart.tail (h : Apart mark (c :: cs)) : Apart (fun i => mark (i + 1)) cs := by
  intro i hi
  obtain ⟨hbehind, hat⟩ := h (i + 1) hi
  cases i with
  | zero => exact ⟨hat, hat⟩
  | succ i => exact ⟨hbehind, hat⟩

theorem Apart.mark_one (h : Apart mark ('_' :: cs)) : mark 1 = false := by
  rw [← Bool.not_eq_true]
  exact fun hmark => (h 1 hmark).1 rfl

/-- With marks apart from underscores and none at the first character, the text is never one that
other marks give with more underscores in front of it. -/
theorem Apart.separated_ne (h : Apart mark cs) (hmark : mark 0 = false) (mark' : ℕ → Bool)
    {front : List Char} (hne : front ≠ []) (hfront : ∀ x ∈ front, x = '_') :
    separated mark cs ≠ front ++ separated mark' cs := by
  -- an underscore of the name stands in both texts and leaves as many of them in front as before
  induction cs generalizing mark mark' front with
  | nil =>
      intro heq
      exact hne (List.append_eq_nil_iff.1 heq.symm).1
  | cons c cs ih =>
      obtain ⟨x, front, rfl⟩ := List.exists_cons_of_ne_nil hne
      obtain rfl : x = '_' := hfront x List.mem_cons_self
      intro heq
      by_cases hc : c = '_'
      · subst hc
        rw [separated, separated, hmark, lowered_underscore] at heq
        have hrest : separated (fun i => mark (i + 1)) cs =
            (front ++ (if mark' 0 then ['_'] else []) ++ ['_']) ++
              separated (fun i => mark' (i + 1)) cs := by
          simpa using heq
        refine ih h.tail h.mark_one _ (by simp) (fun x hx => ?_) hrest
        simp only [List.mem_append, List.mem_singleton] at hx
        rcases hx with (hx | hx) | hx
        · exact hfront x (List.mem_cons_of_mem _ hx)
        · split at hx
          · exact List.mem_singleton.1 hx
          · cases hx
        · exact hx
      · obtain ⟨y, ys, hlowered, hy⟩ := exists_lowered_eq_cons hc
        rw [separated, hmark, hlowered] at heq
        exact hy (List.cons.inj heq).1

theorem Apart.mark_zero_eq (h : Apart mark (c :: cs))
    (heq : separated mark (c :: cs) = separated mark' (c :: cs)) : mark' 0 = mark 0 := by
  rw [separated, separated] at heq
  cases hmark : mark 0 <;> cases hmark' : mark' 0 <;> rw [hmark, hmark'] at heq
  · -- a separator in front of an underscore would be one underscore more
    exfalso
    by_cases hc : c = '_'
    · subst hc
      rw [lowered_underscore] at heq
      exact h.tail.separated_ne h.mark_one _ (List.cons_ne_nil '_' [])
        (fun x hx => List.mem_singleton.1 hx) (List.cons.inj heq).2
    · obtain ⟨y, ys, hlowered, hy⟩ := exists_lowered_eq_cons hc
      rw [hlowered] at heq
      exact hy (List.cons.inj heq).1
  · exfalso
    have hc : c ≠ '_' := fun hc => (h 0 hmark).2 (by rw [hc]; rfl)
    obtain ⟨y, ys, hlowered, hy⟩ := exists_lowered_eq_cons hc
    rw [hlowered] at heq
    exact hy (List.cons.inj heq).1.symm

theorem separated_eq_iff (h : Apart mark cs) :
    separated mark cs = separated mark' cs ↔ ∀ i < cs.length, mark' i = mark i := by
  refine ⟨fun heq => ?_, fun heq => (separated_congr heq).symm⟩
  induction cs generalizing mark mark' with
  | nil => exact fun i hi => absurd hi (Nat.not_lt_zero i)
  | cons c cs ih =>
      have hfirst := h.mark_zero_eq heq
      have hrest : separated (fun i => mark (i + 1)) cs =
          separated (fun i => mark' (i + 1)) cs := by
        rw [separated, separated, hfirst] at heq
        exact List.append_cancel_left heq
      intro i hi
      cases i with
      | zero => exact hfirst
      | succ i => exact ih h.tail hrest i (Nat.lt_of_succ_lt_succ hi)

/-! ## Words -/

/-- A word begins at a position within the characters: an upper-case character stands there, behind
a lower-case one, or behind an upper-case one and in front of a lower-case one. -/
def WordAt (cs : List Char) (i : ℕ) : Prop :=
  0 < i ∧ ∃ p c, cs[i - 1]? = some p ∧ cs[i]? = some c ∧ isUppercase c = true ∧
    (isLowercase p = true ∨
      isUppercase p = true ∧ ∃ n, cs[i + 1]? = some n ∧ isLowercase n = true)

theorem WordAt.lt_length {i : ℕ} (h : WordAt cs i) : i < cs.length := by
  obtain ⟨-, -, c, -, hc, -⟩ := h
  exact (List.getElem?_eq_some_iff.1 hc).1

theorem WordAt.ne_underscore {i : ℕ} (h : WordAt cs i) :
    cs[i - 1]? ≠ some '_' ∧ cs[i]? ≠ some '_' := by
  obtain ⟨-, p, c, hp, hc, hupper, hcase⟩ := h
  rw [hp, hc]
  constructor
  · rintro ⟨⟩
    rcases hcase with hlower | ⟨hupper, -⟩
    · exact absurd hlower (by decide)
    · exact absurd hupper (by decide)
  · rintro ⟨⟩
    exact absurd hupper (by decide)

/-- The character in front of a position in characters that follow `previous`. -/
def charBefore (previous : Option Char) (cs : List Char) : ℕ → Option Char
  | 0 => previous
  | i + 1 => cs[i]?

def wordMarks (previous : Option Char) (cs : List Char) (i : ℕ) : Bool :=
  cs[i]?.any fun c => startsWord (charBefore previous cs i) c cs[i + 1]?

theorem wordMarks_cons_succ (previous : Option Char) (c : Char) (cs : List Char) (i : ℕ) :
    wordMarks previous (c :: cs) (i + 1) = wordMarks (some c) cs i := by
  cases i <;> rfl

theorem startsWord_iff {previous next : Option Char} : startsWord previous c next = true ↔
    isUppercase c = true ∧ ∃ p, previous = some p ∧ (isLowercase p = true ∨
      isUppercase p = true ∧ ∃ n, next = some n ∧ isLowercase n = true) := by
  simp [startsWord, Option.any_eq_true]

theorem wordMarks_none_iff {i : ℕ} : wordMarks none cs i = true ↔ WordAt cs i := by
  simp only [wordMarks, Option.any_eq_true, startsWord_iff]
  cases i with
  | zero =>
      constructor
      · rintro ⟨c, -, -, p, ⟨⟩, -⟩
      · rintro ⟨hpos, -⟩
        exact absurd hpos (Nat.lt_irrefl 0)
  | succ i =>
      constructor
      · rintro ⟨c, hc, hupper, p, hp, hcase⟩
        exact ⟨Nat.succ_pos i, p, c, hp, hc, hupper, hcase⟩
      · rintro ⟨-, p, c, hp, hc, hupper, hcase⟩
        exact ⟨c, hc, hupper, p, hp, hcase⟩

instance (i : ℕ) : Decidable (WordAt cs i) := decidable_of_iff _ wordMarks_none_iff

theorem snakeFrom_eq (previous : Option Char) (cs : List Char) :
    snakeFrom previous cs = separated (wordMarks previous cs) cs := by
  induction cs generalizing previous with
  | nil => rfl
  | cons c cs ih =>
      simp only [snakeFrom, separated, wordMarks_cons_succ, ← ih]
      cases cs <;> rfl

theorem toList_snakeCase (name : String) :
    (snakeCase name).toList = separated (fun i => WordAt name.toList i) name.toList := by
  rw [snakeCase, String.toList_ofList, snakeFrom_eq]
  refine separated_congr fun i _ => ?_
  rw [Bool.eq_iff_iff, wordMarks_none_iff, decide_eq_true_iff]

theorem apart_wordAt (cs : List Char) : Apart (fun i => WordAt cs i) cs :=
  fun _ hi => (of_decide_eq_true hi).ne_underscore

theorem toList_snakeCase_eq_iff (name : String) (mark : ℕ → Bool) :
    (snakeCase name).toList = separated mark name.toList ↔
      ∀ i < name.toList.length, mark i = true ↔ WordAt name.toList i := by
  rw [toList_snakeCase, separated_eq_iff (apart_wordAt _)]
  refine forall₂_congr fun i _ => ?_
  rw [Bool.eq_iff_iff, decide_eq_true_iff]

theorem separated_take_succ (mark : ℕ → Bool) {i : ℕ} (hi : i < cs.length) :
    separated mark (cs.take (i + 1)) =
      separated mark (cs.take i) ++ (if mark i then ['_'] else []) ++ lowered cs[i] := by
  rw [← List.take_append_getElem hi, separated_append, separated, separated, List.append_nil,
    List.length_take_of_le (Nat.le_of_lt hi), Nat.add_zero, List.append_assoc]

theorem separated_eq_take_append (mark : ℕ → Bool) {i : ℕ} (hi : i < cs.length) :
    ∃ rest, separated mark cs = separated mark (cs.take i) ++
      ((if mark i then ['_'] else []) ++ (lowered cs[i] ++ rest)) := by
  refine ⟨separated (fun j => mark (i + 1 + j)) (cs.drop (i + 1)), ?_⟩
  rw [← List.append_assoc, ← List.append_assoc, ← separated_take_succ mark hi]
  conv_lhs => rw [← List.take_append_drop (i + 1) cs, separated_append]
  rw [List.length_take_of_le hi]

/-- A separator stands inside the text and not next to an underscore. What is written in front of
it, `u` and `x`, is the text for the characters in front of the position. -/
theorem Apart.exists_separated_eq {i : ℕ} (h : Apart mark cs) (hi : i + 1 < cs.length)
    (hmark : mark (i + 1) = true) : ∃ u x y v, separated mark cs = u ++ x :: '_' :: y :: v ∧
      separated mark (cs.take (i + 1)) = u ++ [x] ∧ x ≠ '_' ∧ y ≠ '_' := by
  obtain ⟨hbehind, hat⟩ := h (i + 1) hmark
  rw [Nat.add_sub_cancel, List.getElem?_eq_getElem (Nat.lt_of_succ_lt hi)] at hbehind
  rw [List.getElem?_eq_getElem hi] at hat
  obtain ⟨xs, x, hlast, hx⟩ := exists_lowered_eq_concat fun hc => hbehind (congrArg some hc)
  obtain ⟨y, ys, hfirst, hy⟩ := exists_lowered_eq_cons fun hc => hat (congrArg some hc)
  obtain ⟨rest, hrest⟩ := separated_eq_take_append mark hi
  have htake := separated_take_succ mark (Nat.lt_of_succ_lt hi)
  rw [hlast, ← List.append_assoc] at htake
  refine ⟨_, x, y, ys ++ rest, ?_, htake, hx, hy⟩
  rw [hrest, htake, hmark, hfirst]
  simp

/-! ## Names in ASCII -/

theorem isUppercase_of_mem_lowered (hc : c.toNat < 0x80) {x : Char} (hx : x ∈ lowered c) :
    isUppercase x = false := by
  unfold lowered at hx
  split at hx
  · rw [lowerChar, if_pos hc, List.mem_singleton] at hx
    rw [hx]
    exact isUppercase_toLower hc
  · rename_i hupper
    rw [List.mem_singleton.1 hx]
    exact Bool.eq_false_iff.2 hupper

theorem isUppercase_of_mem_separated (hcs : ∀ c ∈ cs, c.toNat < 0x80) (mark : ℕ → Bool) {x : Char}
    (hx : x ∈ separated mark cs) : isUppercase x = false := by
  induction cs generalizing mark with
  | nil => cases hx
  | cons c cs ih =>
      rw [separated, List.mem_append, List.mem_append] at hx
      rcases hx with (hx | hx) | hx
      · split at hx
        · rw [List.mem_singleton.1 hx]
          decide
        · cases hx
      · exact isUppercase_of_mem_lowered (hcs c List.mem_cons_self) hx
      · exact ih (fun d hd => hcs d (List.mem_cons_of_mem _ hd)) _ hx

theorem snakeFrom_eq_self (previous : Option Char) (h : ∀ c ∈ cs, isUppercase c = false) :
    snakeFrom previous cs = cs := by
  induction cs generalizing previous with
  | nil => rfl
  | cons c cs ih =>
      have hc := h c List.mem_cons_self
      rw [snakeFrom, startsWord, hc, ih _ fun d hd => h d (List.mem_cons_of_mem _ hd)]
      rfl

/-! ## Names -/

/-- Snake case puts the upper-case characters of a name in lower case and separators in front of
some characters: those that begin a word, and no others. Every separator stands inside of the text,
between two characters that are no underscores, and the name has no underscore there either. In
ASCII no upper-case character is left, so converting the text once more changes nothing. -/
theorem snakeCase_separates (name : String) :
    let cs := name.toList
    let text := (snakeCase name).toList
    text.filter (· ≠ '_') = (cs.flatMap lowered).filter (· ≠ '_') ∧
    (∀ mark : ℕ → Bool,
      text = separated mark cs ↔ ∀ i < cs.length, mark i = true ↔ WordAt cs i) ∧
    (∀ i, WordAt cs i → cs[i - 1]? ≠ some '_' ∧ cs[i]? ≠ some '_' ∧
      ∃ u x y v, text = u ++ x :: '_' :: y :: v ∧
        separated (fun j => WordAt cs j) (cs.take i) = u ++ [x] ∧ x ≠ '_' ∧ y ≠ '_') ∧
    ((∀ c ∈ cs, c.toNat < 0x80) →
      (∀ c ∈ text, isUppercase c = false) ∧ snakeCase (snakeCase name) = snakeCase name) := by
  intro cs text
  have htext : text = separated (fun i => WordAt cs i) cs := toList_snakeCase name
  refine ⟨htext ▸ filter_separated _ cs, toList_snakeCase_eq_iff name, fun i hi => ?_,
    fun hascii => ?_⟩
  · obtain ⟨hbehind, hat⟩ := hi.ne_underscore
    obtain ⟨i, rfl⟩ := Nat.exists_eq_add_of_le' hi.1
    refine ⟨hbehind, hat, ?_⟩
    rw [htext]
    exact (apart_wordAt cs).exists_separated_eq hi.lt_length (decide_eq_true hi)
  · have hlower : ∀ c ∈ text, isUppercase c = false := fun c hc =>
      isUppercase_of_mem_separated hascii _ (htext ▸ hc)
    refine ⟨hlower, String.toList_inj.1 ?_⟩
    rw [snakeCase, String.toList_ofList]
    exact snakeFrom_eq_self none hlower

/-- Runs of upper-case characters, one of them behind an underscore of the name. -/
theorem snakeCase_separates_page :
    let name := "userID_HTMLPage"
    let mark : ℕ → Bool := fun i => i = 4 ∨ i = 11
    let text := (snakeCase name).toList
    text = "user_id_html_page".toList ∧ (∀ c ∈ name.toList, c.toNat < 0x80) ∧
      WordAt name.toList 11 ∧ text = separated mark name.toList ∧
      (∃ u x y v, text = u ++ x :: '_' :: y :: v ∧ x ≠ '_' ∧ y ≠ '_') ∧
      (∀ c ∈ text, isUppercase c = false) ∧ snakeCase (snakeCase name) = snakeCase name := by
  intro name mark text
  have hall : name.toList.all (fun c => c.toNat < 0x80) = true := by decide
  have hascii : ∀ c ∈ name.toList, c.toNat < 0x80 := fun c hc =>
    of_decide_eq_true (List.all_eq_true.1 hall c hc)
  have hword : WordAt name.toList 11 := by decide
  have hmarks : ∀ i < name.toList.length, mark i = true ↔ WordAt name.toList i := by
    decide +kernel
  obtain ⟨-, hseparated, haround, hagain⟩ := snakeCase_separates name
  obtain ⟨-, -, u, x, y, v, htext, -, hx, hy⟩ := haround 11 hword
  exact ⟨by decide +kernel, hascii, hword, (hseparated mark).2 hmarks,
    ⟨u, x, y, v, htext, hx, hy⟩, (hagain hascii).1, (hagain hascii).2⟩

end SnakeCase

end RecordQuery
