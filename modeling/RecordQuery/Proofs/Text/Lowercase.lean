import Mathlib.Data.List.TakeWhile
import RecordQuery.Text.Case

/-!
# The lower-case form of a part of a text

The lower-case form of a text is the form of its parts one after the other (`lowerFrom_append`), but
the form of a part depends on the text around it: a capital sigma is final after a character with a
case when none follows. So a part keeps the form that it has alone exactly if the text around it
changes no sigma near its two ends (`lowerFrom_prefix_iff`, `lowerFrom_suffix_iff`).
-/

namespace RecordQuery.Text

open Case

variable {before before' after after' cs : List Char} {c : Char}

/-! ## Characters in a text -/

/-- A sigma between the texts `before`, last character first, and `after` ends a word. -/
def endsWord (before after : List Char) : Bool := casedAhead before && !casedAhead after

def lowerAt (before : List Char) (c : Char) (after : List Char) : List Char :=
  if c = 'Σ' then [if endsWord before after then 'ς' else 'σ'] else lowerChar c

theorem length_lowerAt (before before' : List Char) (c : Char) (after after' : List Char) :
    (lowerAt before c after).length = (lowerAt before' c after').length := by
  unfold lowerAt
  split <;> rfl

theorem lowerAt_eq_iff : lowerAt before c after = lowerAt before' c after' ↔
    (c = 'Σ' → endsWord before after = endsWord before' after') := by
  unfold lowerAt
  by_cases hc : c = 'Σ'
  · rw [if_pos hc, if_pos hc]
    cases endsWord before after <;> cases endsWord before' after' <;> simp [hc]
  · simp [hc]

theorem toList_lowercase (s : String) : (lowercase s).toList = lowerFrom [] s.toList :=
  String.toList_ofList

/-! ## Parts of a text -/

/-- The lower-case form of a part of a text between `before`, last character first, and `after`. -/
def lowerWithin (before : List Char) : List Char → List Char → List Char
  | [], _ => []
  | c :: cs, after => lowerAt before c (cs ++ after) ++ lowerWithin (c :: before) cs after

theorem lowerFrom_append (after : List Char) : ∀ (before cs : List Char),
    lowerFrom before (cs ++ after) =
      lowerWithin before cs after ++ lowerFrom (cs.reverse ++ before) after
  | _, [] => rfl
  | before, c :: cs => by
      have ih := lowerFrom_append after (c :: before) cs
      change lowerAt before c (cs ++ after) ++ lowerFrom (c :: before) (cs ++ after) = _
      rw [ih, lowerWithin, List.reverse_cons, List.append_assoc, List.append_assoc]
      rfl

theorem lowerWithin_nil (before cs : List Char) :
    lowerWithin before cs [] = lowerFrom before cs := by
  have h := lowerFrom_append [] before cs
  rw [List.append_nil] at h
  rw [h, lowerFrom, List.append_nil]

theorem length_lowerWithin : ∀ (before before' cs after after' : List Char),
    (lowerWithin before cs after).length = (lowerWithin before' cs after').length
  | _, _, [], _, _ => rfl
  | before, before', c :: cs, after, after' => by
      rw [lowerWithin, lowerWithin, List.length_append, List.length_append,
        length_lowerAt before before' c (cs ++ after) (cs ++ after'),
        length_lowerWithin (c :: before) (c :: before') cs after after']

theorem length_lowerFrom_eq (before before' cs after : List Char) :
    (lowerFrom before cs).length = (lowerWithin before' cs after).length := by
  rw [← lowerWithin_nil, length_lowerWithin]

theorem length_lowerFrom (before before' cs : List Char) :
    (lowerFrom before cs).length = (lowerFrom before' cs).length := by
  rw [length_lowerFrom_eq before before' cs [], lowerWithin_nil]

/-- A part has the same form between other texts if they change none of its sigmas. -/
theorem lowerWithin_eq_iff : ∀ {before before' cs : List Char},
    lowerWithin before cs after = lowerWithin before' cs after' ↔
      ∀ l r, cs = l ++ 'Σ' :: r →
        endsWord (l.reverse ++ before) (r ++ after) = endsWord (l.reverse ++ before') (r ++ after')
  | _, _, [] => by simp [lowerWithin]
  | before, before', c :: cs => by
      have ih := @lowerWithin_eq_iff (c :: before) (c :: before') cs
      rw [lowerWithin, lowerWithin]
      constructor
      · intro h l r hcs
        obtain ⟨hc, hrest⟩ := List.append_inj h (length_lowerAt ..)
        cases l with
        | nil =>
            obtain ⟨rfl, rfl⟩ := List.cons.inj hcs
            exact lowerAt_eq_iff.1 hc rfl
        | cons d l =>
            obtain ⟨rfl, rfl⟩ := List.cons.inj hcs
            simpa using ih.1 hrest l r rfl
      · intro h
        have hc : lowerAt before c (cs ++ after) = lowerAt before' c (cs ++ after') :=
          lowerAt_eq_iff.2 fun hc => h [] cs (by rw [hc]; rfl)
        have hrest := ih.2 fun l r hcs => by
          simpa using h (c :: l) r (by rw [hcs]; rfl)
        rw [hc, hrest]

/-! ## What a character sees of a text -/

def Ignorable (cs : List Char) : Prop := ∀ c ∈ cs, ignorableRanges.contains c = true

theorem Ignorable.casedAhead_append (h : Ignorable cs) (after : List Char) :
    casedAhead (cs ++ after) = casedAhead after := by
  unfold casedAhead
  rw [List.dropWhile_append_of_pos h]

theorem Ignorable.casedAhead_eq (h : Ignorable cs) : casedAhead cs = false := by
  have hself := h.casedAhead_append []
  rwa [List.append_nil] at hself

theorem Ignorable.reverse (h : Ignorable cs) : Ignorable cs.reverse :=
  fun c hc => h c (List.mem_reverse.1 hc)

theorem casedAhead_append_of_not_ignorable (h : ¬ Ignorable cs) (after : List Char) :
    casedAhead (cs ++ after) = casedAhead cs := by
  unfold casedAhead
  have hne : cs.dropWhile ignorableRanges.contains ≠ [] := fun hnil =>
    h (List.dropWhile_eq_nil_iff.1 hnil)
  obtain ⟨c, rest, hdrop⟩ := List.exists_cons_of_ne_nil hne
  rw [List.dropWhile_append, hdrop]
  rfl

/-! ## Parts that keep their form -/

/-- The text ends, up to characters that casing looks through, in a sigma after a character with a
case. -/
def EndsInSigma (cs : List Char) : Prop :=
  ∃ l r, cs = l ++ 'Σ' :: r ∧ casedAhead l.reverse = true ∧ Ignorable r

/-- The text begins, up to characters that casing looks through, with a sigma that no character with
a case follows. -/
def BeginsInSigma (cs : List Char) : Prop :=
  ∃ l r, cs = l ++ 'Σ' :: r ∧ Ignorable l ∧ casedAhead r = false

theorem EndsInSigma.mem (h : EndsInSigma cs) : 'Σ' ∈ cs := by
  obtain ⟨l, r, rfl, -, -⟩ := h
  exact List.mem_append_right l List.mem_cons_self

theorem BeginsInSigma.mem (h : BeginsInSigma cs) : 'Σ' ∈ cs := by
  obtain ⟨l, r, rfl, -, -⟩ := h
  exact List.mem_append_right l List.mem_cons_self

/-- A part has the form that it has alone if no sigma at its end is followed, and no sigma at its
beginning preceded, by a character with a case. -/
theorem lowerWithin_eq_lowerFrom (hends : ¬ (EndsInSigma cs ∧ casedAhead after = true))
    (hbegins : ¬ (BeginsInSigma cs ∧ casedAhead before = true)) :
    lowerWithin before cs after = lowerFrom [] cs := by
  rw [← lowerWithin_nil, lowerWithin_eq_iff]
  intro l r hcs
  rw [List.append_nil, List.append_nil]
  unfold endsWord
  by_cases hl : Ignorable l
  · -- Alone, no character with a case precedes the sigma.
    rw [hl.reverse.casedAhead_append, hl.reverse.casedAhead_eq, Bool.false_and]
    cases hbefore : casedAhead before with
    | false => rfl
    | true =>
        have hr : casedAhead r = true := eq_true_of_ne_false fun hr =>
          hbegins ⟨⟨l, r, hcs, hl, hr⟩, hbefore⟩
        have hnot : ¬ Ignorable r := fun hi => by simp [hi.casedAhead_eq] at hr
        rw [casedAhead_append_of_not_ignorable hnot, hr]
        rfl
  · have hl' : ¬ Ignorable l.reverse := fun h => hl (by simpa using h.reverse)
    rw [casedAhead_append_of_not_ignorable hl']
    cases hcased : casedAhead l.reverse with
    | false => rfl
    | true =>
        by_cases hr : Ignorable r
        · have hafter : casedAhead after = false := eq_false_of_ne_true fun hafter =>
            hends ⟨⟨l, r, hcs, hcased, hr⟩, hafter⟩
          rw [hr.casedAhead_append, hr.casedAhead_eq, hafter]
        · rw [casedAhead_append_of_not_ignorable hr]

theorem EndsInSigma.lowerWithin_ne (h : EndsInSigma cs) (hafter : casedAhead after = true) :
    lowerWithin [] cs after ≠ lowerFrom [] cs := by
  rw [← lowerWithin_nil, Ne, lowerWithin_eq_iff]
  obtain ⟨l, r, hcs, hl, hr⟩ := h
  intro heq
  have hsame := heq l r hcs
  simp [endsWord, hl, hr.casedAhead_append, hr.casedAhead_eq, hafter] at hsame

theorem BeginsInSigma.lowerFrom_ne (h : BeginsInSigma cs) (hbefore : casedAhead before = true) :
    lowerFrom before cs ≠ lowerFrom [] cs := by
  rw [← lowerWithin_nil, ← lowerWithin_nil, Ne, lowerWithin_eq_iff]
  obtain ⟨l, r, hcs, hl, hr⟩ := h
  intro heq
  have hsame := heq l r hcs
  simp [endsWord, hl.reverse.casedAhead_append, hl.reverse.casedAhead_eq, hr, hbefore] at hsame

/-! ## Beginnings, ends and parts -/

theorem lowerFrom_prefix_iff (cs after : List Char) :
    lowerFrom [] cs <+: lowerFrom [] (cs ++ after) ↔
      ¬ (EndsInSigma cs ∧ casedAhead after = true) := by
  rw [lowerFrom_append]
  constructor
  · rintro ⟨rest, h⟩ ⟨hends, hafter⟩
    exact hends.lowerWithin_ne hafter (List.append_inj h (length_lowerFrom_eq ..)).1.symm
  · intro h
    rw [lowerWithin_eq_lowerFrom h (by simp [casedAhead])]
    exact List.prefix_append ..

theorem lowerFrom_suffix_iff (before cs : List Char) :
    lowerFrom [] cs <:+ lowerFrom [] (before ++ cs) ↔
      ¬ (BeginsInSigma cs ∧ casedAhead before.reverse = true) := by
  rw [lowerFrom_append, List.append_nil]
  constructor
  · rintro ⟨rest, h⟩ ⟨hbegins, hbefore⟩
    exact hbegins.lowerFrom_ne hbefore (List.append_inj' h (length_lowerFrom ..)).2.symm
  · intro h
    rw [← lowerWithin_nil before.reverse, lowerWithin_eq_lowerFrom (by simp [casedAhead]) h]
    exact List.suffix_append ..

theorem lowerFrom_isInfix {before cs after : List Char}
    (hends : ¬ (EndsInSigma cs ∧ casedAhead after = true))
    (hbegins : ¬ (BeginsInSigma cs ∧ casedAhead before.reverse = true)) :
    lowerFrom [] cs <:+: lowerFrom [] (before ++ cs ++ after) := by
  rw [List.append_assoc, lowerFrom_append, List.append_nil, lowerFrom_append,
    lowerWithin_eq_lowerFrom hends hbegins, ← List.append_assoc]
  exact List.infix_append ..

/-! ## Parts that are lost -/

theorem exists_letter_ne (o : Option Char) : ∃ w : Char, o ≠ some w ∧ casedAhead [w] = true ∧
    ∀ before after, lowerAt before w after = [w] := by
  by_cases ho : o = some 'a'
  · refine ⟨'b', ?_, by decide +kernel, fun _ _ => rfl⟩
    rw [ho]
    decide
  · exact ⟨'a', ho, by decide +kernel, fun _ _ => rfl⟩

/-- A list that is another one up to its characters is no part of it with one more at the end. -/
theorem not_infix_concat {x y : List Char} {w : Char} (hlen : x.length = y.length) (hne : x ≠ y)
    (hw : x.getLast? ≠ some w) : ¬ x <:+: y ++ [w] := by
  rw [List.infix_concat_iff, List.suffix_concat_iff]
  rintro ((rfl | ⟨t, rfl, -⟩) | h)
  · exact hne (List.length_eq_zero_iff.1 hlen.symm).symm
  · exact hw List.getLast?_concat
  · exact hne (h.eq_of_length hlen)

theorem not_infix_cons {x y : List Char} {w : Char} (hlen : x.length = y.length) (hne : x ≠ y)
    (hw : x.head? ≠ some w) : ¬ x <:+: w :: y := by
  rw [List.infix_cons_iff, List.prefix_cons_iff]
  rintro ((rfl | ⟨t, rfl, -⟩) | h)
  · exact hne (List.length_eq_zero_iff.1 hlen.symm).symm
  · exact hw rfl
  · exact hne (h.eq_of_length hlen)

theorem EndsInSigma.exists_not_isInfix (h : EndsInSigma cs) :
    ∃ after, ¬ lowerFrom [] cs <:+: lowerFrom [] (cs ++ after) := by
  obtain ⟨w, hlast, hcased, hform⟩ := exists_letter_ne (lowerFrom [] cs).getLast?
  refine ⟨[w], ?_⟩
  have hform' : lowerFrom (cs.reverse ++ []) [w] = [w] := by
    rw [← lowerWithin_nil, lowerWithin, hform]
    rfl
  rw [lowerFrom_append, hform']
  exact not_infix_concat (length_lowerFrom_eq ..) (h.lowerWithin_ne hcased).symm hlast

theorem BeginsInSigma.exists_not_isInfix (h : BeginsInSigma cs) :
    ∃ before, ¬ lowerFrom [] cs <:+: lowerFrom [] (before ++ cs) := by
  obtain ⟨w, hhead, hcased, hform⟩ := exists_letter_ne (lowerFrom [] cs).head?
  refine ⟨[w], ?_⟩
  have hform' : lowerFrom [] ([w] ++ cs) = w :: lowerFrom [w] cs := by
    rw [lowerFrom_append, lowerWithin, hform]
    rfl
  rw [hform']
  exact not_infix_cons (length_lowerFrom ..) (h.lowerFrom_ne hcased).symm hhead

end RecordQuery.Text
