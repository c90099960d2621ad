import RecordQuery.Proofs.Optionals.Wrapping
import RecordQuery.Proofs.Text.Lowercase

/-!
# Matches without letter case

Ignoring letter case keeps every match of whole texts and of elements of a sequence. A text that is
found at the start, at the end or inside a field can be lost, since the lower-case form of its
sigmas depends on the field around it: exactly the texts with a sigma at their end, or at their
beginning, are lost in some field (`Condition.ignoringCase_keeps`).
-/

namespace RecordQuery

open Text

namespace MatchMode

variable {mode : MatchMode} {field needle : String} {cs cs' : List Char}

def Relates : MatchMode → List Char → List Char → Prop
  | exact, cs, field => cs = field
  | contains, cs, field => cs <:+: field
  | start, cs, field => cs <+: field
  | finish, cs, field => cs <:+ field

theorem accepts_iff :
    mode.accepts field needle = true ↔ mode.Relates needle.toList field.toList := by
  cases mode with
  | exact => exact beq_iff_eq.trans (eq_comm.trans String.toList_inj.symm)
  | contains => exact contains_iff
  | start => exact startsWith_iff
  | finish => exact endsWith_iff

/-- The text has a sigma at an end that the mode leaves open. -/
def HasOpenSigma : MatchMode → List Char → Prop
  | exact, _ => False
  | contains, cs => EndsInSigma cs ∨ BeginsInSigma cs
  | start, cs => EndsInSigma cs
  | finish, cs => BeginsInSigma cs

theorem HasOpenSigma.mem (h : mode.HasOpenSigma cs) : 'Σ' ∈ cs := by
  cases mode with
  | exact => exact h.elim
  | contains => exact h.elim EndsInSigma.mem BeginsInSigma.mem
  | start => exact EndsInSigma.mem h
  | finish => exact BeginsInSigma.mem h

theorem relates_lowerFrom (h : mode.Relates cs cs') (hopen : ¬ mode.HasOpenSigma cs) :
    mode.Relates (lowerFrom [] cs) (lowerFrom [] cs') := by
  cases mode with
  | exact => exact congrArg (lowerFrom []) h
  | contains =>
      obtain ⟨before, after, rfl⟩ := h
      exact lowerFrom_isInfix (fun h => hopen (.inl h.1)) (fun h => hopen (.inr h.1))
  | start =>
      obtain ⟨after, rfl⟩ := h
      exact (lowerFrom_prefix_iff ..).2 fun h => hopen h.1
  | finish =>
      obtain ⟨before, rfl⟩ := h
      exact (lowerFrom_suffix_iff ..).2 fun h => hopen h.1

theorem exists_lost (hopen : mode.HasOpenSigma cs) :
    ∃ cs', mode.Relates cs cs' ∧ ¬ mode.Relates (lowerFrom [] cs) (lowerFrom [] cs') := by
  cases mode with
  | exact => exact hopen.elim
  | contains =>
      rcases hopen with hends | hbegins
      · obtain ⟨after, hlost⟩ := hends.exists_not_isInfix
        exact ⟨cs ++ after, (List.prefix_append ..).isInfix, hlost⟩
      · obtain ⟨before, hlost⟩ := hbegins.exists_not_isInfix
        exact ⟨before ++ cs, (List.suffix_append ..).isInfix, hlost⟩
  | start =>
      obtain ⟨after, hlost⟩ := EndsInSigma.exists_not_isInfix hopen
      exact ⟨cs ++ after, List.prefix_append .., fun h => hlost h.isInfix⟩
  | finish =>
      obtain ⟨before, hlost⟩ := BeginsInSigma.exists_not_isInfix hopen
      exact ⟨before ++ cs, List.suffix_append .., fun h => hlost h.isInfix⟩

end MatchMode

namespace Condition

variable {v : Value} {field needle : String} {mode : MatchMode} {o : Operand}

/-! ## Matches of texts -/

theorem matchText_iff : matchText field needle mode false = true ↔
    mode.Relates needle.toList field.toList := MatchMode.accepts_iff

theorem matchText_ignoreCase_iff : matchText field needle mode true = true ↔
    mode.Relates (lowerFrom [] needle.toList) (lowerFrom [] field.toList) := by
  rw [← toList_lowercase, ← toList_lowercase]
  exact MatchMode.accepts_iff

theorem test_text_iff {ignoreCase : Bool} : (text needle mode ignoreCase).test v = true ↔
    ∃ s, v.deref = some (.string s) ∧ matchText s needle mode ignoreCase = true := by
  change v.deref.any (text needle mode ignoreCase).testConcrete = true ↔ _
  rw [Option.any_eq_true]
  constructor
  · rintro ⟨w, hw, htest⟩
    cases w with
    | string s => exact ⟨s, hw, htest⟩
    | _ => cases htest
  · rintro ⟨s, hs, hmatch⟩
    exact ⟨.string s, hs, hmatch⟩

theorem test_text_string (field needle : String) (mode : MatchMode) (ignoreCase : Bool) :
    (text needle mode ignoreCase).test (.string field) = matchText field needle mode ignoreCase :=
  rfl

/-- The matches of a text are kept in all fields exactly if the text has no sigma at an open end. -/
theorem text_kept_iff (needle : String) (mode : MatchMode) :
    (∀ v, (text needle mode false).test v = true → (text needle mode true).test v = true) ↔
      ¬ mode.HasOpenSigma needle.toList := by
  constructor
  · intro hkept hopen
    obtain ⟨cs, hmatch, hlost⟩ := MatchMode.exists_lost hopen
    have hfound : (text needle mode false).test (.string (.ofList cs)) = true := by
      rw [test_text_string, matchText_iff, String.toList_ofList]
      exact hmatch
    have hstill := hkept _ hfound
    rw [test_text_string, matchText_ignoreCase_iff, String.toList_ofList] at hstill
    exact hlost hstill
  · intro hopen v htest
    obtain ⟨s, hs, hmatch⟩ := test_text_iff.1 htest
    have hrel := MatchMode.relates_lowerFrom (matchText_iff.1 hmatch) hopen
    exact test_text_iff.2 ⟨s, hs, matchText_ignoreCase_iff.2 hrel⟩

/-- A beginning of a field is lost exactly if it ends in a sigma and a character with a case
follows. -/
theorem test_start_ignoreCase_iff (needle rest : String) :
    (text needle .start true).test (.string (needle ++ rest)) = true ↔
      ¬ (EndsInSigma needle.toList ∧ casedAhead rest.toList = true) := by
  rw [test_text_string, matchText_ignoreCase_iff, String.toList_append]
  exact lowerFrom_prefix_iff ..

theorem test_finish_ignoreCase_iff (before needle : String) :
    (text needle .finish true).test (.string (before ++ needle)) = true ↔
      ¬ (BeginsInSigma needle.toList ∧ casedAhead before.toList.reverse = true) := by
  rw [test_text_string, matchText_ignoreCase_iff, String.toList_append]
  exact lowerFrom_suffix_iff ..

theorem test_ignoreCase_of_sigma_not_mem (h : 'Σ' ∉ needle.toList)
    (htest : (text needle mode false).test v = true) : (text needle mode true).test v = true :=
  (text_kept_iff needle mode).2 (fun hopen => h hopen.mem) v htest

/-! ## Elements of sequences -/

theorem elementEquals_ignoreCase {item : Value} (h : elementEquals item o false = true) :
    elementEquals item o true = true := by
  have hequal : isEqual item o = true := by
    rwa [elementEquals_eq_isEqual fun _ hs => Bool.noConfusion hs.2] at h
  cases o with
  | string t => exact elementEquals_ignoreCase_iff.2 (.inr hequal)
  | _ => rwa [elementEquals_eq_isEqual fun _ hs => Operand.noConfusion hs.1]

theorem hasElement_kept (o : Operand) (v : Value) (htest : (hasElement o false).test v = true) :
    (hasElement o true).test v = true := by
  obtain ⟨items, hitems, item, hitem, hequal⟩ := test_hasElement_iff.1 htest
  exact test_hasElement_iff.2 ⟨items, hitems, item, hitem, elementEquals_ignoreCase hequal⟩

/-- Ignoring letter case keeps the matches of a text in all fields exactly if the text has no sigma
at an end that the mode leaves open, in one field at its start or its end exactly if no character
with a case meets such a sigma there, and the elements of sequences always. -/
theorem ignoringCase_keeps (needle : String) (mode : MatchMode) (o : Operand) :
    ((∀ v, (text needle mode false).test v = true → (text needle mode true).test v = true) ↔
      ¬ mode.HasOpenSigma needle.toList) ∧
    (∀ rest, (text needle .start true).test (.string (needle ++ rest)) = true ↔
      ¬ (EndsInSigma needle.toList ∧ casedAhead rest.toList = true)) ∧
    (∀ before, (text needle .finish true).test (.string (before ++ needle)) = true ↔
      ¬ (BeginsInSigma needle.toList ∧ casedAhead before.toList.reverse = true)) ∧
    ∀ v, (hasElement o false).test v = true → (hasElement o true).test v = true :=
  ⟨text_kept_iff needle mode, test_start_ignoreCase_iff needle,
    fun before => test_finish_ignoreCase_iff before needle, hasElement_kept o⟩

/-- Without letter case, `ΑΣ` is no beginning and no part of `ΑΣΑ`, and `Σ` is no end of `ΑΣ`. -/
theorem text_lost_at_sigma :
    (text "ΑΣ" .start false).test (.string "ΑΣΑ") = true ∧
    (text "ΑΣ" .start true).test (.string "ΑΣΑ") = false ∧
    (text "ΑΣ" .contains false).test (.string "ΑΣΑ") = true ∧
    (text "ΑΣ" .contains true).test (.string "ΑΣΑ") = false ∧
    (text "Σ" .finish false).test (.string "ΑΣ") = true ∧
    (text "Σ" .finish true).test (.string "ΑΣ") = false := by
  decide +kernel

end Condition

end RecordQuery
