import RecordQuery.Proofs.Predicates.Places

/-!
# The tests that a predicate asks

Evaluating a predicate asks tests of the caller's own, from left to right, in whatever way the
caller answers (`evaluate`). Written down as they are asked, they are the tests `invoked`, next to
the answer `holds` (`evaluate_logged`). They are some of the tests in the tree, in their order
(`invoked_sublist_tests`), from the children up to the first one that settles the answer
(`invokedInAll_eq`, `invokedInAny_eq`). The laws of combinations keep both the answer and the tests
(`predicate_laws`).
-/

namespace RecordQuery.Predicate

/-! ## Evaluation -/

section Evaluation

variable {m : Type → Type} [Monad m] (ask : CustomTest → m Bool) (r : Record)

mutual

/-- The answer for a record when tests of the caller's own are asked by `ask`. -/
def evaluate : Predicate → m Bool
  | field c => pure (c.holds r)
  | geo c => pure (c.holds r)
  | all ps => evaluateAll ps
  | any ps => evaluateAny ps
  | not p => do return !(← p.evaluate)
  | custom t => ask t

def evaluateAll : List Predicate → m Bool
  | [] => pure true
  | p :: ps => do if ← p.evaluate then evaluateAll ps else return false

def evaluateAny : List Predicate → m Bool
  | [] => pure false
  | p :: ps => do if ← p.evaluate then return true else evaluateAny ps

end

end Evaluation

/-- Asks a test about a record and writes it down. -/
def logged (r : Record) (t : CustomTest) : StateM (List CustomTest) Bool := do
  modify (· ++ [t])
  return t.passes r

variable (r : Record)

mutual

/-- Evaluation gives the answer `holds` and writes down the tests `invoked`. -/
theorem evaluate_logged : ∀ (p : Predicate) (log : List CustomTest),
    (p.evaluate (logged r) r).run log = (p.holds r, log ++ p.invoked r)
  | field c, log => by rw [invoked, List.append_nil]; rfl
  | geo c, log => by rw [invoked, List.append_nil]; rfl
  | all ps, log => by rw [evaluate, evaluateAll_logged ps log, holds, invoked]
  | any ps, log => by rw [evaluate, evaluateAny_logged ps log, holds, invoked]
  | not p, log => by
      rw [evaluate, StateT.run_bind, evaluate_logged p log, holds, invoked]
      rfl
  | custom t, log => rfl

theorem evaluateAll_logged : ∀ (ps : List Predicate) (log : List CustomTest),
    (evaluateAll (logged r) r ps).run log = (allHold r ps, log ++ invokedInAll r ps)
  | [], log => by rw [invokedInAll, List.append_nil]; rfl
  | p :: ps, log => by
      rw [evaluateAll, StateT.run_bind, evaluate_logged p log, allHold, invokedInAll]
      cases p.holds r with
      | true =>
          show (evaluateAll (logged r) r ps).run (log ++ p.invoked r) = _
          rw [evaluateAll_logged ps, List.append_assoc]
          rfl
      | false =>
          show (false, log ++ p.invoked r) = (false, log ++ (p.invoked r ++ []))
          rw [List.append_nil]

theorem evaluateAny_logged : ∀ (ps : List Predicate) (log : List CustomTest),
    (evaluateAny (logged r) r ps).run log = (anyHolds r ps, log ++ invokedInAny r ps)
  | [], log => by rw [invokedInAny, List.append_nil]; rfl
  | p :: ps, log => by
      rw [evaluateAny, StateT.run_bind, evaluate_logged p log, anyHolds, invokedInAny]
      cases p.holds r with
      | true =>
          show (true, log ++ p.invoked r) = (true, log ++ (p.invoked r ++ []))
          rw [List.append_nil]
      | false =>
          show (evaluateAny (logged r) r ps).run (log ++ p.invoked r) = _
          rw [evaluateAny_logged ps, List.append_assoc]
          rfl

end

/-! ## Tests in the tree -/

mutual

def tests : Predicate → List CustomTest
  | field _ => []
  | geo _ => []
  | all ps => testsOf ps
  | any ps => testsOf ps
  | not p => p.tests
  | custom t => [t]

def testsOf : List Predicate → List CustomTest
  | [] => []
  | p :: ps => p.tests ++ testsOf ps

end

mutual

theorem invoked_sublist_tests : ∀ p : Predicate, (p.invoked r).Sublist p.tests
  | field _ | geo _ | custom _ => .refl _
  | all ps => by
      rw [invoked, tests]
      exact invokedInAll_sublist_testsOf ps
  | any ps => by
      rw [invoked, tests]
      exact invokedInAny_sublist_testsOf ps
  | not p => by
      rw [invoked, tests]
      exact invoked_sublist_tests p

theorem invokedInAll_sublist_testsOf : ∀ ps : List Predicate,
    (invokedInAll r ps).Sublist (testsOf ps)
  | [] => .refl _
  | p :: ps => by
      rw [invokedInAll, testsOf]
      refine (invoked_sublist_tests p).append ?_
      split
      · exact invokedInAll_sublist_testsOf ps
      · exact List.nil_sublist _

theorem invokedInAny_sublist_testsOf : ∀ ps : List Predicate,
    (invokedInAny r ps).Sublist (testsOf ps)
  | [] => .refl _
  | p :: ps => by
      rw [invokedInAny, testsOf]
      refine (invoked_sublist_tests p).append ?_
      split
      · exact List.nil_sublist _
      · exact invokedInAny_sublist_testsOf ps

end

section WithoutTests

variable {m : Type → Type} [Monad m] [LawfulMonad m] (ask : CustomTest → m Bool)

mutual

theorem evaluate_of_tests_eq_nil : ∀ {p : Predicate}, p.tests = [] →
    p.evaluate ask r = pure (p.holds r)
  | field _, _ | geo _, _ => rfl
  | all ps, h => by
      rw [tests] at h
      rw [evaluate, holds, evaluateAll_of_testsOf_eq_nil h]
  | any ps, h => by
      rw [tests] at h
      rw [evaluate, holds, evaluateAny_of_testsOf_eq_nil h]
  | not p, h => by
      rw [tests] at h
      rw [evaluate, evaluate_of_tests_eq_nil h, pure_bind, holds]
  | custom t, h => by cases h

theorem evaluateAll_of_testsOf_eq_nil : ∀ {ps : List Predicate}, testsOf ps = [] →
    evaluateAll ask r ps = pure (allHold r ps)
  | [], _ => rfl
  | p :: ps, h => by
      rw [testsOf, List.append_eq_nil_iff] at h
      rw [evaluateAll, evaluate_of_tests_eq_nil h.1, pure_bind, allHold]
      cases p.holds r with
      | true => exact evaluateAll_of_testsOf_eq_nil h.2
      | false => rfl

theorem evaluateAny_of_testsOf_eq_nil : ∀ {ps : List Predicate}, testsOf ps = [] →
    evaluateAny ask r ps = pure (anyHolds r ps)
  | [], _ => rfl
  | p :: ps, h => by
      rw [testsOf, List.append_eq_nil_iff] at h
      rw [evaluateAny, evaluate_of_tests_eq_nil h.1, pure_bind, anyHolds]
      cases p.holds r with
      | true => rfl
      | false => exact evaluateAny_of_testsOf_eq_nil h.2

end

end WithoutTests

/-! ## Where asking stops -/

/-- The children before the first one with an answer, and that one. -/
def upTo (answer : Bool) (ps : List Predicate) : List Predicate :=
  ps.takeWhile (·.holds r != answer) ++ (ps.dropWhile (·.holds r != answer)).take 1

variable {r} {p : Predicate} {ps : List Predicate} {answer : Bool}

theorem upTo_cons_of_eq (h : p.holds r = answer) : upTo r answer (p :: ps) = [p] := by
  have hstop : (p.holds r != answer) = false := by rw [h, bne_self_eq_false]
  unfold upTo
  rw [List.takeWhile_cons, List.dropWhile_cons, hstop]
  rfl

theorem upTo_cons_of_ne (h : p.holds r ≠ answer) :
    upTo r answer (p :: ps) = p :: upTo r answer ps := by
  have hgo : (p.holds r != answer) = true := bne_iff_ne.2 h
  unfold upTo
  rw [List.takeWhile_cons, List.dropWhile_cons, hgo]
  rfl

theorem invokedInAll_eq (r : Record) : ∀ ps : List Predicate,
    invokedInAll r ps = (upTo r false ps).flatMap (·.invoked r)
  | [] => rfl
  | p :: ps => by
      rw [invokedInAll]
      by_cases h : p.holds r = true
      · rw [if_pos h, invokedInAll_eq r ps, upTo_cons_of_ne (by rw [h]; decide), List.flatMap_cons]
      · rw [if_neg h, upTo_cons_of_eq (Bool.eq_false_iff.2 h), List.flatMap_singleton,
          List.append_nil]

theorem invokedInAny_eq (r : Record) : ∀ ps : List Predicate,
    invokedInAny r ps = (upTo r true ps).flatMap (·.invoked r)
  | [] => rfl
  | p :: ps => by
      rw [invokedInAny]
      by_cases h : p.holds r = true
      · rw [if_pos h, upTo_cons_of_eq h, List.flatMap_singleton, List.append_nil]
      · rw [if_neg h, invokedInAny_eq r ps, upTo_cons_of_ne h, List.flatMap_cons]

/-! ## Negations of combinations -/

/-- On every record both have the same answer and ask the same tests in the same order. -/
def SameRun (p q : Predicate) : Prop := ∀ r, p.holds r = q.holds r ∧ p.invoked r = q.invoked r

theorem anyHolds_map_not (r : Record) : ∀ ps : List Predicate,
    anyHolds r (ps.map not) = !allHold r ps ∧
      invokedInAny r (ps.map not) = invokedInAll r ps
  | [] => ⟨rfl, rfl⟩
  | p :: ps => by
      obtain ⟨hholds, hinvoked⟩ := anyHolds_map_not r ps
      rw [List.map_cons, anyHolds, invokedInAny, allHold, invokedInAll, hholds, hinvoked, holds,
        invoked]
      cases p.holds r <;> exact ⟨rfl, rfl⟩

theorem allHold_map_not (r : Record) : ∀ ps : List Predicate,
    allHold r (ps.map not) = !anyHolds r ps ∧
      invokedInAll r (ps.map not) = invokedInAny r ps
  | [] => ⟨rfl, rfl⟩
  | p :: ps => by
      obtain ⟨hholds, hinvoked⟩ := allHold_map_not r ps
      rw [List.map_cons, allHold, invokedInAll, anyHolds, invokedInAny, hholds, hinvoked, holds,
        invoked]
      cases p.holds r <;> exact ⟨rfl, rfl⟩

theorem not_all_sameRun (ps : List Predicate) : (not (all ps)).SameRun (any (ps.map not)) := by
  intro r
  obtain ⟨hholds, hinvoked⟩ := anyHolds_map_not r ps
  rw [holds, holds, holds, invoked, invoked, invoked, hholds, hinvoked]
  exact ⟨rfl, rfl⟩

theorem not_any_sameRun (ps : List Predicate) : (not (any ps)).SameRun (all (ps.map not)) := by
  intro r
  obtain ⟨hholds, hinvoked⟩ := allHold_map_not r ps
  rw [holds, holds, holds, invoked, invoked, invoked, hholds, hinvoked]
  exact ⟨rfl, rfl⟩

/-! ## The laws -/

/-- A negation picks the complement, a conjunction filters by its children in turn and a
disjunction picks the union, all in the order of the list; the clones of the records, their count
and their presence go by the places. Negations move into combinations without a change of the answer
or of the tests asked. One evaluation gives the answer and asks tests of the tree in their order,
and no child after the first one that settles a combination is asked anything. -/
theorem predicate_laws :
    (∀ (p : Predicate) (records : List Record),
      (not p).places records =
        (List.range records.length).filter (fun i => i ∉ p.places records) ∧
      p.filter records = (p.places records).filterMap (records[·]?) ∧
      p.count records = (p.places records).length ∧
      p.anyMatch records = !(p.places records).isEmpty) ∧
    (∀ (ps : List Predicate) (records : List Record),
      (all ps).places records = (ps.foldl (fun items p => p.filterBy (·.1) items)
        records.zipIdx).map (·.2) ∧
      (any ps).places records =
        (List.range records.length).filter fun i => ∃ p ∈ ps, i ∈ p.places records) ∧
    (∀ ps : List Predicate, (not (all ps)).SameRun (any (ps.map not)) ∧
      (not (any ps)).SameRun (all (ps.map not))) ∧
    (∀ (p : Predicate) (r : Record) (log : List CustomTest),
      (p.evaluate (logged r) r).run log = (p.holds r, log ++ p.invoked r) ∧
      (p.invoked r).Sublist p.tests) ∧
    (∀ (ps : List Predicate) (r : Record),
      (all ps).invoked r = (upTo r false ps).flatMap (·.invoked r) ∧
      (any ps).invoked r = (upTo r true ps).flatMap (·.invoked r)) := by
  refine ⟨fun p records => ⟨places_not p records, filter_eq_filterMap_places p records,
      count_eq_length_places p records, anyMatch_eq p records⟩,
    fun ps records => ⟨?_, places_any ps records⟩,
    fun ps => ⟨not_all_sameRun ps, not_any_sameRun ps⟩,
    fun p r log => ⟨evaluate_logged r p log, invoked_sublist_tests r p⟩, fun ps r => ⟨?_, ?_⟩⟩
  · rw [places, filterBy_all]
  · rw [invoked, invokedInAll_eq]
  · rw [invoked, invokedInAny_eq]

end RecordQuery.Predicate
