import RecordQuery.Condition
import RecordQuery.Geo

/-!
# Predicates

A predicate is a yes-or-no question about a record: a condition on a field, a test of its position,
a test of the caller's own, or a combination of predicates. A path that leads nowhere makes the
condition false. Combinations are evaluated from left to right and stop as soon as the answer is
known; `invoked` lists the caller's tests that are asked on the way.
-/

namespace RecordQuery

structure Clause where
  path : FieldPath
  condition : Condition

def Clause.holds (c : Clause) (r : Record) : Bool :=
  match r.resolve c.path with
  | .error _ => false
  | .ok v => c.condition.test v

theorem Clause.holds_iff {c : Clause} {r : Record} :
    c.holds r = true ↔ ∃ v, r.resolve c.path = .ok v ∧ c.condition.test v = true := by
  unfold Clause.holds
  cases r.resolve c.path <;> simp

/-- A test of the caller's own, with a label to tell it from others. -/
structure CustomTest where
  label : Nat
  passes : Record → Bool

inductive Predicate where
  | field (c : Clause)
  | geo (c : Geo.Clause)
  /-- All match; no predicate at all is true. -/
  | all (ps : List Predicate)
  /-- Some match; no predicate at all is false. -/
  | any (ps : List Predicate)
  | not (p : Predicate)
  | custom (t : CustomTest)

namespace Predicate

/-! ## Evaluation -/

mutual

def holds (r : Record) : Predicate → Bool
  | field c => c.holds r
  | geo c => c.holds r
  | all ps => allHold r ps
  | any ps => anyHolds r ps
  | not p => !p.holds r
  | custom t => t.passes r

def allHold (r : Record) : List Predicate → Bool
  | [] => true
  | p :: ps => p.holds r && allHold r ps

def anyHolds (r : Record) : List Predicate → Bool
  | [] => false
  | p :: ps => p.holds r || anyHolds r ps

end

mutual

/-- The caller's tests that are asked about a record, in order. -/
def invoked (r : Record) : Predicate → List CustomTest
  | field _ => []
  | geo _ => []
  | all ps => invokedInAll r ps
  | any ps => invokedInAny r ps
  | not p => p.invoked r
  | custom t => [t]

/-- After a predicate that does not match no other is asked. -/
def invokedInAll (r : Record) : List Predicate → List CustomTest
  | [] => []
  | p :: ps => p.invoked r ++ if p.holds r then invokedInAll r ps else []

def invokedInAny (r : Record) : List Predicate → List CustomTest
  | [] => []
  | p :: ps => p.invoked r ++ if p.holds r then [] else invokedInAny r ps

end

theorem allHold_eq_all (r : Record) : ∀ ps : List Predicate,
    allHold r ps = ps.all (·.holds r)
  | [] => rfl
  | p :: ps => by rw [allHold, allHold_eq_all r ps, List.all_cons]

theorem anyHolds_eq_any (r : Record) : ∀ ps : List Predicate,
    anyHolds r ps = ps.any (·.holds r)
  | [] => rfl
  | p :: ps => by rw [anyHolds, anyHolds_eq_any r ps, List.any_cons]

theorem holds_all_iff {r : Record} {ps : List Predicate} :
    (all ps).holds r = true ↔ ∀ p ∈ ps, p.holds r = true := by
  rw [holds, allHold_eq_all, List.all_eq_true]

theorem holds_any_iff {r : Record} {ps : List Predicate} :
    (any ps).holds r = true ↔ ∃ p ∈ ps, p.holds r = true := by
  rw [holds, anyHolds_eq_any, List.any_eq_true]

/-- Filtering by reference: the items stand for the places of their records (`places`), which tell
equal records apart. -/
def filterBy {α : Type} (p : Predicate) (record : α → Record) (items : List α) : List α :=
  items.filter fun item => p.holds (record item)

/-- Filtering with clones: copies of the records that match, without their places. -/
def filter (p : Predicate) (records : List Record) : List Record := records.filter (p.holds ·)

def count (p : Predicate) (records : List Record) : Nat := records.countP (p.holds ·)

def anyMatch (p : Predicate) (records : List Record) : Bool := records.any (p.holds ·)

/-! ## Construction -/

def onField (path : FieldPath) (c : Condition) : Predicate := field ⟨path, c⟩

def compare (path : FieldPath) (op : Operator) (o : Operand) : Predicate :=
  onField path (.compare op o)

def isIn (path : FieldPath) (os : List Operand) : Predicate := onField path (.isIn os)

/-- Both ends belong to the range. -/
def between (path : FieldPath) (least greatest : Operand) : Predicate :=
  all [compare path .gte least, compare path .lte greatest]

def contains (path : FieldPath) (o : Operand) : Predicate := onField path (.contains o)

def withinRadius (c : Geo.Coordinates) (center : Geo.Point) (km : Binary .double) : Predicate :=
  geo ⟨c, .circle center km⟩

def outsideRadius (c : Geo.Coordinates) (center : Geo.Point) (km : Binary .double) : Predicate :=
  not (withinRadius c center km)

def withinBox (c : Geo.Coordinates) (b : Geo.Box) : Predicate := geo ⟨c, .box b⟩

/-- Why a range of dates cannot be widened: the calendar ends. -/
inductive WindowError where
  | beforeFirst
  | afterLast
deriving DecidableEq

def WindowError.message : WindowError → String
  | beforeFirst => "`DateTime - TimeDelta` overflowed"
  | afterLast => "`DateTime + TimeDelta` overflowed"

/-- Between two instants, with one more second on either side. -/
def dateBetween (path : FieldPath) (start finish : Instant) : Except WindowError Predicate :=
  match start.addSeconds? (-1), finish.addSeconds? 1 with
  | none, _ => .error .beforeFirst
  | some _, none => .error .afterLast
  | some lower, some upper =>
    .ok (all [onField path (.after lower), onField path (.before upper)])

end Predicate

end RecordQuery
