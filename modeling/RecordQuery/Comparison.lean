import RecordQuery.Calendar.Layout
import RecordQuery.Text.Basic
import RecordQuery.Value

/-!
# Comparing values

The order and the equality that all conditions and the sort share. Both look under optionals, and
both are undefined (`none`) for values that cannot be compared. Texts are ordered by their bytes,
numbers by value, falsehood comes before truth, instants go by time, and a text next to an instant
is read as a date. Sequences are equal element by element, and mappings when each entry of one is
found with an equal value in the other.
-/

namespace RecordQuery

def compareBools : Bool → Bool → Ordering
  | false, true => .lt
  | true, false => .gt
  | _, _ => .eq

namespace Value

def compareConcrete : Value → Value → Option Ordering
  | string s, string t => some (Text.compareBytes s t)
  | number m, number n => m.compare n
  | bool a, bool b => some (compareBools a b)
  | timestamp s, timestamp t => some (s.compare t)
  | timestamp s, string t => (Calendar.readDate t).map s.compare
  | string s, timestamp t => (Calendar.readDate s).map (·.compare t)
  | _, _ => none

/-- The order of two values. A null compares with nothing. -/
def compare (a b : Value) : Option Ordering :=
  a.deref.bind fun x => b.deref.bind fun y => x.compareConcrete y

mutual

/-- The equality of two values. Two nulls are equal; a null and something present do not compare. -/
def equals (a b : Value) : Option Bool :=
  match _ha : a.deref, _hb : b.deref with
  | none, none => some true
  | none, some _ => none
  | some _, none => none
  | some (.sequence xs), some (.sequence ys) =>
    if xs.length = ys.length then equalItems xs ys else some false
  | some (.mapping xs), some (.mapping ys) =>
    if xs.length = ys.length then equalEntries xs ys else some false
  | some x, some y => (x.compareConcrete y).map (· == .eq)
termination_by sizeOf a + sizeOf b
decreasing_by
  all_goals
    have h₁ := sizeOf_deref_le _ha
    have h₂ := sizeOf_deref_le _hb
    simp only [sequence.sizeOf_spec, mapping.sizeOf_spec] at h₁ h₂
    omega

/-- Pairwise equality, up to the first pair that differs or does not compare. -/
def equalItems : List Value → List Value → Option Bool
  | x :: xs, y :: ys =>
    match equals x y with
    | some true => equalItems xs ys
    | r => r
  | _, _ => some true
termination_by xs ys => sizeOf xs + sizeOf ys

/-- Each entry is found in the other mapping with an equal value, up to the first that is not. -/
def equalEntries : List (Value × Value) → List (Value × Value) → Option Bool
  | [], _ => some true
  | (k, v) :: xs, ys =>
    match equalEntry ys k v with
    | some true => equalEntries xs ys
    | r => r
termination_by xs ys => sizeOf xs + sizeOf ys

/-- The first entry under an equal key has an equal value. -/
def equalEntry : List (Value × Value) → Value → Value → Option Bool
  | [], _, _ => some false
  | (k', v') :: ys, k, v =>
    if equals k' k = some true then equals v v' else equalEntry ys k v
termination_by ys k v => sizeOf ys + sizeOf k + sizeOf v

end

/-- The value under the first key that equals `key`. -/
def lookup (entries : List (Value × Value)) (key : Value) : Option Value :=
  (entries.find? fun (k, _) => equals k key == some true).map (·.2)

theorem equalEntry_eq_lookup (k v : Value) : ∀ ys : List (Value × Value),
    equalEntry ys k v = match lookup ys k with
      | none => some false
      | some w => equals v w
  | [] => by simp [equalEntry, lookup]
  | (k', v') :: ys => by
      rw [equalEntry, equalEntry_eq_lookup k v ys]
      by_cases h : equals k' k = some true <;> simp [lookup, h]

end Value

end RecordQuery
