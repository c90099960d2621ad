import RecordQuery.Comparison
import RecordQuery.Operator
import RecordQuery.Regex.Basic
import RecordQuery.Text.Basic
import RecordQuery.Text.Case

/-!
# Conditions

A condition tests the value of one field. A test never fails: a value of the wrong kind, a null or
an operand that does not compare makes it false. Tests for null and for zero look at the value as it
is stored, all others look under optionals first.
-/

namespace RecordQuery

inductive MatchMode where
  | exact
  | contains
  | start
  | finish
deriving DecidableEq

namespace MatchMode

def standard : MatchMode := exact

def accepts : MatchMode → String → String → Bool
  | exact, field, needle => field == needle
  | contains, field, needle => Text.contains field needle
  | start, field, needle => Text.startsWith field needle
  | finish, field, needle => Text.endsWith field needle

end MatchMode

inductive Condition where
  | compare (op : Operator) (o : Operand)
  | isIn (os : List Operand)
  /-- A part of a text, or an element of a sequence. -/
  | contains (o : Operand)
  | text (needle : String) (mode : MatchMode) (ignoreCase : Bool)
  /-- A search; a pattern that could not be read never matches. -/
  | regex (r : Option Regex)
  | isNull
  | isNotNull
  | isZero
  | isNotZero
  /-- Strictly earlier, for instants and dates in text. -/
  | before (bound : Instant)
  | after (bound : Instant)
  | hasElement (o : Operand) (ignoreCase : Bool)
  | hasAnyElement (os : List Operand)
  | hasAllElements (os : List Operand)
  | anyElement (test : Value → Bool)
  /-- There is an element, and all pass a test. -/
  | allElements (test : Value → Bool)
  | hasKey (key : Operand)
  | hasValue (o : Operand)
  | hasEntry (key o : Operand)
  | hasAllEntries (entries : List (Operand × Operand))
  | hasAnyEntry (entries : List (Operand × Operand))
  | sizeIs (n : Nat)
  | sizeAbove (n : Nat)
  | sizeBelow (n : Nat)

namespace Condition

def search (pattern : String) : Condition := regex (Regex.ofPattern? pattern)

/-- The value and the operand are comparable and equal. -/
def isEqual (v : Value) (o : Operand) : Bool := v.equals o.toValue == some true

/-- A match of texts. Without letter case both are taken in their lower-case form. -/
def matchText (field needle : String) (mode : MatchMode) (ignoreCase : Bool) : Bool :=
  if ignoreCase then mode.accepts (Text.lowercase field) (Text.lowercase needle)
  else mode.accepts field needle

/-- The instant that a value is, or that it writes as a date. -/
def instant? : Value → Option Instant
  | .timestamp t => some t
  | .string s => Calendar.readDate s
  | _ => none

/-- An element equals an operand; texts can be compared without letter case. -/
def elementEquals (item : Value) (o : Operand) (ignoreCase : Bool) : Bool :=
  match ignoreCase, item, o with
  | true, .string s, .string t => Text.lowercase s == Text.lowercase t
  | _, _, _ => isEqual item o

def entryMatches (entries : List (Value × Value)) (key o : Operand) : Bool :=
  (Value.lookup entries key.toValue).any (isEqual · o)

/-- The condition on a value that is no optional, for conditions that look under optionals. -/
def testConcrete (c : Condition) (v : Value) : Bool :=
  match c, v with
  | contains (.string needle), .string s => Text.contains s needle
  | contains o, .sequence items => items.any (isEqual · o)
  | text needle mode ignoreCase, .string s => matchText s needle mode ignoreCase
  | regex (some r), .string s => r.isMatch s
  | before bound, v => (instant? v).any fun t => t.compare bound == .lt
  | after bound, v => (instant? v).any fun t => t.compare bound == .gt
  | hasElement o ignoreCase, .sequence items => items.any (elementEquals · o ignoreCase)
  | hasAnyElement os, .sequence items => os.any fun o => items.any (isEqual · o)
  | hasAllElements os, .sequence items => os.all fun o => items.any (isEqual · o)
  | anyElement test, .sequence items => items.any test
  | allElements test, .sequence items => !items.isEmpty && items.all test
  | hasKey key, .mapping entries => (Value.lookup entries key.toValue).isSome
  | hasValue o, .mapping entries => entries.any fun (_, v) => isEqual v o
  | hasEntry key o, .mapping entries => entryMatches entries key o
  | hasAllEntries pairs, .mapping entries => pairs.all fun (k, o) => entryMatches entries k o
  | hasAnyEntry pairs, .mapping entries => pairs.any fun (k, o) => entryMatches entries k o
  | sizeIs n, .mapping entries => entries.length == n
  | sizeAbove n, .mapping entries => n < entries.length
  | sizeBelow n, .mapping entries => entries.length < n
  | _, _ => false

def test (c : Condition) (v : Value) : Bool :=
  match c with
  | isNull => v.isNull
  | isNotNull => !v.isNull
  | isZero => v.isZero
  | isNotZero => !v.isZero
  | compare .eq o => v.equals o.toValue == some true
  | compare .ne o => v.equals o.toValue == some false
  | compare op o => (v.compare o.toValue).any op.accepts
  | isIn os => os.any (isEqual v)
  | c => v.deref.any c.testConcrete

end Condition

end RecordQuery
