import RecordQuery.Text.Category

/-!
# Searching

A search expression is a tree of character sets, tests of a place, rows, choices and repetitions. An
expression carries a set of places in a text to the set of places where a match from one of them can
end (`reach`), and a text matches when some place can be reached from some place (`occursIn`).

A text of `n` characters has `n + 1` places. Sets of places are lists of truth values, one a place.
-/

namespace RecordQuery.Regex

/-- Tests of a place between two characters, or at an end of the text. -/
inductive Look where
  | start
  | stop
  | lineStart
  | lineEnd
  /-- Starts of lines, a carriage return and a line feed counting as one end. -/
  | anyLineStart
  | anyLineEnd
  | boundary (unicode : Bool)
  | notBoundary (unicode : Bool)
  | wordStart (unicode : Bool)
  | wordEnd (unicode : Bool)
  | wordStartHalf (unicode : Bool)
  | wordEndHalf (unicode : Bool)

namespace Look

def isWord (unicode : Bool) (c : Option Char) : Bool :=
  c.any fun c => if unicode then Text.isWordChar c else c.isAlphanum || c == '_'

def holds (l : Look) (before after : Option Char) : Bool :=
  match l with
  | start => before.isNone
  | stop => after.isNone
  | lineStart => before.all (· == '\n')
  | lineEnd => after.all (· == '\n')
  | anyLineStart => before.all fun c => c == '\n' || (c == '\r' && after != some '\n')
  | anyLineEnd => after.all fun c => c == '\r' || (c == '\n' && before != some '\r')
  | boundary u => isWord u before != isWord u after
  | notBoundary u => isWord u before == isWord u after
  | wordStart u => !isWord u before && isWord u after
  | wordEnd u => isWord u before && !isWord u after
  | wordStartHalf u => !isWord u before
  | wordEndHalf u => !isWord u after

end Look

inductive Expr where
  | empty
  | set (s : Text.CharSet)
  | look (l : Look)
  | row (a b : Expr)
  | choice (a b : Expr)
  | repetition (least : Nat) (most : Option Nat) (a : Expr)

/-- A set of places of a text. -/
abbrev Places := List Bool

namespace Places

def union (a b : Places) : Places := List.zipWith (· || ·) a b

/-- The places one character on, past a character of the set. -/
def advance (s : Text.CharSet) (text : List Char) (places : Places) : Places :=
  false :: List.zipWith (fun p c => p && s c) places text

def keep (l : Look) : Option Char → List Char → Places → Places
  | _, _, [] => []
  | before, [], p :: _ => [p && l.holds before none]
  | before, c :: cs, p :: places => (p && l.holds before (some c)) :: keep l (some c) cs places

def iterate (f : Places → Places) : Nat → Places → Places
  | 0, places => places
  | n + 1, places => iterate f n (f places)

/-- The places after at most `n` rounds. The search ends when a round adds no place. -/
def closure (f : Places → Places) : Nat → Places → Places
  | 0, places => places
  | n + 1, places =>
    let next := places.union (f places)
    if next == places then places else closure f n next

end Places

namespace Expr

/-- The places where a match that starts at one of the given places can end. No more rounds of an
open repetition than there are places can add one. -/
def reach (text : List Char) : Expr → Places → Places
  | empty, places => places
  | set s, places => places.advance s text
  | look l, places => places.keep l none text
  | row a b, places => b.reach text (a.reach text places)
  | choice a b, places => (a.reach text places).union (b.reach text places)
  | repetition least most a, places =>
    let rounds := match most with
      | some n => min (n - least) (text.length + 1)
      | none => text.length + 1
    Places.closure (a.reach text) rounds (Places.iterate (a.reach text) least places)

def occursIn (e : Expr) (text : List Char) : Bool :=
  (e.reach text (List.replicate (text.length + 1) true)).any id

end Expr

end RecordQuery.Regex
