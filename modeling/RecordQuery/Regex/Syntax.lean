/-!
# Syntax of patterns

The tree of a search pattern as it is written: characters, classes, anchors, repetitions, groups and
changes of the flags that say how the rest is meant.
-/

namespace RecordQuery.Regex

inductive Flag where
  | ignoreCase
  | multiLine
  | dotAll
  | swapGreed
  | unicode
  | carriageReturn
  | verbose
deriving DecidableEq

structure FlagChange where
  on : List Flag := []
  off : List Flag := []

namespace FlagChange

def state? (f : FlagChange) (flag : Flag) : Option Bool :=
  if flag ∈ f.on then some true else if flag ∈ f.off then some false else none

end FlagChange

inductive Anchor where
  | lineStart
  | lineEnd
  | textStart
  | textEnd
  | wordBoundary
  | notWordBoundary
  | wordStart
  | wordEnd
  | wordStartHalf
  | wordEndHalf

inductive LetterClass where
  | digit
  | space
  | word

inductive NamedClass where
  | alnum
  | alpha
  | ascii
  | blank
  | cntrl
  | digit
  | graph
  | lower
  | print
  | punct
  | space
  | upper
  | word
  | xdigit

inductive SetOperation where
  | intersection
  | difference
  | symmetricDifference

inductive CharClass where
  | range (first last : Char)
  | letter (negated : Bool) (k : LetterClass)
  | named (negated : Bool) (k : NamedClass)
  | property (negated : Bool) (name : List Char)
  | value (negated : Bool) (name value : List Char)
  | union (items : List CharClass)
  | combine (op : SetOperation) (left right : CharClass)
  | bracket (negated : Bool) (inner : CharClass)

inductive Pattern where
  | empty
  | flags (change : FlagChange)
  | char (c : Char)
  /-- A character given by two hexadecimal digits, which can stand for a byte. -/
  | byteEscape (c : Char)
  | dot
  | anchor (a : Anchor)
  | charClass (k : CharClass)
  | repetition (least : Nat) (most : Option Nat) (p : Pattern)
  | group (change : FlagChange) (p : Pattern)
  | concat (items : List Pattern)
  | alternation (branches : List Pattern)

namespace Pattern

def ofItems : List Pattern → Pattern
  | [] => empty
  | [p] => p
  | items => concat items

end Pattern

/-! ## Depth -/

mutual

def CharClass.depth : CharClass → Nat
  | .union items => if items.length ≤ 1 then depthOfClasses items else depthOfClasses items + 1
  | .combine _ l r => max l.depth r.depth + 1
  | .bracket _ inner => inner.depth + 1
  | _ => 0

def depthOfClasses : List CharClass → Nat
  | [] => 0
  | k :: ks => max k.depth (depthOfClasses ks)

end

mutual

def Pattern.depth : Pattern → Nat
  | .charClass k => k.depth
  | .repetition _ _ p => p.depth + 1
  | .group _ p => p.depth + 1
  | .concat items => depthOfPatterns items + 1
  | .alternation branches => depthOfPatterns branches + 1
  | _ => 0

def depthOfPatterns : List Pattern → Nat
  | [] => 0
  | p :: ps => max p.depth (depthOfPatterns ps)

end

/-! ## Weight -/

mutual

/-- About how many bytes the transitions of a class take. -/
def CharClass.weight : CharClass → Nat
  | .range _ last => if last.toNat < 0x80 then 32 else 256
  | .letter _ .word => 60000
  | .letter _ .digit => 4000
  | .letter _ .space => 1000
  | .named _ _ => 64
  | .property _ _ => 20000
  | .value _ _ _ => 20000
  | .union items => weightOfClasses items
  | .combine _ l r => l.weight + r.weight
  | .bracket _ inner => inner.weight

def weightOfClasses : List CharClass → Nat
  | [] => 0
  | k :: ks => k.weight + weightOfClasses ks

end

mutual

/-- About how many bytes a pattern takes once its repetitions are written out. -/
def Pattern.weight : Pattern → Nat
  | .empty => 0
  | .flags _ => 0
  | .char c => 32 * c.utf8Size
  | .byteEscape c => 32 * c.utf8Size
  | .dot => 512
  | .anchor _ => 32
  | .charClass k => k.weight
  | .repetition least most p =>
    match most with
    | none => max least 1 * p.weight + 80
    | some n => n * p.weight + (n - least) * 40
  | .group _ p => p.weight + 64
  | .concat items => weightOfPatterns items
  | .alternation branches => weightOfPatterns branches + 36 * branches.length

def weightOfPatterns : List Pattern → Nat
  | [] => 0
  | p :: ps => p.weight + weightOfPatterns ps

end

end RecordQuery.Regex
