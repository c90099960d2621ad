import RecordQuery.Binary.Literal
import RecordQuery.Regex.Syntax
import RecordQuery.Text.Basic
import RecordQuery.Text.Category

/-!
# Reading patterns

Patterns are read from left to right with a stack of the groups that are still open, and classes
with a stack of open brackets. Every step takes at least one character, and the readers stop as soon
as one does not. A text that is no pattern gives nothing.

In verbose mode blanks and comments between the parts of a pattern do not count.
-/

namespace RecordQuery.Regex

open Text Literal

/-! ## Blanks and comments -/

/-- Drops blanks and comments, the rest of a line first when a comment is open. -/
def skipComments : Bool → List Char → List Char
  | _, [] => []
  | true, c :: cs => skipComments (c != '\n') cs
  | false, c :: cs =>
    if isBlank c then skipComments false cs
    else if c = '#' then skipComments true cs
    else c :: cs

def skip (verbose : Bool) (cs : List Char) : List Char :=
  if verbose then skipComments false cs else cs

/-! ## Escapes -/

inductive Atom where
  | char (c : Char)
  | byteEscape (c : Char)
  | anchor (a : Anchor)
  | charClass (k : CharClass)

namespace Atom

def toPattern : Atom → Pattern
  | char c => .char c
  | byteEscape c => .byteEscape c
  | anchor a => .anchor a
  | charClass k => .charClass k

def char? : Atom → Option Char
  | char c => some c
  | byteEscape c => some c
  | anchor _ => none
  | charClass _ => none

def class? : Atom → Option CharClass
  | char c => some (.range c c)
  | byteEscape c => some (.range c c)
  | anchor _ => none
  | charClass k => some k

end Atom

def isHexDigit (c : Char) : Bool :=
  c.isDigit || ('a' ≤ c && c ≤ 'f') || ('A' ≤ c && c ≤ 'F')

def hexDigitValue (c : Char) : Nat :=
  if c.isDigit then c.toNat - 48 else c.toLower.toNat - 87

def charOfHex? (ds : List Char) : Option Char :=
  let n := ds.foldl (fun n c => 16 * n + hexDigitValue c) 0
  if ds.all isHexDigit && decide n.isValidChar then some (Char.ofNat n) else none

def takeCounting (verbose : Bool) : Nat → List Char → Option (List Char × List Char)
  | 0, cs => some ([], cs)
  | _ + 1, [] => none
  | n + 1, c :: cs =>
    (takeCounting verbose n (skip verbose cs)).map fun (ds, rest) => (c :: ds, rest)

/-- The characters that count before a closing brace, and what follows the brace. -/
def takeBraced (verbose : Bool) : List Char → Option (List Char × List Char)
  | cs =>
    match skip verbose cs with
    | [] => none
    | '}' :: rest => some ([], rest)
    | c :: rest =>
      if _h : rest.length < cs.length then
        (takeBraced verbose rest).map fun (ds, rest) => (c :: ds, rest)
      else none
termination_by cs => cs.length

/-- Reads the digits after an escape that has `count` of them without braces. -/
def readHex (verbose : Bool) (count : Nat) (cs : List Char) : Option (Char × List Char) :=
  match skip verbose cs with
  | '{' :: rest =>
    match takeBraced verbose rest with
    | some (d :: ds, rest) => (charOfHex? (d :: ds)).map fun c => (c, skip verbose rest)
    | _ => none
  | cs =>
    match takeCounting verbose count cs with
    | some (ds, rest) => (charOfHex? ds).map fun c => (c, rest)
    | none => none

def splitAtFirst? (sep : List Char) : List Char → Option (List Char × List Char)
  | [] => none
  | c :: cs =>
    if sep.isPrefixOf (c :: cs) then some ([], (c :: cs).drop sep.length)
    else (splitAtFirst? sep cs).map fun (before, after) => (c :: before, after)

def propertyOfText (negated : Bool) (text : List Char) : CharClass :=
  match splitAtFirst? ['!', '='] text with
  | some (name, value) => .value (!negated) name value
  | none =>
    match splitAtFirst? [':'] text with
    | some (name, value) => .value negated name value
    | none =>
      match splitAtFirst? ['='] text with
      | some (name, value) => .value negated name value
      | none => .property negated text

def readProperty (verbose negated : Bool) (cs : List Char) : Option (CharClass × List Char) :=
  match skip verbose cs with
  | [] => none
  | '\\' :: _ => none
  | '{' :: rest =>
    (takeBraced verbose rest).map fun (text, rest) => (propertyOfText negated text, rest)
  | c :: rest => some (.property negated [c], skip verbose rest)

/-- Reads the braces that can follow a word boundary. When they hold no letter, they are none of
its own and count as a repetition. -/
def readBoundary (verbose : Bool) (cs : List Char) : Option (Anchor × List Char) :=
  match cs with
  | '{' :: rest =>
    let isLetter := fun c : Char => c.isAlpha || c == '-'
    match skip verbose rest with
    | [] => none
    | c :: _ =>
      if isLetter c then
        match takeBraced verbose rest with
        | some (name, rest) =>
          if name = "start".toList then some (.wordStart, rest)
          else if name = "end".toList then some (.wordEnd, rest)
          else if name = "start-half".toList then some (.wordStartHalf, rest)
          else if name = "end-half".toList then some (.wordEndHalf, rest)
          else none
        | none => none
      else some (.wordBoundary, cs)
  | cs => some (.wordBoundary, cs)

/-- Reads an escape after its backslash. References to groups are not supported. -/
def readEscape (verbose : Bool) : List Char → Option (Atom × List Char)
  | [] => none
  | c :: cs =>
    match c with
    | 'x' => (readHex verbose 2 cs).map fun (d, rest) =>
      (if (skip verbose cs).head? = some '{' then .char d else .byteEscape d, rest)
    | 'u' => (readHex verbose 4 cs).map fun (d, rest) => (.char d, rest)
    | 'U' => (readHex verbose 8 cs).map fun (d, rest) => (.char d, rest)
    | 'p' => (readProperty verbose false cs).map fun (k, rest) => (.charClass k, rest)
    | 'P' => (readProperty verbose true cs).map fun (k, rest) => (.charClass k, rest)
    | 'd' => some (.charClass (.letter false .digit), cs)
    | 'D' => some (.charClass (.letter true .digit), cs)
    | 's' => some (.charClass (.letter false .space), cs)
    | 'S' => some (.charClass (.letter true .space), cs)
    | 'w' => some (.charClass (.letter false .word), cs)
    | 'W' => some (.charClass (.letter true .word), cs)
    | 'a' => some (.char '\x07', cs)
    | 'f' => some (.char '\x0C', cs)
    | 't' => some (.char '\t', cs)
    | 'n' => some (.char '\n', cs)
    | 'r' => some (.char '\r', cs)
    | 'v' => some (.char '\x0B', cs)
    | 'A' => some (.anchor .textStart, cs)
    | 'z' => some (.anchor .textEnd, cs)
    | 'b' => (readBoundary verbose cs).map fun (a, rest) => (.anchor a, rest)
    | 'B' => some (.anchor .notWordBoundary, cs)
    | '<' => some (.anchor .wordStart, cs)
    | '>' => some (.anchor .wordEnd, cs)
    | c => if c.toNat < 0x80 && !c.isAlphanum then some (.char c, cs) else none

/-! ## Classes -/

def namedClasses : List (String × NamedClass) := [
  ("alnum", .alnum), ("alpha", .alpha), ("ascii", .ascii), ("blank", .blank), ("cntrl", .cntrl),
  ("digit", .digit), ("graph", .graph), ("lower", .lower), ("print", .print), ("punct", .punct),
  ("space", .space), ("upper", .upper), ("word", .word), ("xdigit", .xdigit)]

def readNamedClass? : List Char → Option (CharClass × List Char)
  | ':' :: cs =>
    let (negated, cs) := match cs with
      | '^' :: cs => (true, cs)
      | cs => (false, cs)
    match cs.dropWhile (· != ':') with
    | ':' :: ']' :: rest =>
      (List.lookup (String.ofList (cs.takeWhile (· != ':'))) namedClasses).map fun k =>
        (.named negated k, rest)
    | _ => none
  | _ => none

/-- What is open while a class is read: a bracket with what stands before it, or an operation with
its left operand. -/
inductive ClassFrame where
  | bracket (before : List CharClass) (negated : Bool)
  | operation (op : SetOperation) (left : CharClass)

/-- The operand that ends here, combined with the one before an operation. -/
def closeOperand (items : List CharClass) : List ClassFrame → CharClass × List ClassFrame
  | .operation op left :: stack => (.combine op left (.union items.reverse), stack)
  | stack => (.union items.reverse, stack)

def leadingHyphens (verbose : Bool) : List Char → List CharClass × List Char
  | cs =>
    match _h : cs with
    | '-' :: rest =>
      if _h : (skip verbose rest).length < cs.length then
        let (items, rest) := leadingHyphens verbose (skip verbose rest)
        (.range '-' '-' :: items, rest)
      else ([], cs)
    | cs => ([], cs)
termination_by cs => cs.length

/-- Reads the start of a class after its bracket: a caret, hyphens, and a bracket that does not
close the class because it comes first. -/
def openClass (verbose : Bool) (cs : List Char) : Option (Bool × List CharClass × List Char) :=
  let cs := skip verbose cs
  let (negated, cs) := match cs with
    | '^' :: rest => (true, skip verbose rest)
    | cs => (false, cs)
  let (items, cs) := leadingHyphens verbose cs
  match items, cs with
  | _, [] => none
  | [], ']' :: rest =>
    match skip verbose rest with
    | [] => none
    | rest => some (negated, [.range ']' ']'], rest)
  | items, cs => some (negated, items, cs)

def readClassAtom (verbose : Bool) : List Char → Option (Atom × List Char)
  | [] => none
  | '\\' :: cs => readEscape verbose cs
  | c :: cs => some (.char c, cs)

/-- Reads a character, an escape or a range in a class. A hyphen before a closing bracket or
another hyphen makes no range. -/
def readClassItem (verbose : Bool) (cs : List Char) : Option (CharClass × List Char) :=
  match readClassAtom verbose cs with
  | none => none
  | some (first, rest) =>
    match skip verbose rest with
    | [] => none
    | '-' :: rest' =>
      match skip verbose rest' with
      | [] => none
      | ']' :: _ => first.class?.map (·, skip verbose rest)
      | '-' :: _ => first.class?.map (·, skip verbose rest)
      | _ =>
        match readClassAtom verbose (skip verbose rest') with
        | none => none
        | some (last, rest) =>
          match first.char?, last.char? with
          | some a, some b => if a ≤ b then some (.range a b, rest) else none
          | _, _ => none
    | rest => first.class?.map (·, rest)

def operation? : Char → Char → Option SetOperation
  | '&', '&' => some .intersection
  | '-', '-' => some .difference
  | '~', '~' => some .symmetricDifference
  | _, _ => none

/-- One step in a class: what is open and what the innermost bracket holds so far, last item first,
or the whole class once its bracket is closed. -/
def stepClass (verbose : Bool) (stack : List ClassFrame) (items : List CharClass) :
    List Char → Option ((List ClassFrame × List CharClass ⊕ CharClass) × List Char)
  | [] => none
  | '[' :: cs =>
    match readNamedClass? cs with
    | some (k, rest) => some (.inl (stack, k :: items), rest)
    | none => (openClass verbose cs).map fun (negated, first, rest) =>
      (.inl (.bracket items negated :: stack, first.reverse), rest)
  | ']' :: cs =>
    match closeOperand items stack with
    | (inner, [.bracket _ negated]) => some (.inr (.bracket negated inner), cs)
    | (inner, .bracket before negated :: stack) =>
      some (.inl (stack, .bracket negated inner :: before), cs)
    | _ => none
  | c :: cs =>
    match cs.head?.bind (operation? c) with
    | some op =>
      let (left, stack) := closeOperand items stack
      some (.inl (.operation op left :: stack, []), cs.tail)
    | none =>
      (readClassItem verbose (c :: cs)).map fun (k, rest) => (.inl (stack, k :: items), rest)

def readClassFrom (verbose : Bool) (stack : List ClassFrame) (items : List CharClass)
    (cs : List Char) : Option (CharClass × List Char) :=
  match stepClass verbose stack items (skip verbose cs) with
  | none => none
  | some (.inr k, rest) => some (k, rest)
  | some (.inl (stack, items), rest) =>
    if _h : rest.length < cs.length then readClassFrom verbose stack items rest else none
termination_by cs.length

def readClass (verbose : Bool) (cs : List Char) : Option (CharClass × List Char) :=
  (openClass verbose cs).bind fun (negated, first, rest) =>
    readClassFrom verbose [.bracket [] negated] first.reverse rest

/-! ## Repetitions -/

/-- Drops blanks, which never count inside the braces of a repetition. -/
def readCount (verbose : Bool) (cs : List Char) : Option Nat × List Char :=
  let rec digits : Nat → List Char → List Char × List Char
    | 0, cs => ([], cs)
    | n + 1, c :: cs =>
      if c.isDigit then
        let (ds, rest) := digits n (skip verbose cs)
        (c :: ds, rest)
      else ([], c :: cs)
    | _ + 1, [] => ([], [])
  let cs := dropBlanks cs
  let (ds, rest) := digits cs.length cs
  (readDigits ds, skip verbose (dropBlanks rest))

def maxRepetition : Nat := Nat.pow 2 32 - 1

/-- Reads the braces of a repetition after the opening one: the least and the greatest count. -/
def readBraces (verbose : Bool) (cs : List Char) : Option ((Nat × Option Nat) × List Char) :=
  let (low, rest) := readCount verbose (skip verbose cs)
  match rest with
  | '}' :: rest =>
    match low with
    | some n => if n ≤ maxRepetition then some ((n, some n), rest) else none
    | none => none
  | ',' :: rest =>
    match low, skip verbose rest with
    | some n, '}' :: rest => if n ≤ maxRepetition then some ((n, none), rest) else none
    | some n, rest =>
      match readCount verbose rest with
      | (some m, '}' :: rest) =>
        if n ≤ m ∧ m ≤ maxRepetition then some ((n, some m), rest) else none
      | _ => none
    | none, _ => none
  | _ => none

/-- Drops the mark of a lazy repetition; a search finds a match or none either way. -/
def dropLazyMark : List Char → List Char
  | '?' :: cs => cs
  | cs => cs

/-- The items with the last one repeated. Nothing and a change of flags cannot be repeated. -/
def repeatLast (least : Nat) (most : Option Nat) : List Pattern → Option (List Pattern)
  | [] => none
  | .empty :: _ => none
  | .flags _ :: _ => none
  | p :: items => some (.repetition least most p :: items)

/-! ## Groups -/

def flag? : Char → Option Flag
  | 'i' => some .ignoreCase
  | 'm' => some .multiLine
  | 's' => some .dotAll
  | 'U' => some .swapGreed
  | 'u' => some .unicode
  | 'R' => some .carriageReturn
  | 'x' => some .verbose
  | _ => none

/-- Reads flags up to a colon or a closing parenthesis, which is left. No flag is named twice, and
one follows the minus sign. -/
def readFlags (negated : Bool) (change : FlagChange) : List Char → Option (FlagChange × List Char)
  | [] => none
  | c :: cs =>
    if c = ':' ∨ c = ')' then
      if negated && change.off.isEmpty then none else some (change, c :: cs)
    else if c = '-' then if negated then none else readFlags true change cs
    else
      match flag? c with
      | none => none
      | some f =>
        if f ∈ change.on ∨ f ∈ change.off then none
        else if negated then readFlags true { change with off := f :: change.off } cs
        else readFlags false { change with on := f :: change.on } cs

def readName (cs : List Char) : Option (List Char × List Char) :=
  let name := cs.takeWhile (· != '>')
  match cs.dropWhile (· != '>'), name with
  | '>' :: rest, c :: more =>
    let later := fun c => c == '_' || c == '.' || c == '[' || c == ']' || isAlphanumeric c
    if (c == '_' || isAlphabetic c) && more.all later then some (name, rest) else none
  | _, _ => none

/-- What an opening parenthesis begins: a group, with the name that it captures under, or a change
of flags. -/
inductive Opening where
  | group (change : FlagChange) (name : Option (List Char))
  | flags (change : FlagChange)

/-- Reads what follows an opening parenthesis. Looking ahead or behind is not supported. -/
def readOpening (verbose : Bool) (cs : List Char) : Option (Opening × List Char) :=
  match skip verbose cs with
  | '?' :: '=' :: _ => none
  | '?' :: '!' :: _ => none
  | '?' :: '<' :: '=' :: _ => none
  | '?' :: '<' :: '!' :: _ => none
  | '?' :: 'P' :: '<' :: rest =>
    (readName rest).map fun (name, rest) => (.group {} (some name), rest)
  | '?' :: '<' :: rest => (readName rest).map fun (name, rest) => (.group {} (some name), rest)
  | '?' :: rest =>
    match readFlags false {} rest with
    | some (change, ':' :: rest) => some (.group change none, rest)
    | some (change, ')' :: rest) =>
      if change.on.isEmpty && change.off.isEmpty then none else some (.flags change, rest)
    | _ => none
  | rest => some (.group {} none, rest)

/-! ## Patterns -/

/-- What is open while a pattern is read: a group with what stands before it and the mode outside
it, or an alternation with its branches, last branch first. -/
inductive Frame where
  | group (before : List Pattern) (change : FlagChange) (verbose : Bool)
  | alternation (branches : List Pattern)

/-- How far a pattern has been read: what is open, the items of the innermost row, last item first,
the mode, and the names of groups. -/
structure Progress where
  stack : List Frame := []
  items : List Pattern := []
  verbose : Bool := false
  names : List (List Char) := []

namespace Progress

def row (s : Progress) : Pattern := .ofItems s.items.reverse

def push (s : Progress) (p : Pattern) : Progress := { s with items := p :: s.items }

def branch (s : Progress) : Progress :=
  match s.stack with
  | .alternation branches :: stack =>
    { s with stack := .alternation (s.row :: branches) :: stack, items := [] }
  | stack => { s with stack := .alternation [s.row] :: stack, items := [] }

def close (s : Progress) : Pattern × List Frame :=
  match s.stack with
  | .alternation branches :: stack => (.alternation (s.row :: branches).reverse, stack)
  | stack => (s.row, stack)

def begin (s : Progress) : Opening → Option Progress
  | .flags change =>
    some { s with
      items := .flags change :: s.items
      verbose := (change.state? .verbose).getD s.verbose }
  | .group change name =>
    if name.any (s.names.contains ·) then none
    else some {
      stack := .group s.items change s.verbose :: s.stack
      items := []
      verbose := (change.state? .verbose).getD s.verbose
      names := name.toList ++ s.names }

def finishGroup (s : Progress) : Option Progress :=
  match s.close with
  | (inner, .group before change verbose :: stack) =>
    some { s with stack, items := .group change inner :: before, verbose }
  | _ => none

def finish (s : Progress) : Option Pattern :=
  match s.close with
  | (p, []) => some p
  | _ => none

def repeatLast (s : Progress) (least : Nat) (most : Option Nat) : Option Progress :=
  (Regex.repeatLast least most s.items).map fun items => { s with items }

def step (s : Progress) (c : Char) (cs : List Char) : Option (Progress × List Char) :=
  match c with
  | '(' => (readOpening s.verbose cs).bind fun (o, rest) => (s.begin o).map (·, rest)
  | ')' => s.finishGroup.map (·, cs)
  | '|' => some (s.branch, cs)
  | '[' => (readClass s.verbose cs).map fun (k, rest) => (s.push (.charClass k), rest)
  | '?' => (s.repeatLast 0 (some 1)).map (·, dropLazyMark cs)
  | '*' => (s.repeatLast 0 none).map (·, dropLazyMark cs)
  | '+' => (s.repeatLast 1 none).map (·, dropLazyMark cs)
  | '{' => (readBraces s.verbose cs).bind fun ((least, most), rest) =>
    (s.repeatLast least most).map (·, dropLazyMark (skip s.verbose rest))
  | '\\' => (readEscape s.verbose cs).map fun (a, rest) => (s.push a.toPattern, rest)
  | '.' => some (s.push .dot, cs)
  | '^' => some (s.push (.anchor .lineStart), cs)
  | '$' => some (s.push (.anchor .lineEnd), cs)
  | c => some (s.push (.char c), cs)

end Progress

def readFrom (s : Progress) (cs : List Char) : Option Pattern :=
  match skip s.verbose cs with
  | [] => s.finish
  | c :: rest =>
    match s.step c rest with
    | none => none
    | some (s, rest) => if _h : rest.length < cs.length then readFrom s rest else none
termination_by cs.length

def maxDepth : Nat := 250

def maxWeight : Nat := 10 * Nat.pow 2 20

/-- Reads a pattern. One that is nested too deeply or weighs too much is refused. -/
def Pattern.read? (text : String) : Option Pattern :=
  (readFrom {} text.toList).filter fun p => p.depth ≤ maxDepth && p.weight ≤ maxWeight

end RecordQuery.Regex
