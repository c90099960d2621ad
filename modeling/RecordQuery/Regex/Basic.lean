import RecordQuery.Regex.Matching
import RecordQuery.Regex.Reading
import RecordQuery.Text.Case

/-!
# Regular expressions

A regular expression is a pattern that has been read and given a meaning: which characters its
classes hold and what its anchors test, under the flags in force at each place. A pattern that
cannot be read, or that asks for bytes that are no characters, has none.
-/

namespace RecordQuery.Regex

open Text

structure Flags where
  ignoreCase : Bool := false
  multiLine : Bool := false
  dotAll : Bool := false
  unicode : Bool := true
  carriageReturn : Bool := false

namespace Flags

def change (f : Flags) (c : FlagChange) : Flags where
  ignoreCase := (c.state? .ignoreCase).getD f.ignoreCase
  multiLine := (c.state? .multiLine).getD f.multiLine
  dotAll := (c.state? .dotAll).getD f.dotAll
  unicode := (c.state? .unicode).getD f.unicode
  carriageReturn := (c.state? .carriageReturn).getD f.carriageReturn

def widen (f : Flags) (s : CharSet) : CharSet :=
  if f.ignoreCase then
    if f.unicode then fun c => (caseVariants c).any s
    else fun c => s c || s c.toLower || s c.toUpper
  else s

/-- The set or its complement. Outside Unicode mode a complement holds bytes that are no
characters. -/
def negate? (f : Flags) (negated : Bool) (s : CharSet) : Option CharSet :=
  if !negated then some s else if f.unicode then some fun c => !s c else none

end Flags

/-! ## Classes -/

namespace NamedClass

def set : NamedClass → CharSet
  | alnum => fun c => c.isAlphanum
  | alpha => fun c => c.isAlpha
  | ascii => fun c => c.toNat < 0x80
  | blank => fun c => c == ' ' || c == '\t'
  | cntrl => fun c => c.toNat < 0x20 || c.toNat == 0x7F
  | digit => fun c => c.isDigit
  | graph => fun c => 0x21 ≤ c.toNat && c.toNat ≤ 0x7E
  | lower => fun c => c.isLower
  | print => fun c => 0x20 ≤ c.toNat && c.toNat ≤ 0x7E
  | punct => fun c => 0x21 ≤ c.toNat && c.toNat ≤ 0x7E && !c.isAlphanum
  | space => fun c => c == ' ' || (0x09 ≤ c.toNat && c.toNat ≤ 0x0D)
  | upper => fun c => c.isUpper
  | word => fun c => c.isAlphanum || c == '_'
  | xdigit => fun c => isHexDigit c

end NamedClass

namespace LetterClass

def set (unicode : Bool) : LetterClass → CharSet
  | digit => if unicode then isDigitChar else fun c => c.isDigit
  | space => if unicode then isBlank else NamedClass.space.set
  | word => if unicode then isWordChar else NamedClass.word.set

end LetterClass

namespace SetOperation

def apply (op : SetOperation) (s t : CharSet) : CharSet :=
  match op with
  | intersection => fun c => s c && t c
  | difference => fun c => s c && !t c
  | symmetricDifference => fun c => s c != t c

end SetOperation

mutual

def CharClass.set? (f : Flags) : CharClass → Option CharSet
  | .range first last =>
    if f.unicode || last.toNat < 0x80 then some fun c => first ≤ c && c ≤ last else none
  | .letter negated k => f.negate? negated (k.set f.unicode)
  | .named negated k => f.negate? negated (f.widen k.set)
  | .property negated name =>
    if f.unicode then (namedSet? (looseName name)).bind fun s => f.negate? negated (f.widen s)
    else none
  | .value negated name value =>
    if f.unicode then
      (valueSet? (looseName name) (looseName value)).bind fun s => f.negate? negated (f.widen s)
    else none
  | .union items => unionSet? f items
  | .combine op l r => do
    let s ← l.set? f
    let t ← r.set? f
    some (op.apply (f.widen s) (f.widen t))
  | .bracket negated inner => do
    let s ← inner.set? f
    f.negate? negated (f.widen s)

def unionSet? (f : Flags) : List CharClass → Option CharSet
  | [] => some fun _ => false
  | k :: ks => do
    let s ← k.set? f
    let t ← unionSet? f ks
    some fun c => s c || t c

end

/-! ## Patterns -/

namespace Anchor

def look (f : Flags) : Anchor → Look
  | lineStart =>
    if f.multiLine then if f.carriageReturn then .anyLineStart else .lineStart else .start
  | lineEnd => if f.multiLine then if f.carriageReturn then .anyLineEnd else .lineEnd else .stop
  | textStart => .start
  | textEnd => .stop
  | wordBoundary => .boundary f.unicode
  | notWordBoundary => .notBoundary f.unicode
  | wordStart => .wordStart f.unicode
  | wordEnd => .wordEnd f.unicode
  | wordStartHalf => .wordStartHalf f.unicode
  | wordEndHalf => .wordEndHalf f.unicode

end Anchor

def dotSet (f : Flags) : CharSet :=
  if f.dotAll then fun _ => true
  else if f.carriageReturn then fun c => c != '\n' && c != '\r'
  else fun c => c != '\n'

mutual

/-- The expression of a pattern under the flags in force, and the flags in force after it. -/
def Pattern.expr? (f : Flags) : Pattern → Option (Expr × Flags)
  | .empty => some (.empty, f)
  | .flags change => some (.empty, f.change change)
  | .char c => some (.set (f.widen (· == c)), f)
  | .byteEscape c =>
    if f.unicode || c.toNat < 0x80 then some (.set (f.widen (· == c)), f) else none
  | .dot => if f.unicode then some (.set (dotSet f), f) else none
  | .anchor a => some (.look (a.look f), f)
  | .charClass k => (k.set? f).map fun s => (.set s, f)
  | .repetition least most p => (p.expr? f).map fun (e, f) => (.repetition least most e, f)
  | .group change p => (p.expr? (f.change change)).map fun (e, _) => (e, f)
  | .concat items => rowExpr? f items
  | .alternation branches => choiceExpr? f branches

def rowExpr? (f : Flags) : List Pattern → Option (Expr × Flags)
  | [] => some (.empty, f)
  | p :: ps => do
    let (a, f) ← p.expr? f
    let (b, f) ← rowExpr? f ps
    some (.row a b, f)

def choiceExpr? (f : Flags) : List Pattern → Option (Expr × Flags)
  | [] => some (.set fun _ => false, f)
  | p :: ps => do
    let (a, f) ← p.expr? f
    let (b, f) ← choiceExpr? f ps
    some (.choice a b, f)

end

end Regex

structure Regex where
  pattern : String
  expr : Regex.Expr

namespace Regex

def ofPattern? (pattern : String) : Option Regex :=
  (Pattern.read? pattern).bind fun p => (p.expr? {}).map fun (expr, _) => ⟨pattern, expr⟩

def isMatch (r : Regex) (text : String) : Bool := r.expr.occursIn text.toList

end Regex

end RecordQuery
