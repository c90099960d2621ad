import RecordQuery.Text.Case.Table

/-!
# Letter case

Which characters are upper or lower case, the lower-case form of a character and of a text, and the
characters that differ in letter case only. A capital sigma at the end of a word has a lower-case
form of its own, so the form of a text is not that of its characters one by one.
-/

namespace RecordQuery.Text

open Case

def isUppercase (c : Char) : Bool :=
  if c.toNat < 0x80 then c.isUpper else uppercaseRanges.contains c

def isLowercase (c : Char) : Bool :=
  if c.toNat < 0x80 then c.isLower else lowercaseRanges.contains c

/-- The form given by the first run that holds the code point, or the code point itself. -/
def shiftByRuns (runs : List (Nat × Nat × Nat × Int)) (n : Nat) : Nat :=
  match runs.find? fun (first, last, step, _) =>
      first ≤ n && n ≤ last && (n - first) % step == 0 with
  | some (_, _, _, offset) => (n + offset).toNat
  | none => n

/-- The lower-case form of a character. Only the dotted capital I has a form of two characters. -/
def lowerChar (c : Char) : List Char :=
  if c.toNat < 0x80 then [c.toLower]
  else if c = 'İ' then ['i', '\u0307']
  else [Char.ofNat (shiftByRuns lowerRuns c.toNat)]

/-- The first character that is not looked through exists and has a case. -/
def casedAhead (cs : List Char) : Bool :=
  match cs.dropWhile ignorableRanges.contains with
  | [] => false
  | c :: _ => casedRanges.contains c

/-- The lower-case form of a text whose beginning, last character first, is `before`. -/
def lowerFrom (before : List Char) : List Char → List Char
  | [] => []
  | c :: cs =>
    (if c = 'Σ' then [if casedAhead before && !casedAhead cs then 'ς' else 'σ'] else lowerChar c)
      ++ lowerFrom (c :: before) cs

def lowercase (s : String) : String := String.ofList (lowerFrom [] s.toList)

/-! ## Characters up to letter case -/

def foldedForm (n : Nat) : Nat := shiftByRuns foldingRuns n

def withFoldedForm (n : Nat) : List Nat :=
  n :: foldingRuns.filterMap fun (first, last, step, offset) =>
    let m := ((n : Int) - offset).toNat
    if first ≤ m && m ≤ last && (m - first) % step == 0 then some m else none

/-- The characters that differ from `c` in letter case at most. -/
def caseVariants (c : Char) : List Char := (withFoldedForm (foldedForm c.toNat)).map Char.ofNat

end RecordQuery.Text
