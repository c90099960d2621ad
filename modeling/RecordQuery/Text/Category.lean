import RecordQuery.Text.Basic
import RecordQuery.Text.Case.Table
import RecordQuery.Text.Category.Table
import RecordQuery.Text.Property.Table
import RecordQuery.Text.Script.Table

/-!
# Named sets of characters

General categories, scripts and other properties under the names that Unicode gives them. Names are
compared without letter case, spaces, hyphens, underscores and a leading `is`.
-/

namespace RecordQuery.Text

namespace Category

/-- The categories with their short and long names; groups of categories come after single ones. -/
def named : List (List String × List Ranges) := [
  (["lu", "uppercaseletter"], [uppercaseLetter]),
  (["ll", "lowercaseletter"], [lowercaseLetter]),
  (["lt", "titlecaseletter"], [titlecaseLetter]),
  (["lm", "modifierletter"], [modifierLetter]),
  (["lo", "otherletter"], [otherLetter]),
  (["mn", "nonspacingmark"], [nonspacingMark]),
  (["mc", "spacingmark"], [spacingMark]),
  (["me", "enclosingmark"], [enclosingMark]),
  (["nd", "decimalnumber", "digit"], [decimalNumber]),
  (["nl", "letternumber"], [letterNumber]),
  (["no", "othernumber"], [otherNumber]),
  (["pc", "connectorpunctuation"], [connectorPunctuation]),
  (["pd", "dashpunctuation"], [dashPunctuation]),
  (["ps", "openpunctuation"], [openPunctuation]),
  (["pe", "closepunctuation"], [closePunctuation]),
  (["pi", "initialpunctuation"], [initialPunctuation]),
  (["pf", "finalpunctuation"], [finalPunctuation]),
  (["po", "otherpunctuation"], [otherPunctuation]),
  (["sm", "mathsymbol"], [mathSymbol]),
  (["sc", "currencysymbol"], [currencySymbol]),
  (["sk", "modifiersymbol"], [modifierSymbol]),
  (["so", "othersymbol"], [otherSymbol]),
  (["zs", "spaceseparator"], [spaceSeparator]),
  (["zl", "lineseparator"], [lineSeparator]),
  (["zp", "paragraphseparator"], [paragraphSeparator]),
  (["cc", "control", "cntrl"], [control]),
  (["cf", "format"], [format]),
  (["co", "privateuse"], [privateUse]),
  (["cn", "unassigned"], [unassigned]),
  (["lc", "casedletter"], [uppercaseLetter, lowercaseLetter, titlecaseLetter]),
  (["l", "letter"],
    [uppercaseLetter, lowercaseLetter, titlecaseLetter, modifierLetter, otherLetter]),
  (["m", "mark", "combiningmark"], [nonspacingMark, spacingMark, enclosingMark]),
  (["n", "number"], [decimalNumber, letterNumber, otherNumber]),
  (["p", "punctuation", "punct"],
    [connectorPunctuation, dashPunctuation, openPunctuation, closePunctuation, initialPunctuation,
      finalPunctuation, otherPunctuation]),
  (["s", "symbol"], [mathSymbol, currencySymbol, modifierSymbol, otherSymbol]),
  (["z", "separator"], [spaceSeparator, lineSeparator, paragraphSeparator]),
  (["c", "other"], [control, format, privateUse, unassigned]),
  (["any"], [[(0, 0x10FFFF)]]),
  (["ascii"], [[(0, 0x7F)]])]

end Category

/-- Letters, marks, decimal numbers, connector punctuation and the two joiners. -/
def isWordChar (c : Char) : Bool :=
  if c.toNat < 0x80 then c.isAlphanum || c == '_'
  else
    [Property.alphabetic, Category.nonspacingMark, Category.spacingMark, Category.enclosingMark,
      Category.decimalNumber, Category.connectorPunctuation, [(0x200C, 0x200D)]].any (·.contains c)

def isDigitChar (c : Char) : Bool := Category.decimalNumber.contains c

def isAlphabetic (c : Char) : Bool := Property.alphabetic.contains c

def isAlphanumeric (c : Char) : Bool :=
  isAlphabetic c ||
    [Category.decimalNumber, Category.letterNumber, Category.otherNumber].any (·.contains c)

namespace Property

/-- Whole sets that ASCII alone decides are written out; the others come from tables. -/
def named : List (List String × Ranges) := [
  (["alphabetic", "alpha"], alphabetic),
  (["whitespace", "wspace", "space"], blankRanges),
  (["uppercase", "upper"], (0x41, 0x5A) :: Case.uppercaseRanges),
  (["lowercase", "lower"], (0x61, 0x7A) :: Case.lowercaseRanges),
  (["cased"], Case.casedRanges),
  (["caseignorable", "ci"], Case.ignorableRanges),
  (["graphemeextend", "grext"], graphemeExtend),
  (["emoji"], emoji),
  (["extendedpictographic", "extpict"], pictographic),
  (["ideographic", "ideo"], ideographic),
  (["math"], math),
  (["dash"], dash),
  (["hexdigit", "hex"], hexDigit),
  (["asciihexdigit", "ahex"], asciiHexDigit),
  (["diacritic", "dia"], diacritic),
  (["quotationmark", "qmark"], quotationMark),
  (["joincontrol", "joinc"], [(0x200C, 0x200D)])]

end Property

/-! ## Looking names up -/

/-- A name as it is compared. -/
def looseName (cs : List Char) : String :=
  let (is, rest) := match cs with
    | 'i' :: 's' :: rest | 'i' :: 'S' :: rest | 'I' :: 's' :: rest | 'I' :: 'S' :: rest =>
      (true, rest)
    | cs => (false, cs)
  let counts (c : Char) : Bool := c.toNat < 0x80 && c != ' ' && c != '_' && c != '-'
  let kept := (rest.filter counts).map Char.toLower
  if is && kept == ['c'] then "isc" else String.ofList kept

abbrev CharSet := Char → Bool

def categorySet? (name : String) : Option CharSet :=
  if name = "assigned" then some fun c => !Category.unassigned.contains c
  else (Category.named.find? (name ∈ ·.1)).map fun (_, tables) => fun c => tables.any (·.contains c)

def scriptSet? (name : String) : Option CharSet :=
  (Script.all.find? (name ∈ ·.1)).map fun (_, table) => table.contains

def propertySet? (name : String) : Option CharSet :=
  (Property.named.find? (name ∈ ·.1)).map fun (_, table) => table.contains

/-- The set with a name that stands alone: a property, a category or a script. Three short names
are those of categories before all else. -/
def namedSet? (name : String) : Option CharSet :=
  if name ∈ ["cf", "sc", "lc"] then categorySet? name
  else (propertySet? name).or ((categorySet? name).or (scriptSet? name))

def valueSet? (property value : String) : Option CharSet :=
  if property ∈ ["gc", "generalcategory"] then categorySet? value
  else if property ∈ ["sc", "script"] then scriptSet? value
  else none

end RecordQuery.Text
