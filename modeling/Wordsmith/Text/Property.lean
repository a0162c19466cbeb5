import Wordsmith.Text.Category.Letters
import Wordsmith.Text.Category.Marks
import Wordsmith.Text.Category.Numbers
import Wordsmith.Text.Category.Punctuation
import Wordsmith.Text.Category.Symbols
import Wordsmith.Text.Category.Others
import Wordsmith.Text.Category.Additions

/-!
# Properties of characters

The classes of characters that patterns, articles, capitalisation and configuration files ask for.
Each is the Unicode property of its name, for all of Unicode in version 17.0.
-/

namespace Wordsmith.Text

open Category

/-- Whether one of the tables holds the character. -/
def inTables (tables : List (List Stride)) (c : Char) : Bool :=
  tables.any fun table => Stride.anyHolds table c.toNat

/-- White space: the controls from tab to carriage return, the next line, and every space and
line separator, the no-break and the ideographic space included. The zero width space is none. -/
def isBlank (c : Char) : Bool :=
  let n := c.toNat
  (9 ≤ n && n ≤ 13) || n == 0x20 || n == 0x85 || n == 0xA0 || n == 0x1680 ||
    (0x2000 ≤ n && n ≤ 0x200A) || n == 0x2028 || n == 0x2029 || n == 0x202F || n == 0x205F ||
    n == 0x3000

/-- Letters of every kind, letter numbers, and the marks that count as letters. -/
def isAlphabetic : Char → Bool :=
  inTables [lowercaseLetters, uppercaseLetters, otherLetters, titlecaseLetters, modifierLetters,
    letterNumbers, alsoAlphabetic]

/-- Digits of every script, letter numbers, fractions and the like. -/
def isNumeric : Char → Bool :=
  inTables [decimalDigits, letterNumbers, otherNumbers]

/-- Alphabetic or numeric. -/
def isAlphanumeric (c : Char) : Bool := isAlphabetic c || isNumeric c

/-- Small letters, and the signs that count as such. -/
def isLowercase : Char → Bool := inTables [lowercaseLetters, alsoLowercase]

/-- Capital letters, and the signs that count as such. -/
def isUppercase : Char → Bool := inTables [uppercaseLetters, alsoUppercase]

/-- Letters that have a case. -/
def isCased (c : Char) : Bool :=
  isLowercase c || isUppercase c || inTables [titlecaseLetters] c

/-- Characters passed over when the case of a neighbour is sought. -/
def isCaseIgnorable : Char → Bool :=
  inTables [nonspacingMarks, enclosingMarks, formats, modifierLetters, modifierSymbols,
    alsoCaseIgnorable]

/-- What is drawn onto the character before it. -/
def isExtending : Char → Bool := inTables [nonspacingMarks, enclosingMarks, alsoExtending]

/-- What has a shape of its own on a page: letters, marks, numbers, punctuation, symbols, and the
plain space. -/
def isPrintable (c : Char) : Bool :=
  c == ' ' ||
    inTables [uppercaseLetters, lowercaseLetters, titlecaseLetters, modifierLetters, otherLetters,
      nonspacingMarks, spacingMarks, enclosingMarks, decimalDigits, letterNumbers, otherNumbers,
      connectors, dashes, openings, closings, initialQuotes, finalQuotes, otherPunctuation,
      mathSymbols, currencySymbols, modifierSymbols, otherSymbols] c

/-- The ten digits of ASCII. -/
def isDigit (c : Char) : Bool := '0' ≤ c && c ≤ '9'

/-- The value of a digit of a base up to 36, of ASCII alone; letters of either case. -/
def digitValue? (base : Nat) (c : Char) : Option Nat :=
  let value :=
    if '0' ≤ c && c ≤ '9' then some (c.toNat - '0'.toNat)
    else if 'a' ≤ c && c ≤ 'z' then some (c.toNat - 'a'.toNat + 10)
    else if 'A' ≤ c && c ≤ 'Z' then some (c.toNat - 'A'.toNat + 10)
    else none
  value.filter (· < base)

/-- Whether a character is a hexadecimal digit. -/
def isHexDigit (c : Char) : Bool := (digitValue? 16 c).isSome

/-- The character of a code point, unless it is a surrogate or out of range. -/
def charOfCode? (n : Nat) : Option Char :=
  if h : n.isValidChar then some (Char.ofNatAux n h) else none

end Wordsmith.Text
