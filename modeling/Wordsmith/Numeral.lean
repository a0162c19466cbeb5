import Wordsmith.Text.LetterCase
import Wordsmith.Text.Slice

/-!
# Writing integers

Integers are written in one of five ways: plainly, with the thousands set apart, as Roman numerals
in capital or small letters, or in English words. Roman numerals reach from one to 3999; outside
of that an integer is written plainly.
-/

namespace Wordsmith

/-- How integers are written. -/
inductive NumberFormat where
  | normal
  | group
  | roman
  | romanLower
  | verbal
deriving DecidableEq, Repr

namespace NumberFormat

/-- The name of a format. -/
def name : NumberFormat → String
  | normal => "normal"
  | group => "group"
  | roman => "roman"
  | romanLower => "roman-lower"
  | verbal => "verbal"

/-- Reads a format by one of its names, in any case of letters, or says what is wrong. -/
def ofText (s : String) : Except String NumberFormat :=
  match Text.asciiLower (Text.trimmed s) with
  | "normal" | "none" => .ok normal
  | "group" | "grouped" => .ok group
  | "roman" | "roman-upper" => .ok roman
  | "roman-lower" => .ok romanLower
  | "verbal" | "verbal-en" => .ok verbal
  | other => .error s!"invalid number format '{other}'"

end NumberFormat

namespace Numeral

/-! ## Groups of digits -/

/-- The digits of a number, highest first. -/
def digits (n : Nat) : List Char := Nat.toDigits 10 n

/-- The digits with a comma before every place, but the first, from which a multiple of three
digits is left. -/
def separate : List Char → List Char
  | [] => []
  | [c] => [c]
  | c :: rest => if rest.length % 3 = 0 then c :: ',' :: separate rest else c :: separate rest

/-- An integer with commas between its thousands. -/
def grouped (n : Int) : String :=
  let magnitude := separate (digits n.natAbs)
  .ofList (if n < 0 then '-' :: magnitude else magnitude)

/-! ## Roman numerals -/

/-- The values that have a sign or a pair of signs of their own, highest first. -/
def romanSigns : List (Nat × String) :=
  [(1000, "M"), (900, "CM"), (500, "D"), (400, "CD"), (100, "C"), (90, "XC"), (50, "L"),
    (40, "XL"), (10, "X"), (9, "IX"), (5, "V"), (4, "IV"), (1, "I")]

/-- Writes each value as often as it goes into what is left. -/
def romanFrom : List (Nat × String) → Nat → String
  | [], _ => ""
  | (value, sign) :: rest, n =>
    String.join (List.replicate (n / value) sign) ++ romanFrom rest (n % value)

/-- The Roman numeral of a number from 1 to 3999. -/
def roman? (n : Int) : Option String :=
  if 1 ≤ n ∧ n < 4000 then some (romanFrom romanSigns n.toNat) else none

/-! ## English words -/

/-- The numbers below twenty. -/
def ones : List String :=
  ["zero", "one", "two", "three", "four", "five", "six", "seven", "eight", "nine", "ten",
    "eleven", "twelve", "thirteen", "fourteen", "fifteen", "sixteen", "seventeen", "eighteen",
    "nineteen"]

/-- The tens from twenty on; the first two places are not used. -/
def tens : List String :=
  ["", "", "twenty", "thirty", "forty", "fifty", "sixty", "seventy", "eighty", "ninety"]

/-- The powers of a thousand. -/
def scales : List String :=
  ["", "thousand", "million", "billion", "trillion", "quadrillion", "quintillion"]

/-- A number from 1 to 99 in words. -/
def wordsBelowHundred (n : Nat) : String :=
  if n < 20 then ones.getD n ""
  else if n % 10 = 0 then tens.getD (n / 10) ""
  else tens.getD (n / 10) "" ++ "-" ++ ones.getD (n % 10) ""

/-- A number from 1 to 999 in words. -/
def wordsBelowThousand (n : Nat) : String :=
  let hundreds := if 100 ≤ n then [ones.getD (n / 100) "" ++ " hundred"] else []
  let rest := if n % 100 = 0 then [] else [wordsBelowHundred (n % 100)]
  " ".intercalate (hundreds ++ rest)

/-- The groups of three digits that are not zero, with their powers of a thousand, highest
first. -/
def groups (n scale : Nat) : List (Nat × Nat) :=
  if n = 0 then []
  else
    groups (n / 1000) (scale + 1) ++ (if n % 1000 = 0 then [] else [(n % 1000, scale)])
termination_by n

/-- One group in words, with the name of its power. -/
def groupWords (g : Nat × Nat) : String :=
  if g.2 = 0 then wordsBelowThousand g.1 else wordsBelowThousand g.1 ++ " " ++ scales.getD g.2 ""

/-- An integer in words. -/
def words (n : Int) : String :=
  if n = 0 then "zero"
  else
    let magnitude := " ".intercalate ((groups n.natAbs 0).map groupWords)
    if n < 0 then "negative " ++ magnitude else magnitude

end Numeral

/-- Writes an integer in a format. -/
def NumberFormat.write (f : NumberFormat) (n : Int) : String :=
  match f with
  | .normal => toString n
  | .group => Numeral.grouped n
  | .roman => (Numeral.roman? n).getD (toString n)
  | .romanLower => ((Numeral.roman? n).map Text.asciiLower).getD (toString n)
  | .verbal => Numeral.words n

end Wordsmith
