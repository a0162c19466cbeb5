import Wordsmith.Text.Count
import Wordsmith.Decimal.Binary

/-!
# Reading decimals

A decimal is digits with at most one point among them, at least one digit, perhaps a sign in front
and a power of ten behind. The words for infinity and for what is no number are read, too.
-/

namespace Wordsmith.Decimal

open Text

/-- A sign in front of a text, and what follows it. -/
def sign : List Char → Bool × List Char
  | '-' :: rest => (true, rest)
  | '+' :: rest => (false, rest)
  | cs => (false, cs)

/-- An unsigned decimal: digits, and the power of ten that they are multiplied with. -/
structure Unsigned where
  digits : List Char
  exponent : Int

namespace Unsigned

/-- The power of ten behind a decimal. -/
def exponentOf? : List Char → Option Int
  | [] => some 0
  | e :: rest =>
    if e = 'e' || e = 'E' then
      let (negative, cs) := sign rest
      (digits? 10 cs).map fun n => if negative then -(n : Int) else n
    else none

/-- Reads a decimal without sign. -/
def ofChars? (cs : List Char) : Option Unsigned :=
  let whole := cs.takeWhile isDigit
  let rest := cs.dropWhile isDigit
  let (fraction, rest) := match rest with
    | '.' :: r => (r.takeWhile isDigit, r.dropWhile isDigit)
    | r => ([], r)
  if whole ++ fraction = [] then none
  else (exponentOf? rest).map fun e => ⟨whole ++ fraction, e - fraction.length⟩

/-- The float nearest to the decimal. What is far outside the range of floats is cut off before
any power of ten is computed. -/
def toFloat (u : Unsigned) : Float :=
  let significant := u.digits.dropWhile (· == '0')
  let magnitude : Int := significant.length + u.exponent
  if significant = [] || magnitude < -400 then 0
  else if 400 < magnitude then 1 / 0
  else
    Float.ofScientific ((digits? 10 significant).getD 0) (u.exponent < 0) u.exponent.natAbs

end Unsigned

/-- The value of a word for a number. -/
def wordValue? (cs : List Char) : Option Float :=
  match String.ofList (cs.map Char.toLower) with
  | "inf" | "infinity" => some (1 / 0)
  | "nan" => some (0 / 0)
  | _ => none

/-- Reads a decimal. Blanks are not allowed. -/
def ofText? (s : String) : Option Float :=
  let (negative, cs) := sign s.toList
  let magnitude := wordValue? cs <|> (Unsigned.ofChars? cs).map Unsigned.toFloat
  magnitude.map fun x => if negative then -x else x

end Wordsmith.Decimal
