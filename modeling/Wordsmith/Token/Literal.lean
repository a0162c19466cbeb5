import Wordsmith.Text.Count
import Wordsmith.Text.Slice

/-!
# What literals stand for

Escapes, quoted constants and regular expressions are kept as written in their tokens. Here they
are read: an escape as a character and how often it is printed, a constant as its text, a regular
expression as its body and whether it ignores case.
-/

namespace Wordsmith

open Text

/-- What an escape names. -/
inductive EscapeBody where
  /-- A letter with a meaning, or any other character for itself. -/
  | code (c : Char)
  /-- A character by its code point. -/
  | unicode (c : Char)
deriving DecidableEq, Repr

/-- An escape, read. -/
structure Escape where
  /-- How often it is printed. -/
  count : Nat
  body : EscapeBody
deriving DecidableEq, Repr

namespace Escape

/-- What stands behind the count. Four bytes behind a `u` must be the digits of a character. -/
def body? : List Char → Option EscapeBody
  | 'u' :: hex =>
    if byteLength hex = 4 then ((wordIn? 16 hex).bind charOfCode?).map .unicode
    else if hex = [] then some (.code 'u')
    else none
  | [c] => some (.code c)
  | _ => none

/-- Reads an escape. A count is digits in front of the first comma; it must fit in a word. -/
def ofText? (text : String) : Option Escape :=
  match text.toList with
  | '\\' :: rest =>
    match splitFirst ',' rest with
    | some (d :: digits, after) =>
      if (d :: digits).all isDigit then
        (wordIn? 10 (d :: digits)).bind fun count => (body? after).map fun body => ⟨count, body⟩
      else (body? rest).map fun body => ⟨1, body⟩
    | _ => (body? rest).map fun body => ⟨1, body⟩
  | _ => none

end Escape

/-- The text with every pair of quotes made one quote. -/
def collapseQuotes : List Char → List Char
  | '"' :: '"' :: rest => '"' :: collapseQuotes rest
  | c :: rest => c :: collapseQuotes rest
  | [] => []

/-- The text without the quotes around it; as it is, unless quotes stand on both sides. -/
def unquoted : List Char → List Char
  | '"' :: rest => if rest.getLast? = some '"' then rest.dropLast else '"' :: rest
  | cs => cs

/-- The text that a quoted constant stands for. -/
def constantText (literal : String) : String :=
  .ofList (collapseQuotes (unquoted literal.toList))

/-- A regular expression literal, read. -/
structure RegexLiteral where
  body : String
  ignoresCase : Bool
deriving DecidableEq, Repr

namespace RegexLiteral

/-- The text with every escaped backtick made a plain one. -/
def plainBackticks : List Char → List Char
  | '\\' :: '\x60' :: rest => '\x60' :: plainBackticks rest
  | c :: rest => c :: plainBackticks rest
  | [] => []

/-- Reads a literal in backticks with an optional `i` behind it. -/
def ofText? (text : String) : Option RegexLiteral :=
  match text.toList with
  | '\x60' :: rest =>
    match rest.reverse with
    | 'i' :: '\x60' :: body => some ⟨.ofList (plainBackticks body.reverse), true⟩
    | '\x60' :: body => some ⟨.ofList (plainBackticks body.reverse), false⟩
    | _ => none
  | _ => none

end RegexLiteral

end Wordsmith
