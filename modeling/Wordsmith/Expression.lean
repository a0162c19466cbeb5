import Wordsmith.Decimal.Reading
import Wordsmith.Text.Slice

/-!
# Arithmetic

An expression is a sum of products of signed atoms; an atom is a number or an expression in
parentheses. Blanks are taken out first. Operators of one level group from the left, signs bind
tighter than any of them, and an expression is read and computed in one pass.

Each reading function takes the characters that are left and returns those it did not need. An
atom takes at least one character, and the functions above it ask for an atom first, so the
reading ends: the characters left get fewer, or stay the same while the level goes down.
-/

namespace Wordsmith

/-- What can be wrong with an expression. -/
inductive ExpressionError where
  | unexpected (c : Char)
  | unexpectedEnd
  /-- Digits and points that are no number. -/
  | number (text : String)
  | divisionByZero
deriving DecidableEq, Repr

namespace ExpressionError

/-- The text of the error. -/
def message : ExpressionError → String
  | unexpected c => s!"unexpected '{c}' in expression"
  | unexpectedEnd => "unexpected end of expression"
  | number text => s!"invalid number '{text}'"
  | divisionByZero => "division by zero"

end ExpressionError

namespace Expression

open Text

/-- A value with the characters behind its text, fewer than there were. -/
abbrev Parsed (cs : List Char) : Type :=
  Except ExpressionError (Float × { rest : List Char // rest.length < cs.length })

/-- Whether a character can stand in a number. -/
def isNumberPart (c : Char) : Bool := isDigit c || c == '.'

/-- The product, quotient or remainder of two values. -/
def multiply (op : Char) (x y : Float) : Except ExpressionError Float :=
  if op = '*' then .ok (x * y)
  else if y == 0 then .error .divisionByZero
  else .ok (if op = '/' then x / y else Decimal.remainder x y)

/-- The sum or difference of two values. -/
def add (op : Char) (x y : Float) : Float := if op = '+' then x + y else x - y

/-- The number at the front of a text that begins with a digit or a point. -/
def number (c : Char) (rest : List Char) : Parsed (c :: rest) :=
  let text := String.ofList (c :: rest.takeWhile isNumberPart)
  match Decimal.ofText? text with
  | some x =>
    .ok (x, ⟨rest.dropWhile isNumberPart,
      Nat.lt_succ_of_le (List.dropWhile_sublist isNumberPart).length_le⟩)
  | none => .error (.number text)

mutual

/-- A sum. -/
def sum (cs : List Char) : Parsed cs :=
  match product cs with
  | .error e => .error e
  | .ok (x, ⟨rest, h⟩) =>
    match sumTail x rest with
    | .error e => .error e
    | .ok (y, ⟨rest', h'⟩) => .ok (y, ⟨rest', Nat.lt_of_le_of_lt h' h⟩)
termination_by (cs.length, 3)

/-- The further terms of a sum that has a value so far. -/
def sumTail (x : Float) (cs : List Char) :
    Except ExpressionError (Float × { rest : List Char // rest.length ≤ cs.length }) :=
  match cs with
  | [] => .ok (x, ⟨[], Nat.le_refl _⟩)
  | op :: cs =>
    if op = '+' || op = '-' then
      match product cs with
      | .error e => .error e
      | .ok (y, ⟨rest, h⟩) =>
        match sumTail (add op x y) rest with
        | .error e => .error e
        | .ok (z, ⟨rest', h'⟩) =>
          .ok (z, ⟨rest', Nat.le_of_lt (Nat.lt_succ_of_lt (Nat.lt_of_le_of_lt h' h))⟩)
    else .ok (x, ⟨op :: cs, Nat.le_refl _⟩)
termination_by (cs.length, 0)

/-- A product. -/
def product (cs : List Char) : Parsed cs :=
  match signed cs with
  | .error e => .error e
  | .ok (x, ⟨rest, h⟩) =>
    match productTail x rest with
    | .error e => .error e
    | .ok (y, ⟨rest', h'⟩) => .ok (y, ⟨rest', Nat.lt_of_le_of_lt h' h⟩)
termination_by (cs.length, 2)

/-- The further factors of a product that has a value so far. -/
def productTail (x : Float) (cs : List Char) :
    Except ExpressionError (Float × { rest : List Char // rest.length ≤ cs.length }) :=
  match cs with
  | [] => .ok (x, ⟨[], Nat.le_refl _⟩)
  | op :: cs =>
    if op = '*' || op = '/' || op = '%' then
      match signed cs with
      | .error e => .error e
      | .ok (y, ⟨rest, h⟩) =>
        match multiply op x y with
        | .error e => .error e
        | .ok z =>
          match productTail z rest with
          | .error e => .error e
          | .ok (w, ⟨rest', h'⟩) =>
            .ok (w, ⟨rest', Nat.le_of_lt (Nat.lt_succ_of_lt (Nat.lt_of_le_of_lt h' h))⟩)
    else .ok (x, ⟨op :: cs, Nat.le_refl _⟩)
termination_by (cs.length, 0)

/-- An atom with signs in front of it. -/
def signed (cs : List Char) : Parsed cs :=
  match cs with
  | '-' :: rest =>
    match signed rest with
    | .error e => .error e
    | .ok (x, ⟨rest', h⟩) => .ok (-x, ⟨rest', Nat.lt_succ_of_lt h⟩)
  | '+' :: rest =>
    match signed rest with
    | .error e => .error e
    | .ok (x, ⟨rest', h⟩) => .ok (x, ⟨rest', Nat.lt_succ_of_lt h⟩)
  | cs => atom cs
termination_by (cs.length, 1)

/-- A number, or an expression in parentheses. -/
def atom (cs : List Char) : Parsed cs :=
  match cs with
  | [] => .error .unexpectedEnd
  | '(' :: rest =>
    match sum rest with
    | .error e => .error e
    | .ok (x, ⟨')' :: rest', h⟩) =>
      .ok (x, ⟨rest', Nat.lt_succ_of_lt (Nat.lt_of_succ_lt h)⟩)
    | .ok (_, ⟨c :: _, _⟩) => .error (.unexpected c)
    | .ok (_, ⟨[], _⟩) => .error .unexpectedEnd
  | c :: rest => if isNumberPart c then number c rest else .error (.unexpected c)
termination_by (cs.length, 0)

end

/-- The value of a text that is an expression as a whole. -/
def evaluate (text : String) : Except ExpressionError Float :=
  match sum (text.toList.filter fun c => !isBlank c) with
  | .error e => .error e
  | .ok (x, ⟨[], _⟩) => .ok x
  | .ok (_, ⟨c :: _, _⟩) => .error (.unexpected c)

/-- The integer that a float is, if it is one and small enough to be exact. -/
def asInteger? (x : Float) : Option Int :=
  match Decimal.Value.ofFloat x with
  | .finite negative b =>
    let magnitude := b.mantissaAt 0 / Nat.pow 2 (-b.exponent).toNat
    let exact := b.mantissaAt 0 % Nat.pow 2 (-b.exponent).toNat = 0
    if exact ∧ magnitude < 9000000000000000 then
      some (if negative then -(magnitude : Int) else magnitude)
    else none
  | _ => none

end Expression

end Wordsmith
