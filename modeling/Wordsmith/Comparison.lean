import Wordsmith.Decimal.Reading
import Wordsmith.Text.LetterCase

/-!
# Comparisons

Two texts are compared as numbers if both are numbers, and by their characters otherwise. A number
that is none compares with nothing.
-/

namespace Wordsmith

/-- Two texts to be compared. -/
structure Comparison where
  left : String
  right : String
deriving DecidableEq, Repr

namespace Comparison

/-- The order of two numbers, unless one is not a number. -/
def orderOfFloats? (x y : Float) : Option Ordering :=
  if x < y then some .lt else if x == y then some .eq else if x > y then some .gt else none

/-- The order of the two texts. -/
def order? (c : Comparison) : Option Ordering :=
  match Decimal.ofText? c.left, Decimal.ofText? c.right with
  | some x, some y => orderOfFloats? x y
  | _, _ => some (compare c.left c.right)

/-- Whether a condition holds, if there is one of the name, in any case of letters. -/
def holds? (c : Comparison) (condition : String) : Option Bool :=
  let leftIsNumber := (Decimal.ofText? c.left).isSome
  let rightIsNumber := (Decimal.ofText? c.right).isSome
  match Text.asciiLower condition with
  | "equal" => some (c.order? == some .eq)
  | "not-equal" => some (c.order? != some .eq)
  | "less" => some (c.order? == some .lt)
  | "greater" => some (c.order? == some .gt)
  | "a-numeric" => some leftIsNumber
  | "b-numeric" => some rightIsNumber
  | "all-numeric" => some (leftIsNumber && rightIsNumber)
  | "none-numeric" => some (!leftIsNumber && !rightIsNumber)
  | _ => none

end Comparison

end Wordsmith
