/-!
# Strides of code points

A property of characters is kept as a list of strides in ascending order. Alternating runs of
capital and small letters are common, so a stride may leave out every second code point.
-/

namespace Wordsmith.Text

/-- The code points `first`, `first + step`, and so on up to `last`. -/
structure Stride where
  /-- The lowest code point. -/
  first : Nat
  /-- The highest code point. -/
  last : Nat
  /-- The distance between neighbours. -/
  step : Nat

namespace Stride

/-- Whether the stride goes through a code point. -/
def holds (s : Stride) (n : Nat) : Bool :=
  s.first ≤ n && n ≤ s.last && (n - s.first) % s.step == 0

/-- Whether one of the strides goes through a code point. The strides are in ascending order,
so the search ends at the first that begins above it. -/
def anyHolds : List Stride → Nat → Bool
  | [], _ => false
  | s :: rest, n => if n < s.first then false else s.holds n || anyHolds rest n

end Stride

end Wordsmith.Text
