/-!
# Ranges of octets

Text is searched as UTF-8, where a character is one to four octets. A range of characters is cut
into pieces that each are ranges of octets at every place: first where the number of octets
changes, then at the borders of the blocks in which the last octets run through all their values.
-/

namespace Wordsmith.Regex.Utf8

/-- The octets from `first` to `last`. -/
structure OctetRange where
  first : Nat
  last : Nat
deriving DecidableEq, Repr

/-- The last octet of a character, or one in its middle. -/
def tail (n : Nat) : Nat := 0x80 + n % 0x40

/-- The octets of a code point. -/
def octets (n : Nat) : List Nat :=
  if n < 0x80 then [n]
  else if n < 0x800 then [0xC0 + n / 0x40, tail n]
  else if n < 0x10000 then [0xE0 + n / 0x1000, tail (n / 0x40), tail n]
  else [0xF0 + n / 0x40000, tail (n / 0x1000), tail (n / 0x40), tail n]

/-- The last code points of one, two and three octets. -/
def lengthCuts : List Nat := [0x7F, 0x7FF, 0xFFFF]

/-- Where a range must be cut so that it begins or ends with whole blocks of a size. -/
def blockCuts (first last size : Nat) : List Nat :=
  if first / size = last / size then []
  else
    (if first % size = 0 then [] else [first - first % size + size - 1]) ++
      (if last % size = size - 1 then [] else [last - last % size - 1])

/-- The places behind which a range may be cut, the first one to be taken in front. -/
def cuts (first last : Nat) : List Nat :=
  lengthCuts ++
    if last < 0x80 then [] else [0x40, 0x1000, 0x40000].flatMap (blockCuts first last)

/-- The ranges of octets of a range of code points, in ascending order. -/
def sequences (first last : Nat) : List (List OctetRange) :=
  match h : (cuts first last).find? fun n => decide (first ≤ n ∧ n < last) with
  | some n =>
    have : first ≤ n ∧ n < last := by simpa using List.find?_some h
    sequences first n ++ sequences (n + 1) last
  | none => [(octets first).zipWith OctetRange.mk (octets last)]
termination_by last - first

end Wordsmith.Regex.Utf8
