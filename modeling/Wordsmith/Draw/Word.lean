/-!
# Drawn words

A draw is a pure function of a seed and a generation: a counter is mixed into the seed, and two
rounds of multiplication and shifting spread every bit over the word. So a sequence of draws can
be replayed from any generation on, and names can be turned into seeds that do not depend on the
order in which they are met.
-/

namespace Wordsmith.Draw

/-- One round of mixing: the upper bits are folded onto the lower ones, then multiplied up. -/
def stir (shift factor z : UInt64) : UInt64 := (z ^^^ (z >>> shift)) * factor

/-- The word drawn from a seed at a generation. -/
def word (seed generation : UInt64) : UInt64 :=
  let z := seed ^^^ ((generation + 1) * 0x9E3779B97F4A7C15)
  let z := stir 27 0x94D049BB133111EB (stir 30 0xBF58476D1CE4E5B9 z)
  z ^^^ (z >>> 31)

/-! ## Words of names -/

/-- The number that bytes write, the lowest byte first. -/
def littleEndian (bytes : List UInt8) : UInt64 :=
  bytes.foldr (fun b n => n * 256 + b.toUInt64) 0

/-- The two halves of a full product, folded onto each other. -/
def foldedProduct (a b : UInt64) : UInt64 :=
  let product := a.toNat * b.toNat
  UInt64.ofNat product ^^^ UInt64.ofNat (product >>> 64)

/-- Two words that take up bytes. -/
structure Sponge where
  first : UInt64
  second : UInt64

namespace Sponge

/-- The sponge before any byte. -/
def dry : Sponge := ⟨0x243f6a8885a308d3, 0x13198a2e03707344⟩

/-- Takes up all full blocks of sixteen bytes. -/
def absorb (s : Sponge) (bytes : List UInt8) : Sponge :=
  if 16 ≤ bytes.length then
    let low := littleEndian (bytes.take 8)
    let high := littleEndian ((bytes.drop 8).take 8)
    absorb ⟨s.second, foldedProduct (s.first ^^^ low) (0xa4093822299f31d0 ^^^ high)⟩
      (bytes.drop 16)
  else s
termination_by bytes.length
decreasing_by simp only [List.length_drop]; omega

/-- Takes up two last words. -/
def finish (s : Sponge) (low high : UInt64) : Sponge := ⟨s.first ^^^ low, s.second ^^^ high⟩

end Sponge

/-- The sponge that has taken up the bytes. Short texts are covered by words that overlap, from
the front and from the back. -/
def soaked (bytes : List UInt8) : Sponge :=
  let n := bytes.length
  let last (k : Nat) : UInt64 := littleEndian (bytes.drop (n - k))
  let first (k : Nat) : UInt64 := littleEndian (bytes.take k)
  if n = 0 then .dry
  else if n < 4 then
    let middle := littleEndian ((bytes.drop (n / 2)).take 1)
    Sponge.dry.finish (first 1) ((last 1 <<< 8) ||| middle)
  else if n < 8 then Sponge.dry.finish (first 4) (last 4)
  else if n ≤ 16 then Sponge.dry.finish (first 8) (last 8)
  else
    (Sponge.dry.absorb (bytes.take (n - 1))).finish
      (littleEndian ((bytes.drop (n - 16)).take 8)) (last 8)

/-- The word of a name. The byte `0xff`, which no text holds, ends the name. -/
def keyWord (name : String) : UInt64 :=
  let bytes := name.toUTF8.toList
  let s := soaked bytes
  let factor : UInt64 := 0xf1357aea2e62a9c5
  let h := foldedProduct s.first s.second ^^^ UInt64.ofNat bytes.length
  let h := (h * factor + 0xff) * factor
  (h <<< 26) ||| (h >>> 38)

end Wordsmith.Draw
