import Wordsmith.Text.Property

/-!
# Reading whole numbers

Counts, seeds and integers are read from texts of digits alone. A plus sign is allowed in front,
blanks and separators are not, and a number beyond its word is none at all.
-/

namespace Wordsmith.Text

/-- The number that the digits write in a base, if they are digits of it and at least one. -/
def digits? (base : Nat) : List Char → Option Nat
  | [] => none
  | cs => cs.foldlM (fun n c => (digitValue? base c).map (n * base + ·)) 0

/-- One more than the largest 64-bit word. -/
def wordSize : Nat := UInt64.size

/-- Half of the 64-bit words: one more than the largest integer. -/
def halfWordSize : Nat := 0x8000000000000000

/-- A number of 64 bits without sign, in a base; a plus sign may stand in front. -/
def wordIn? (base : Nat) (cs : List Char) : Option Nat :=
  let number := match cs with
    | '+' :: rest => digits? base rest
    | _ => digits? base cs
  number.filter (· < wordSize)

/-- A decimal number of 64 bits without sign; a plus sign may stand in front. -/
def word? (s : String) : Option Nat := wordIn? 10 s.toList

/-- A decimal integer of 64 bits; a sign may stand in front. -/
def integer? (s : String) : Option Int :=
  match s.toList with
  | '-' :: rest => ((digits? 10 rest).filter (· ≤ halfWordSize)).map fun n => -(n : Int)
  | '+' :: rest => ((digits? 10 rest).filter (· < halfWordSize)).map Int.ofNat
  | cs => ((digits? 10 cs).filter (· < halfWordSize)).map Int.ofNat

end Wordsmith.Text
