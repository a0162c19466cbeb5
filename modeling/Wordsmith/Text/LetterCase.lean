import Wordsmith.Text.LetterCase.Table
import Wordsmith.Text.Property

/-!
# Upper and lower case

Case is mapped character by character; a character may become several, as the sharp s does in
upper case. Only the capital sigma looks around itself: at the end of a word its small letter has
a form of its own.
-/

namespace Wordsmith.Text

open LetterCase

namespace LetterCase

/-- How far the first shift that holds a code point moves it. The shifts are in ascending
order. -/
def distance? : List Shift → Nat → Option Int
  | [], _ => none
  | s :: rest, n =>
    if n < s.codes.first then none
    else if s.codes.holds n then some s.distance
    else distance? rest n

/-- The character that shifts move a character to. -/
def shifted (shifts : List Shift) (c : Char) : Char :=
  match distance? shifts c.toNat with
  | some d => Char.ofNat (c.toNat + d).toNat
  | none => c

/-- The expansion of a code point. The expansions are in ascending order. -/
def expansion? : List (Nat × List Nat) → Nat → Option (List Nat)
  | [], _ => none
  | (code, codes) :: rest, n =>
    if n < code then none else if n = code then some codes else expansion? rest n

end LetterCase

/-- The upper case of a character. -/
def upperOf (c : Char) : List Char :=
  match expansion? upperExpansions c.toNat with
  | some codes => codes.map Char.ofNat
  | none => [shifted upperShifts c]

/-- The lower case of a character by itself. Only the capital I with a dot becomes two: the
letter and its dot. -/
def lowerOf (c : Char) : List Char :=
  if c.toNat = 0x130 then ['i', Char.ofNat 0x307] else [shifted lowerShifts c]

/-- A text in upper case. -/
def upper (cs : List Char) : List Char := cs.flatMap upperOf

/-- Whether the nearest character that is not passed over has a case. -/
def meetsCased (cs : List Char) : Bool :=
  match cs.dropWhile isCaseIgnorable with
  | [] => false
  | c :: _ => isCased c

/-- The capital sigma. -/
def capitalSigma : Char := Char.ofNat 0x3A3

/-- The small letter of a capital sigma between what stands before it, read backwards, and what
follows. -/
def smallSigma (before after : List Char) : Char :=
  if meetsCased before && !meetsCased after then Char.ofNat 0x3C2 else Char.ofNat 0x3C3

/-- A text in lower case, given what stands before it, read backwards. -/
def lowerAfter : List Char → List Char → List Char
  | _, [] => []
  | before, c :: rest =>
    (if c = capitalSigma then [smallSigma before rest] else lowerOf c) ++
      lowerAfter (c :: before) rest

/-- A text in lower case. -/
def lower (cs : List Char) : List Char := lowerAfter [] cs

/-- A text in lower case. -/
def lowered (s : String) : String := .ofList (lower s.toList)

/-- A text in upper case. -/
def uppered (s : String) : String := .ofList (upper s.toList)

/-- A text with its ASCII letters in lower case. -/
def asciiLower (s : String) : String := s.map Char.toLower

end Wordsmith.Text
