import Wordsmith.Text.CharSet
import Wordsmith.Text.LetterCase.FoldingTable

/-!
# Sets without regard to case

Characters fall into classes that are equal but for case. A set is folded by adding the whole
class of each of its members.
-/

namespace Wordsmith.Text

open LetterCase

namespace LetterCase

/-- The pairs of a shift. -/
def Shift.pairs (s : Shift) : List (List Nat) :=
  (List.range ((s.codes.last - s.codes.first) / s.codes.step + 1)).map fun i =>
    let n := s.codes.first + i * s.codes.step
    [n, (n + s.distance).toNat]

/-- The classes of characters that are equal but for case, as far as they have several members. -/
def caseClasses : List (List Nat) := foldingClasses ++ foldingPairs.flatMap Shift.pairs

end LetterCase

namespace CharSet

/-- The set with all characters that are equal to one of its own but for case. -/
def folded (s : CharSet) : CharSet :=
  let met := caseClasses.filter fun codes => codes.any s.containsCode
  s.union (.ofCodes (met.flatten.mergeSort))

/-- The set with the ASCII letters that are equal to one of its own but for case. -/
def asciiFolded (s : CharSet) : CharSet :=
  let letters := (List.range 128).map Char.ofNat |>.filter fun c =>
    c.isAlpha && (s.contains c.toLower || s.contains c.toUpper)
  s.union (.ofCodes (letters.map Char.toNat))

end CharSet

end Wordsmith.Text
