import Wordsmith.Draw.Generator
import Wordsmith.Text.Property
import Wordsmith.Total

/-!
# Sets of characters

A set of characters is written as single characters and ranges of them, `a-z0-9_`. Each range
counts for itself, so a character that several ranges hold is drawn more often.
-/

namespace Wordsmith

/-- All code points from one to another. -/
structure CodeRange where
  first : Nat
  last : Nat
deriving DecidableEq, Repr

namespace CodeRange

/-- The number of code points. -/
def size (r : CodeRange) : Nat := r.last + 1 - r.first

/-- The code point at a place. -/
def pick? : List CodeRange → Nat → Option Nat
  | [], _ => none
  | r :: rest, n => if n < r.size then some (r.first + n) else pick? rest (n - r.size)

end CodeRange

/-- Ranges of code points to draw from. -/
structure CharacterSet where
  ranges : List CodeRange
deriving DecidableEq, Repr

namespace CharacterSet

/-- Reads ranges; one that ends before it begins spoils them all. -/
def rangesOf? : List Char → Option (List CodeRange)
  | [] => some []
  | a :: '-' :: b :: rest =>
    if b < a then none else (rangesOf? rest).map (⟨a.toNat, b.toNat⟩ :: ·)
  | c :: rest => (rangesOf? rest).map (⟨c.toNat, c.toNat⟩ :: ·)

/-- Reads a set that has at least one range. -/
def ofText? (s : String) : Option CharacterSet :=
  match rangesOf? s.toList with
  | none | some [] => none
  | some (r :: rest) => some ⟨r :: rest⟩

/-- The number of code points in all ranges. -/
def size (s : CharacterSet) : Nat := total (s.ranges.map (·.size))

/-- Draws a character. The draw gives none if it falls on a code point that is no character. -/
def draw (s : CharacterSet) (g : Generator) : Option Char × Generator :=
  let (w, g) := g.next
  ((CodeRange.pick? s.ranges (w.toNat % s.size)).bind Text.charOfCode?, g)

/-- Draws a number of times, behind the characters drawn before, which stand in reverse. -/
def drawOnto (s : CharacterSet) : Nat → Generator → List Char → List Char × Generator
  | 0, g, drawn => (drawn, g)
  | n + 1, g, drawn =>
    let (c, g) := s.draw g
    s.drawOnto n g (c.toList ++ drawn)

/-- Draws a number of times. -/
def drawMany (s : CharacterSet) (n : Nat) (g : Generator) : String × Generator :=
  let (drawn, g) := s.drawOnto n g []
  (.ofList drawn.reverse, g)

end CharacterSet

end Wordsmith
