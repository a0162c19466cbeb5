import Wordsmith.Decimal.Reading
import Wordsmith.Reader.Basic
import Wordsmith.Text.Slice

/-!
# Blocks

A block is a choice among items. An item may begin with its weight, a number in parentheses;
without one it weighs 1.
-/

namespace Wordsmith

/-- One of the alternatives of a block. -/
structure BlockItem where
  weight : Float
  code : Passage

namespace BlockItem

/-- The weight that a text gives: a finite number that is not negative. -/
def weight? (text : String) : Option Float :=
  (Decimal.ofText? (Text.trimmed text)).filter fun w => w.isFinite && w ≥ 0

/-- An item with its weight taken off, if it begins with one. -/
def ofPassage (p : Passage) : BlockItem :=
  match p.tokens with
  | opener :: number :: closer :: _ =>
    if opener.kind = .leftParen ∧ number.kind = .text ∧ closer.kind = .rightParen then
      match weight? number.text with
      | some w => ⟨w, (p.range (p.start + 3) p.stop).trim⟩
      | none => ⟨1, p⟩
    else ⟨1, p⟩
  | _ => ⟨1, p⟩

end BlockItem

/-- The items of a block. -/
structure Block where
  items : Array BlockItem

namespace Block

/-- The scope of a block. -/
def scope : Scope := ⟨.leftCurly, .rightCurly, .all⟩

/-- Reads the items of a block whose opener has just been read. -/
def readItems : Scan (List Passage) := Scan.arguments scope .pipe

/-- The block with the given items. -/
def ofPassages (ps : List Passage) : Block := ⟨(ps.map BlockItem.ofPassage).toArray⟩

/-- The number of items. -/
def size (b : Block) : Nat := b.items.size

/-- The weights of the items. -/
def weights (b : Block) : List Float := b.items.toList.map (·.weight)

@[simp]
theorem length_weights (b : Block) : b.weights.length = b.size := by simp [weights, size]

/-- The weights added up from the left. -/
def totalWeight (b : Block) : Float := b.weights.foldl (· + ·) 0

/-- Whether all items weigh 1. -/
def isUniform (b : Block) : Bool := b.weights.all (· == 1)

end Block

end Wordsmith
