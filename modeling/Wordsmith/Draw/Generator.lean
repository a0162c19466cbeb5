import Wordsmith.Draw.Word

/-!
# Generators

A generator is a stack of branches, each a seed with the generation of its next draw. Only the
top branch is drawn from. Branching puts a new branch on top, whose seed comes from a key and the
seed below; merging takes it away again, and the branch below goes on where it stopped. The root
cannot be taken away.
-/

namespace Wordsmith

/-- A seed and the generation of the next draw. -/
structure Branch where
  seed : UInt64
  generation : UInt64
deriving DecidableEq, Repr

/-- A stack of branches that is never empty. -/
structure Generator where
  /-- The branch that is drawn from. -/
  top : Branch
  /-- The branches under it, the nearest first. -/
  below : List Branch
deriving DecidableEq, Repr

namespace Generator

/-- The generator whose root has a seed. -/
def ofSeed (seed : UInt64) : Generator := ⟨⟨seed, 0⟩, []⟩

/-- The seed of the active branch. -/
def seed (g : Generator) : UInt64 := g.top.seed

/-- The generation of the active branch. -/
def generation (g : Generator) : UInt64 := g.top.generation

/-- The number of branches. -/
def depth (g : Generator) : Nat := g.below.length + 1

/-- The lowest branch. -/
def root (g : Generator) : Branch := g.below.getLast?.getD g.top

/-- Sets the generation of the active branch. -/
def setGeneration (g : Generator) (n : UInt64) : Generator :=
  { g with top := { g.top with generation := n } }

/-- The next word, without drawing it. -/
def peek (g : Generator) : UInt64 := Draw.word g.seed g.generation

/-- The word at any generation of the active branch. -/
def peekAt (g : Generator) (n : UInt64) : UInt64 := Draw.word g.seed n

/-- Draws a word. -/
def next (g : Generator) : UInt64 × Generator := (g.peek, g.setGeneration (g.generation + 1))

/-- Draws a number of 31 bits. -/
def nextSmall (g : Generator) : Nat × Generator :=
  (g.next.1.toNat % 0x80000000, g.next.2)

/-- Draws a number below a bound. A bound of zero costs a draw, too, and gives zero. -/
def lessThan (g : Generator) (bound : Nat) : Nat × Generator :=
  (if bound = 0 then 0 else g.nextSmall.1 % bound, g.nextSmall.2)

theorem lessThan_lt (g : Generator) {bound : Nat} (h : 0 < bound) :
    (g.lessThan bound).1 < bound := by
  simp only [lessThan, Nat.ne_of_gt h, if_false]
  exact Nat.mod_lt _ h

/-- Draws an integer from `low` up to but not including `high`; `low` if there is none. -/
def range (g : Generator) (low high : Int) : Int × Generator :=
  (if high ≤ low then low else low + g.nextSmall.1 % (high - low), g.nextSmall.2)

/-- Draws a fraction of one with 53 bits. -/
def fraction (g : Generator) : Float × Generator :=
  ((g.next.1 >>> 11).toFloat / Float.ofNat 0x20000000000000, g.next.2)

/-- Draws the upper half of a word. -/
def nextHalf (g : Generator) : UInt32 × Generator := ((g.next.1 >>> 32).toUInt32, g.next.2)

/-- The bytes of a word, the lowest first. -/
def wordBytes (w : UInt64) : List UInt8 :=
  (List.range 8).map fun i => (w >>> (8 * UInt64.ofNat i)).toUInt8

/-- Draws bytes, up to eight from one word. -/
def bytes (g : Generator) (n : Nat) : List UInt8 × Generator :=
  if n = 0 then ([], g)
  else
    let (w, g) := g.next
    let (rest, g) := g.bytes (n - 8)
    ((wordBytes w).take n ++ rest, g)
termination_by n

/-- Puts a branch on top, with a seed from a key and the active seed. -/
def branch (g : Generator) (key : UInt64) : Generator :=
  ⟨⟨Draw.word key g.seed, 0⟩, g.top :: g.below⟩

/-- Puts a branch on top, with a seed from a name and the active seed. -/
def branchNamed (g : Generator) (name : String) : Generator := g.branch (Draw.keyWord name)

/-- Takes the top branch away and says whether there was one over the root. -/
def merge (g : Generator) : Bool × Generator :=
  match g.below with
  | [] => (false, g)
  | b :: rest => (true, ⟨b, rest⟩)

/-- Takes all branches off the root and rewinds it. -/
def reset (g : Generator) : Generator := ofSeed g.root.seed

end Generator

end Wordsmith
