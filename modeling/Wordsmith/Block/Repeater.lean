import Wordsmith.Block.Attributes
import Wordsmith.Block.Basic

/-!
# Repeaters

A repeater counts the repetitions of a block that is running. While a separator runs it is
suppressed: it shows index 0 and none of its predicates holds.
-/

namespace Wordsmith

/-- The repetitions of a running block. -/
structure Repeater where
  id : Nat
  /-- The frame that entered the block. -/
  base : Nat
  block : Block
  attributes : Attributes
  /-- The repetitions that are over. -/
  index : Nat
  /-- All repetitions. -/
  count : Nat
  /-- How many separators are running. -/
  suppressed : Nat

namespace Repeater

/-- The repeater of a block that begins. -/
def start (id base : Nat) (block : Block) (attributes : Attributes) : Repeater where
  id := id
  base := base
  block := block
  attributes := attributes
  index := 0
  count := match attributes.repetitions with
    | .count n => n
    | .each => block.size
  suppressed := 0

/-- Whether all repetitions are over. -/
def isFinished (r : Repeater) : Bool := r.count ≤ r.index

/-- Ends all repetitions. -/
def finish (r : Repeater) : Repeater := { r with index := r.count }

/-- Ends one repetition, if any is left. -/
def advance (r : Repeater) : Repeater :=
  if r.isFinished then r else { r with index := r.index + 1 }

/-- Begins a separator. -/
def suppress (r : Repeater) : Repeater := { r with suppressed := r.suppressed + 1 }

/-- Ends a separator. -/
def restore (r : Repeater) : Repeater := { r with suppressed := r.suppressed - 1 }

/-- Whether a separator is running. -/
def isSuppressed (r : Repeater) : Bool := 0 < r.suppressed

/-- The index that patterns see. -/
def visibleIndex (r : Repeater) : Nat := if r.isSuppressed then 0 else r.index

/-! ## Predicates -/

/-- Whether this is the first repetition. -/
def isFirst (r : Repeater) : Bool := !r.isSuppressed && r.index == 0

/-- Whether this is the last repetition. -/
def isLast (r : Repeater) : Bool := !r.isSuppressed && r.index + 1 == r.count

/-- Whether this is neither the first repetition nor the last. -/
def isMiddle (r : Repeater) : Bool := !r.isSuppressed && r.index != 0 && r.index + 1 != r.count

/-- Whether this is the first, third, fifth, … repetition. -/
def isOdd (r : Repeater) : Bool := !r.isSuppressed && r.index % 2 == 0

/-- Whether this is the second, fourth, sixth, … repetition. -/
def isEven (r : Repeater) : Bool := !r.isSuppressed && r.index % 2 == 1

/-- Whether the index is the offset or a number of intervals beyond it. -/
def isNth (r : Repeater) (offset interval : Nat) : Bool :=
  !r.isSuppressed && 0 < interval && offset ≤ r.index && (r.index - offset) % interval == 0

end Repeater

end Wordsmith
