import Wordsmith.Pattern
import Wordsmith.Text.LetterCase
import Wordsmith.Text.Slice

/-!
# Attributes

Attributes shape the next block: how often it is repeated, what stands between, before and after
the repetitions, which order deals the items and how likely the block is at all. They wait in a
queue until a block takes them, and a persistence says what is left in the queue then.
-/

namespace Wordsmith

/-- How often a block is repeated. -/
inductive Repetitions where
  | count (n : Nat)
  /-- Once for every item. -/
  | each
deriving DecidableEq, Repr

/-- What becomes of attributes that a block took. -/
inductive Persistence where
  /-- They are gone. -/
  | off
  /-- They stay for all blocks. -/
  | on
  /-- They stay for one more block. -/
  | once
deriving DecidableEq, Repr

/-- Reads a persistence by one of its names, in any case of letters, or says what is wrong. -/
def Persistence.ofText (s : String) : Except String Persistence :=
  match Text.asciiLower (Text.trimmed s) with
  | "off" | "no" => .ok off
  | "on" | "yes" => .ok on
  | "once" => .ok once
  | other => .error s!"invalid persistence mode '{other}'"

/-- What shapes a block. -/
structure Attributes where
  repetitions : Repetitions
  /-- What stands between repetitions. -/
  separator : Option Passage
  /-- What stands before each repetition. -/
  before : Option Passage
  /-- What stands after each repetition. -/
  after : Option Passage
  /-- The name of the order that deals the items. -/
  order : Option String
  /-- The chance in percent that the block runs. -/
  chance : Nat
  persistence : Persistence

namespace Attributes

/-- A block that runs once. -/
def plain : Attributes := ⟨.count 1, none, none, none, none, 100, .off⟩

/-- What is left in the queue after a block took the attributes. -/
def afterTake (a : Attributes) : Attributes :=
  match a.persistence with
  | .off => plain
  | .on => a
  | .once => { a with persistence := .off }

end Attributes

end Wordsmith
