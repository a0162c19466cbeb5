import Wordsmith.Channel.Stack
import Wordsmith.Comparison
import Wordsmith.Decimal.Shortest
import Wordsmith.Draw.Characters
import Wordsmith.Machine.Frame
import Wordsmith.Numeral
import Wordsmith.Order.Shared
import Wordsmith.RunError
import Wordsmith.Vocabulary.Source

/-!
# Scenes

A tag does not see the frames of a run. What it can read and change is its scene: the registers of
the run, and the output that is being printed to.
-/

namespace Wordsmith

/-- Ways to save work that change no answer. -/
structure Shortcuts where
  /-- Plain arguments are not run. -/
  literals : Bool
  /-- Blocks are read only once. -/
  blocks : Bool
deriving DecidableEq, Repr

/-- All shortcuts. -/
def Shortcuts.all : Shortcuts := ⟨true, true⟩

/-- What a run is given and never changes. -/
structure Setting where
  vocabulary : WordSource
  /-- The functions of the host. -/
  hooks : Named (List String → String)
  /-- What is printed for a query that finds nothing. -/
  sentinel : String
  /-- Whether a query that finds nothing is a fault. -/
  strictQueries : Bool
  /-- The most frames at a time. -/
  maxDepth : Nat
  shortcuts : Shortcuts

/-- What a run remembers besides its frames and their outputs. -/
structure Registers where
  generator : Generator
  /-- The repeaters of the running blocks, the innermost first. -/
  repeaters : List Repeater
  /-- The attributes that wait for the next block. -/
  attributes : Attributes
  orders : SharedOrders
  budget : Budget
  /-- Whether the last condition failed, so that an alternative may follow. -/
  elseArmed : Bool
  /-- The comparisons that are active, the innermost first. -/
  comparisons : List Comparison
  /-- The arguments of the subroutines that are running, the innermost first. -/
  arguments : List (Named Argument)
  /-- The matches whose code is running, the innermost first. -/
  matched : List Regex.Match
  carriers : CarrierMemory
  numberFormat : NumberFormat
  flags : List String
  subroutines : Named Subroutine

namespace Registers

/-- The innermost repeater. -/
def repeater? (r : Registers) : Option Repeater := r.repeaters.head?

/-- The repeater with an id. -/
def findRepeater? (r : Registers) (id : Nat) : Option Repeater := r.repeaters.find? (·.id == id)

/-- Changes the repeater with an id. -/
def modifyRepeater (r : Registers) (id : Nat) (f : Repeater → Repeater) : Registers :=
  { r with repeaters := r.repeaters.map fun x => if x.id = id then f x else x }

/-- Removes the repeater with an id. -/
def removeRepeater (r : Registers) (id : Nat) : Registers :=
  { r with repeaters := r.repeaters.filter (·.id != id) }

/-- Takes the top branch off the generator. -/
def mergeBranch (r : Registers) : Registers := { r with generator := r.generator.merge.2 }

/-- Whether a flag is set. -/
def hasFlag (r : Registers) (flag : String) : Bool := r.flags.contains flag

/-- Sets a flag. -/
def setFlag (r : Registers) (flag : String) : Registers :=
  if r.hasFlag flag then r else { r with flags := flag :: r.flags }

/-- Takes a flag away. -/
def clearFlag (r : Registers) (flag : String) : Registers :=
  { r with flags := r.flags.filter (· != flag) }

end Registers

/-- The registers and the output that is being printed to. -/
structure Scene where
  registers : Registers
  output : ChannelStack

/-- Something done in a scene. -/
abbrev Act : Type → Type := StateT Scene (Except Fault)

namespace Act

/-- Something read from the registers. -/
def read (f : Registers → α) : Act α := do return f (← get).registers

/-- Changes the registers. -/
def change (f : Registers → Registers) : Act Unit :=
  modify fun s => { s with registers := f s.registers }

/-- Draws from the generator. -/
def draw (f : Generator → α × Generator) : Act α :=
  modifyGet fun s =>
    let (a, g) := f s.registers.generator
    (a, { s with registers := { s.registers with generator := g } })

/-- Changes the attributes of the next block. -/
def shape (f : Attributes → Attributes) : Act Unit :=
  change fun r => { r with attributes := f r.attributes }

/-- Changes the shared orders, and says something about them. -/
def order (f : SharedOrders → α × SharedOrders) : Act α :=
  modifyGet fun s =>
    let (a, orders) := f s.registers.orders
    (a, { s with registers := { s.registers with orders := orders } })

/-- Changes the output at no cost. -/
def channels (f : ChannelStack → ChannelStack) : Act Unit :=
  modify fun s => { s with output := f s.output }

/-- Changes the output and pays for it. -/
def spend (f : ChannelStack → Budget → Except LimitExceeded (ChannelStack × Budget)) : Act Unit :=
  fun s =>
    match f s.output s.registers.budget with
    | .error e => .error (.exceeded e)
    | .ok (output, budget) =>
      .ok ((), { s with output := output, registers := { s.registers with budget := budget } })

/-- Prints a text. -/
def print (text : String) : Act Unit := spend fun output budget => output.write text budget

/-- Prints an article. -/
def printArticle : Act Unit := spend fun output budget => output.writeArticle budget

/-- Prints an integer in the number format in force. -/
def printInteger (n : Int) : Act Unit := do print ((← read (·.numberFormat)).write n)

/-- Prints a number: an integer in the number format in force, any other in its digits. -/
def printValue (x : Float) : Act Unit :=
  match Expression.asInteger? x with
  | some n => printInteger n
  | none => print (Decimal.text x)

end Act

end Wordsmith
