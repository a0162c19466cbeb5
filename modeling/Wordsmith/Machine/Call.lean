import Wordsmith.Machine.Scene

/-!
# Calls of tags

A tag is called with its name as it was written and with arguments. In its scene it does
something, and then it says how the run goes on: with the next token, with code that it was given,
or behind the block that is running.
-/

namespace Wordsmith

/-- How a run goes on. -/
inductive Next where
  /-- With what comes next. -/
  | stay
  /-- With code that prints to the same output. -/
  | run (code : Passage)
  /-- With code, if there is any, that prints to the same output, and then with what the tag still
  does. -/
  | runThen (code : Option Passage) (sequel : Sequel)
  /-- Behind the innermost block. -/
  | leave

/-- A tag's name as written and the arguments it is called with. -/
structure Call where
  name : String
  arguments : List Argument

namespace Call

/-- The text of an argument as it was printed; code has none. -/
def raw (c : Call) (i : Nat) : String :=
  match c.arguments[i]? with
  | some (.text s) => s
  | _ => ""

/-- The text of an argument without blanks at its edges. -/
def text (c : Call) (i : Nat) : String := Text.trimmed (c.raw i)

/-- The texts of all arguments as they were printed. -/
def texts (c : Call) : List String := (List.range c.arguments.length).map c.raw

/-- The code of an argument, if it is code. -/
def code? (c : Call) (i : Nat) : Option Passage :=
  match c.arguments[i]? with
  | some (.code p) => some p
  | _ => none

/-- Goes on with the code of an argument, if it is code. -/
def run (c : Call) (i : Nat) : Next :=
  match c.code? i with
  | some p => .run p
  | none => .stay

/-- Goes on with the code of an argument, if it is code, and then with what the tag still does. -/
def runThen (c : Call) (i : Nat) (sequel : Sequel) : Next := .runThen (c.code? i) sequel

/-- Goes on with the code of the first argument, and then with what depends on it and the code of
the second, if both are code. -/
def test (c : Call) (sequel : Passage → Sequel) : Next :=
  match c.code? 0, c.code? 1 with
  | some test, some code => .runThen (some test) (sequel code)
  | _, _ => .stay

/-- Fails with a complaint about an argument. -/
def complain (c : Call) (complaint : Complaint) : Act α :=
  throw (.invalidArgument c.name complaint)

/-- The integer that a text writes. -/
def integer (c : Call) (value : String) : Act Int :=
  match Text.integer? value with
  | some n => return n
  | none => c.complain (.notInteger value)

/-- The value that an argument names. -/
def choice (c : Call) (i : Nat) (read : String → Except String α) : Act α :=
  match read (c.text i) with
  | .ok a => return a
  | .error message => c.complain (.unknownChoice message)

/-! ## Blocks and repeaters -/

/-- Sets how often the next block is repeated. -/
def repetitions (c : Call) : Act Next := do
  let value := c.text 0
  if Text.asciiLower value = "each" then
    Act.shape fun a => { a with repetitions := .each }
  else
    let n ← c.integer value
    if n < 0 then c.complain .negativeRepetitions
    else Act.shape fun a => { a with repetitions := .count n.toNat }
  return .stay

/-- The whole percentage nearest to zero from a number, between 0 and 100. -/
def percentage (x : Float) : Nat :=
  (if x < 0 then 0 else if 100 < x then 100 else x).toUInt32.toNat

/-- Sets the chance that the next block runs. -/
def chance (c : Call) : Act Next := do
  let value := c.text 0
  let digits := (value.toList.reverse.dropWhile (· == '%')).reverse
  match Decimal.ofText? (.ofList digits) with
  | some x => Act.shape fun a => { a with chance := percentage x }
  | none => c.complain (.notPercentage value)
  return .stay

/-- Prints a number that is told from the innermost repeater. -/
def printRepeater (c : Call) (f : Repeater → Nat) : Act Next := do
  match ← Act.read (·.repeater?) with
  | some r => Act.printInteger (f r)
  | none => c.complain .noRepeater
  return .stay

/-- Goes on with the code of an argument if there is a repeater and a predicate holds of it. -/
def runIf (c : Call) (i : Nat) (holds : Repeater → Bool) : Act Next := do
  return if (← Act.read (·.repeater?)).any holds then c.run i else .stay

/-- Goes on with the code of an argument in every repetition that an interval and an offset pick. -/
def runIfNth (c : Call) (i : Nat) (interval offset : String) : Act Next := do
  let interval ← c.integer interval
  let offset ← c.integer offset
  if interval ≤ 0 then c.complain .intervalNotPositive
  else if offset < 0 then c.complain .negativeOffset
  else c.runIf i fun r => r.isNth offset.toNat interval.toNat

/-! ## Shared orders -/

/-- Fails unless an order was known. -/
def requireOrder (name : String) (known : Bool) : Act Next :=
  if known then return .stay else throw (.unknownName .synchronizer name)

/-- Creates the order that the arguments name, unless it exists. -/
def createOrder (c : Call) : Act Unit := do
  let kind ← c.choice 1 OrderKind.ofText
  let seed ← Act.read (·.generator.seed)
  Act.order fun s => ((), s.create (c.text 0) kind seed)

/-- Has an order deal the items of the next block. -/
def bindOrder (name : String) : Act Unit := Act.shape fun a => { a with order := some name }

/-! ## The output -/

/-- The name of a pair of markers that one of is missing. -/
def markerPair (c : Call) : String := s!"{c.text 0};{c.text 1}"

/-- What is told from the two markers that the arguments name. -/
def measure (c : Call) (f : ChannelStack → String → String → Option α) : Act α := do
  match f (← get).output (c.text 0) (c.text 1) with
  | some a => return a
  | none => throw (.unknownName .marker c.markerPair)

/-- Writes to the target that the arguments name. -/
def send (c : Call) (overwrite : Bool) : Act Unit :=
  Act.spend fun output budget => output.writeTarget (c.text 0) (c.raw 1) overwrite budget

/-! ## Printing something new -/

/-- Prints what a function of the host makes of the arguments. -/
def hook (c : Call) (s : Setting) : Act Unit :=
  match s.hooks.get? (c.text 0) with
  | some f => Act.print (f c.texts.tail)
  | none => throw (.unknownName .hook (c.text 0))

/-- Prints characters that are drawn from a set. -/
def printCharacters (c : Call) (count : Nat) : Act Unit :=
  match CharacterSet.ofText? (c.text 0) with
  | some s => do Act.print (← Act.draw (s.drawMany count))
  | none => c.complain (.badCharacters (c.text 0))

/-- Prints as many characters as an argument says. -/
def printCountedCharacters (c : Call) : Act Unit := do
  let count ← c.integer (c.text 1)
  if count < 0 then c.complain .negativeCount else c.printCharacters count.toNat

/-- The largest integer of 64 bits. -/
def largestInteger : Int := 0x7FFFFFFFFFFFFFFF

/-- Draws an integer from a range, both ends included. -/
def printNumber (c : Call) : Act Unit := do
  let low ← c.integer (c.text 0)
  let high ← c.integer (c.text 1)
  if high < low then c.complain (.emptyRange low high)
  else Act.printInteger (← Act.draw fun g => g.range low (min (high + 1) largestInteger))

/-- Prints the argument of the running subroutine that has a name, or runs it if it is code. -/
def argument (c : Call) : Act Next := do
  let tables ← Act.read (·.arguments)
  match tables.head?.bind (·.get? (c.text 0)) with
  | some (.text s) => do
    Act.print s
    return .stay
  | some (.code p) => return .run p
  | none => throw (.unknownName .argument (c.text 0))

/-! ## Conditions -/

/-- Goes on with the code of an argument if a condition holds; if not, an alternative may
follow. -/
def branchOn (c : Call) (holds : Bool) : Act Next := do
  Act.change fun r => { r with elseArmed := !holds }
  return if holds then c.run 1 else .stay

/-- Whether a character stands between conditions. -/
def separatesConditions (c : Char) : Bool := Text.isBlank c || c == ',' || c == '|'

/-- The conditions that an argument names. -/
def conditions (c : Call) : List String :=
  (Text.words ((c.text 0).toList.map fun x => if separatesConditions x then ' ' else x)).map
    String.ofList

/-- Whether one of the conditions holds of the innermost comparison. -/
def anyHolds (c : Call) : Act Bool := do
  match (← Act.read (·.comparisons)).head? with
  | none => c.complain .noComparison
  | some comparison =>
    c.conditions.foldlM (fun found condition =>
      match comparison.holds? condition with
      | some holds => return found || holds
      | none => c.complain (.unknownCondition condition)) false

end Call

end Wordsmith
