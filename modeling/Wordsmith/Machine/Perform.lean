import Wordsmith.Machine.Call

/-!
# What tags do
-/

namespace Wordsmith

/-- Does what a tag does, in a pattern with the given code, and says how the run goes on. -/
def Tag.perform (s : Setting) (source : String) (c : Call) : Tag → Act Next
  /- Attributes of the next block. -/
  | repetitions => c.repetitions
  | separator => do
    Act.shape fun a => { a with separator := c.code? 0 }
    return .stay
  | before => do
    Act.shape fun a => { a with before := c.code? 0 }
    return .stay
  | after => do
    Act.shape fun a => { a with after := c.code? 0 }
    return .stay
  | chance => c.chance
  | persistence => do
    let persistence ← c.choice 0 Persistence.ofText
    Act.shape fun a => { a with persistence := persistence }
    return .stay
  /- The running repeater. -/
  | leave => return .leave
  | repetitionNumber => c.printRepeater fun r => r.visibleIndex + 1
  | repetitionIndex => c.printRepeater (·.visibleIndex)
  | repetitionCount => c.printRepeater (·.count)
  | ifFirst => c.runIf 0 (·.isFirst)
  | ifLast => c.runIf 0 (·.isLast)
  | ifMiddle => c.runIf 0 (·.isMiddle)
  | unlessFirst => c.runIf 0 (!·.isFirst)
  | unlessLast => c.runIf 0 (!·.isLast)
  | unlessMiddle => c.runIf 0 (!·.isMiddle)
  | ifOdd => c.runIf 0 (·.isOdd)
  | ifEven => c.runIf 0 (·.isEven)
  | ifNth => c.runIfNth 1 (c.text 0) "0"
  | ifNthFrom => c.runIfNth 2 (c.text 0) (c.text 1)
  /- Shared orders. -/
  | bindOrder => do
    let next ← Call.requireOrder (c.text 0) (← Act.read (·.orders.contains (c.text 0)))
    Call.bindOrder (c.text 0)
    return next
  | createBoundOrder => do
    c.createOrder
    Call.bindOrder (c.text 0)
    return .stay
  | createOrder => do
    c.createOrder
    return .stay
  | resetOrder => do Call.requireOrder (c.text 0) (← Act.order fun o => o.reset (c.text 0))
  | reseedOrder => do
    Call.requireOrder (c.text 0) (← Act.order fun o => o.reseed (c.text 0) (c.text 1))
  | unbindOrder => do
    Act.shape fun a => { a with order := none }
    return .stay
  | pinOrder => do
    Act.order fun o => ((), o.setPinned (c.text 0) true)
    return .stay
  | unpinOrder => do
    Act.order fun o => ((), o.setPinned (c.text 0) false)
    return .stay
  | stepOrder => do Call.requireOrder (c.text 0) (← Act.order fun o => o.step (c.text 0))
  /- The generator. -/
  | branch => do
    Act.draw fun g => ((), g.branchNamed (c.text 0))
    return .stay
  | branchFor => do
    Act.draw fun g => ((), g.branchNamed (c.text 0))
    return c.runThen 1 .merge
  | merge => do
    Act.change (·.mergeBranch)
    return .stay
  | generation => do
    Act.print (toString (← Act.read (·.generator.generation)))
    return .stay
  | setGeneration => do
    match Text.word? (c.text 0) with
    | some n => Act.draw fun g => ((), g.setGeneration (UInt64.ofNat n))
    | none => c.complain (.notGeneration (c.text 0))
    return .stay
  /- Tests of what was printed. -/
  | ifNothing => do
    let size := (← get).output.size
    return c.test (.ifNothing size)
  | ifAnything => do
    let size := (← get).output.size
    return c.test (.ifAnything size)
  /- Subroutines and replacers. -/
  | argument => c.argument
  | wholeMatch => do
    if let some m := (← Act.read (·.matched)).head? then Act.print m.text
    return .stay
  | matchGroup => do
    if let some text := (← Act.read (·.matched)).head?.bind (·.group? (c.text 0)) then
      Act.print text
    return .stay
  /- Formats. -/
  | caseMode => do
    let mode ← c.choice 0 CaseMode.ofText
    Act.channels (·.setMode mode)
    return .stay
  | inferCaseMode => do
    if let some mode := Casing.infer? (c.text 0) then Act.channels (·.setMode mode)
    return .stay
  | numberFormat => do
    let format ← c.choice 0 NumberFormat.ofText
    Act.change fun r => { r with numberFormat := format }
    return .stay
  /- Channels and targets. -/
  | visit => do
    Act.channels (·.push (c.text 0) .public)
    return .stay
  | visitAs => do
    let visibility ← c.choice 1 Visibility.ofText
    Act.channels (·.push (c.text 0) visibility)
    return .stay
  | close => do
    Act.channels (·.pop (c.text 0))
    return .stay
  | mark => do
    Act.channels (·.setMarker (c.text 0))
    return .stay
  | distance => do
    Act.printInteger (← c.measure ChannelStack.distance?)
    return .stay
  | copy => do
    Act.print (← c.measure ChannelStack.region?)
    return .stay
  | target => do
    Act.channels (·.createTarget (c.text 0))
    return .stay
  | send => do
    c.send false
    return .stay
  | overwrite => do
    c.send true
    return .stay
  | clearTarget => do
    Act.channels (·.clearTarget (c.text 0))
    return .stay
  | article => do
    Act.printArticle
    return .stay
  /- Everything that prints something new. -/
  | hook => do
    c.hook s
    return .stay
  | length => do
    Act.printInteger (c.raw 0).length
    return .stay
  | character => do
    c.printCharacters 1
    return .stay
  | characters => do
    c.printCountedCharacters
    return .stay
  | number => do
    c.printNumber
    return .stay
  | fraction => do
    Act.print (Decimal.text (← Act.draw (·.fraction)))
    return .stay
  | code => do
    Act.print source
    return .stay
  /- Flags and comparisons. -/
  | define => do
    Act.change fun r =>
      ((c.texts.map Text.trimmed).filter (· ≠ "")).foldl Registers.setFlag r
    return .stay
  | undefine => do
    Act.change fun r => (c.texts.map Text.trimmed).foldl Registers.clearFlag r
    return .stay
  | ifDefined => do c.branchOn (← Act.read (·.hasFlag (c.text 0)))
  | unlessDefined => do c.branchOn !(← Act.read (·.hasFlag (c.text 0)))
  | otherwise => do
    if ← Act.read (·.elseArmed) then
      Act.change fun r => { r with elseArmed := false }
      return c.run 0
    else return .stay
  | compare => do
    Act.change fun r => { r with comparisons := ⟨c.text 0, c.text 1⟩ :: r.comparisons }
    return c.runThen 2 .dropComparison
  | ifCompared => do c.branchOn (← c.anyHolds)

end Wordsmith
