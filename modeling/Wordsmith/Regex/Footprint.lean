import Std.Data.HashMap
import Wordsmith.Regex.Node
import Wordsmith.Regex.Utf8

/-!
# How large an expression gets

An expression is searched for by an automaton that reads octets, and by a second one that reads
them backwards. Either may take ten mebibytes. A state takes 32 octets, and more for each way out of
it: eight for a way that reads and four for one that does not.

What is repeated a number of times is written out as often. The octets of a set make a graph in
which equal states are shared as far as they are remembered: a table with a slot for each hash value
keeps one state per slot, so it matters how the states are numbered.
-/

namespace Wordsmith.Regex

open Text

/-- The states of an automaton so far and the octets that they take. -/
structure Footprint where
  states : Nat
  octets : Nat

/-- A step of building an automaton, which fails when the automaton gets too large. -/
abbrev Building (α : Type) : Type := StateT Footprint Option α

namespace Building

/-- The most octets that an automaton may take. -/
def limit : Nat := 10 * 1024 * 1024

/-- Takes more octets. -/
def take (octets : Nat) : Building Unit := do
  let f ← get
  if limit < f.octets + octets then failure
  set { f with octets := f.octets + octets }

/-- Adds a state that takes some octets more than the least, and gives its number. -/
def state (more : Nat) : Building Nat := do
  let f ← get
  take (32 + more)
  modify fun g => { g with states := g.states + 1 }
  return f.states

/-- Adds a state without ways out, or with a single one. -/
def plain : Building Unit := do let _ ← state 0

/-- Adds a way out of a choice. -/
def way : Building Unit := take 4

/-- Goes on behind a part. This adds a way if the part ends with a choice. -/
def goOn (isChoice : Bool) : Building Unit := if isChoice then way else return

/-! ## Sets -/

/-- A way that reads an octet of a range. -/
structure Arc where
  range : Utf8.OctetRange
  target : Nat
deriving DecidableEq

/-- Mixes numbers into one. -/
def mix (ns : List Nat) : Nat :=
  (ns.foldl (fun h n => (h ^^^ n.toUInt64) * 1099511628211) (14695981039346656037 : UInt64)).toNat

/-- States that are remembered, each with what it was made from. -/
abbrev Memory (α : Type) : Type := Std.HashMap Nat (α × Nat)

/-- The number of slots for states of a graph. -/
def graphSlots : Nat := 10000

/-- The number of slots for states read backwards. -/
def backwardSlots : Nat := 1000

/-- The state of some ways, remembered or new. -/
def shared (arcs : List Arc) : StateT (Memory (List Arc)) Building Nat := do
  let slot := mix (arcs.flatMap fun a => [a.range.first, a.range.last, a.target]) % graphSlots
  match (← get)[slot]? with
  | some (known, id) => if known = arcs then return id
  | none => pure ()
  let id ← state (8 * arcs.length)
  modify (·.insert slot (arcs, id))
  return id

/-- The state from which sequences of at most so many octets lead to a target. Sequences that begin
with the same octets stand together. -/
def graph (target : Nat) : Nat → List (List Utf8.OctetRange) →
    StateT (Memory (List Arc)) Building Nat
  | 0, _ => return target
  | n + 1, sequences => do
    if sequences.all (·.isEmpty) then return target
    let groups := sequences.splitBy fun a b => a.head? == b.head?
    let arcs ← groups.filterMapM fun group =>
      match group.head?.bind List.head? with
      | some range => do return some ⟨range, ← graph target n (group.map List.tail)⟩
      | none => return none
    shared arcs

/-- The states of a sequence that is read backwards, with the state that it begins with. -/
def backward (target : Nat) (sequence : List Utf8.OctetRange) :
    StateT (Memory (Nat × Utf8.OctetRange)) Building Nat :=
  sequence.foldlM (fun next range => do
    let slot := mix [next, range.first, range.last] % backwardSlots
    match (← get)[slot]? with
    | some (known, id) => if known = (next, range) then return id
    | none => pure ()
    let id ← state 0
    modify (·.insert slot ((next, range), id))
    return id) target

/-- A set of characters, read forwards or backwards. -/
def charSet (isBackward : Bool) (s : CharSet) : Building Unit := do
  if s.isAscii then
    plain
    let _ ← state (8 * s.intervals.length)
  else
    let sequences := s.intervals.flatMap fun (first, last) => Utf8.sequences first last
    if isBackward then
      plain
      let target ← state 0
      let _ ← (sequences.forM fun sequence => do
        let _ ← backward target sequence
        way : StateT (Memory (Nat × Utf8.OctetRange)) Building Unit).run ∅
    else
      let target ← state 0
      let _ ← (graph target 4 sequences).run ∅

/-! ## Texts to choose from -/

/-- Texts that go on from one place, divided where one of them ends there: what stands before it is
tried before what stands behind it. A text that ends in a place where another has ended and from
which nothing goes on divides nothing. `goesOn` tells whether a text goes on, `ends` whether one has
ended, and `before` are the texts since the last that has, the last one first. -/
def divided (goesOn ends : Bool) (before : List (List Nat)) :
    List (List Nat) → List (List (List Nat))
  | [] => [before.reverse]
  | [] :: rest =>
    if ends && !goesOn then divided goesOn ends before rest
    else before.reverse :: divided goesOn true [] rest
  | text :: rest => divided true ends (text :: before) rest

/-- What follows an octet in texts. -/
def behind (octet : Nat) (texts : List (List Nat)) : List (List Nat) :=
  texts.filterMap fun text =>
    match text with
    | first :: rest => if first = octet then some rest else none
    | [] => none

/-- The states of texts of at most so many octets of which one is chosen. -/
def texts : Nat → List (List Nat) → Building Unit
  | 0, _ => return
  | n + 1, ts => do
    let groups := divided false false [] ts
    let filled := groups.filter (!·.isEmpty)
    filled.forM fun group => do
      let heads := (group.filterMap List.head?).eraseDups
      heads.forM fun octet => do
        let rest := behind octet group
        if rest.all (·.isEmpty) then return else texts n rest
      let _ ← state (if heads.length = 1 then 0 else 8 * heads.length)
    let _ ← state (4 * (filled.length + (groups.length - 1)))

/-- The octets of a text. -/
def octetsOf (text : List Char) : List Nat := text.flatMap fun c => Utf8.octets c.toNat

/-- A choice between texts. -/
def choiceOfTexts (ts : List (List Nat)) : Building Unit := do
  plain
  texts (ts.foldl (fun n t => max n t.length) 0 + 1) ts

/-! ## Repetitions

Each of these takes the building of what is repeated and tells whether the repetition ends with a
choice. -/

/-- As often again, behind a part. -/
def more (inner : Building Bool) : Nat → Bool → Building Bool
  | 0, isChoice => return isChoice
  | n + 1, isChoice => do
    let next ← inner
    goOn isChoice
    more inner n next

/-- A set number of times. -/
def times (inner : Building Bool) : Nat → Building Bool
  | 0 => do
    plain
    return false
  | n + 1 => do more inner n (← inner)

/-- Up to a number of times, behind a part. -/
def upTo (inner : Building Bool) : Nat → Bool → Building Unit
  | 0, isChoice => goOn isChoice
  | n + 1, isChoice => do
    plain
    let next ← inner
    goOn isChoice
    way
    way
    upTo inner n next

/-- At least a number of times. What can match nothing is tried once before it is repeated. -/
def atLeast (inner : Building Bool) (canBeEmpty : Bool) : Nat → Building Bool
  | 0 =>
    if canBeEmpty then do
      goOn (← inner)
      plain
      plain
      plain
      way
      way
      way
      way
      return false
    else do
      plain
      goOn (← inner)
      way
      return true
  | n + 1 => do
    if n = 0 then goOn (← inner)
    else
      let before ← times inner n
      let last ← inner
      goOn before
      goOn last
    plain
    way
    return true

/-- A repetition. -/
def repeated (inner : Building Bool) (canBeEmpty : Bool) (least : Nat) (most : Option Nat) :
    Building Bool :=
  match least, most with
  | 0, some 1 => do
    plain
    let isChoice ← inner
    plain
    way
    way
    goOn isChoice
    return false
  | least, none => atLeast inner canBeEmpty least
  | least, some most =>
    if least = most then times inner least
    else do
      let isChoice ← times inner least
      plain
      upTo inner (most - least) isChoice
      return false

/-! ## Expressions -/

/-- Comes to the end of a branch. The choice itself is made behind the second branch. -/
def branchEnd (isSecond isChoice : Bool) : Building Unit := do
  if isSecond then
    plain
    plain
    way
  way
  goOn isChoice

/-- An expression, read forwards or backwards. Tells whether it ends with a choice. `branch` tells
whether it stands behind the first branch of an alternation, and then whether its first branch is
the second one. -/
def node (isBackward : Bool) : Option Bool → Node → Building Bool
  | branch, .empty => do
    plain
    closed branch false
  | branch, .literal text => do
    (octetsOf text).forM fun _ => plain
    closed branch false
  | branch, .set s => do
    charSet isBackward s
    closed branch false
  | branch, .look _ => do
    plain
    closed branch false
  | branch, .capture _ inner => do
    if isBackward then closed branch (← node isBackward none inner)
    else
      plain
      goOn (← node isBackward none inner)
      plain
      closed branch false
  | branch, .repeated inner least most _ => do
    let canBeEmpty := !inner.minLength.any (0 < ·)
    closed branch (← repeated (node isBackward none inner) canBeEmpty least most)
  | branch, .concat a b => do
    if isBackward then
      goOn (← node isBackward none b)
      closed branch (← node isBackward none a)
    else
      goOn (← node isBackward none a)
      closed branch (← node isBackward none b)
  | none, .alternation a b => do
    match (a :: b.branches).mapM Node.literal? with
    | some ts =>
      choiceOfTexts (ts.map fun t => if isBackward then (octetsOf t).reverse else octetsOf t)
    | none =>
      let first ← node isBackward none a
      let _ ← node isBackward (some true) b
      goOn first
    return false
  | some isSecond, .alternation a b => do
    branchEnd isSecond (← node isBackward none a)
    node isBackward (some false) b
where
  /-- Ends the last branch of an alternation, if it is one. -/
  closed (branch : Option Bool) (isChoice : Bool) : Building Bool :=
    match branch with
    | none => return isChoice
    | some isSecond => do
      branchEnd isSecond isChoice
      return false

/-- The whole automaton: a part that passes over what stands before a match unless that is
impossible, the expression as a group, and the end. -/
def whole (isBackward : Bool) (n : Node) : Building Unit := do
  if if isBackward then n.isAtEnd else n.isAtStart then plain
  else
    plain
    charSet isBackward (.interval 0 127)
    way
    way
  if !isBackward then plain
  let isChoice ← node isBackward none n
  if !isBackward then plain
  plain
  goOn isChoice

end Building

/-- Whether both automata of an expression stay within their limits. -/
def Node.fits (n : Node) : Bool :=
  [false, true].all fun isBackward => ((Building.whole isBackward n).run ⟨0, 0⟩).isSome

end Wordsmith.Regex
