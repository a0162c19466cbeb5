import Wordsmith.Regex.Meaning

/-!
# Programs that search

An expression becomes a list of instructions with one choice each. A choice is tried in order, and
the first way that leads to the end is the match: so an earlier branch wins over a later one, and a
greedy repetition goes on as long as it can. No instruction is tried twice at one place, since a
second try would go the same way as the first; this bounds the search, also where a repetition
could go round without reading anything.
-/

namespace Wordsmith.Regex

open Text

/-- One step of a program. Steps go on to the next instruction unless they say otherwise. -/
inductive Instruction where
  /-- Reads a certain character. -/
  | char (c : Char)
  /-- Reads a character of a set. -/
  | one (s : CharSet)
  /-- Requires a place. -/
  | place (l : Look)
  /-- Remembers where it is. -/
  | save (slot : Nat)
  /-- Goes one way or, if that fails, the other. -/
  | choice (first second : Nat)
  | jump (target : Nat)
  | accept

namespace Node

/-! ## Repetitions

Each of these takes the instructions of what is repeated as a function of where they begin. -/

/-- A choice between going on and going past. -/
def choose (greedy : Bool) (on past : Nat) : Instruction :=
  if greedy then .choice on past else .choice past on

/-- A set number of times. -/
def times (code : Nat → List Instruction) : Nat → Nat → List Instruction
  | 0, _ => []
  | n + 1, a =>
    let c := code a
    c ++ times code n (a + c.length)

/-- Up to a number of times. -/
def upTo (code : Nat → List Instruction) (greedy : Bool) : Nat → Nat → List Instruction
  | 0, _ => []
  | n + 1, a =>
    let c := code (a + 1)
    let rest := upTo code greedy n (a + 1 + c.length)
    choose greedy (a + 1) (a + 1 + c.length + rest.length) :: (c ++ rest)

/-- Once or more often. -/
def many (code : Nat → List Instruction) (greedy : Bool) (a : Nat) : List Instruction :=
  let c := code a
  c ++ [choose greedy a (a + c.length + 1)]

/-- Any number of times. What can match nothing is tried once before it is repeated, which keeps
the ways in their order. -/
def anyTimes (code : Nat → List Instruction) (greedy canBeEmpty : Bool) (a : Nat) :
    List Instruction :=
  if canBeEmpty then
    let c := many code greedy (a + 1)
    choose greedy (a + 1) (a + 1 + c.length) :: c
  else
    let c := code (a + 1)
    choose greedy (a + 1) (a + 2 + c.length) :: (c ++ [.jump a])

/-- The instructions of an expression, the first of which is at `a`. They end behind their last
one. -/
def code : Node → Nat → List Instruction
  | empty, _ => []
  | literal cs, _ => cs.map .char
  | set s, _ => [.one s]
  | look l, _ => [.place l]
  | capture i inner, a => .save (2 * i) :: (inner.code (a + 1) ++ [.save (2 * i + 1)])
  | concat m n, a =>
    let c := m.code a
    c ++ n.code (a + c.length)
  | alternation m n, a =>
    let c := m.code (a + 1)
    let second := a + 2 + c.length
    let d := n.code second
    .choice (a + 1) second :: (c ++ .jump (second + d.length) :: d)
  | repeated inner least most greedy, a =>
    match most, least with
    | some most, least =>
      let c := times inner.code least a
      c ++ upTo inner.code greedy (most - least) (a + c.length)
    | none, 0 => anyTimes inner.code greedy (!inner.minLength.any (0 < ·)) a
    | none, n + 1 =>
      let c := times inner.code n a
      c ++ many inner.code greedy (a + c.length)

end Node

/-- Whether a place in a text is as required. -/
def Look.holds (l : Look) (text : Array Char) (i : Nat) : Bool :=
  let before := if i = 0 then none else text[i - 1]?
  let after := text[i]?
  match l with
  | textStart => before.isNone
  | textEnd => after.isNone
  | lineStart => before.isNone || before == some '\n'
  | lineEnd => after.isNone || after == some '\n'
  | returnStart =>
    before.isNone || before == some '\n' || (before == some '\r' && after != some '\n')
  | returnEnd =>
    after.isNone || after == some '\r' || (after == some '\n' && before != some '\r')
  | word b unicode =>
    let words := if unicode then CharClass.unicodeWord else CharClass.asciiWord
    let left := before.any words.contains
    let right := after.any words.contains
    match b with
    | .word => left != right
    | .wordStart => !left && right
    | .wordEnd => left && !right
    | .wordStartHalf => !left
    | .wordEndHalf => !right
    | _ => left == right

/-- What groups have captured: for each an even slot with its start and an odd one with its
end. -/
abbrev Slots : Type := Array (Option Nat)

/-- A way that is still to be tried: an instruction, a place, and what was captured before. -/
structure Thread where
  state : Nat
  index : Nat
  slots : Slots

/-- A program with the names of its groups. -/
structure Program where
  code : Array Instruction
  /-- The number of groups, the whole match included. -/
  groups : Nat
  names : List (String × Nat)

namespace Program

/-- The program of an expression. -/
def ofNode (n : Node) (captures : Nat) (names : List (String × Nat)) : Program :=
  ⟨(n.code 0 ++ [Instruction.accept]).toArray, captures + 1, names⟩

/-- The number of places at which instructions can be tried. -/
def visitCount (p : Program) (text : Array Char) : Nat := p.code.size * (text.size + 1)

/-- The ways that open from a thread, in their order, or the captures if it has come to the
end. -/
def follow (p : Program) (text : Array Char) (t : Thread) : List Thread ⊕ Slots :=
  match p.code[t.state]? with
  | none => .inl []
  | some .accept => .inr (t.slots.setIfInBounds 1 (some t.index))
  | some (.char c) =>
    if text[t.index]? = some c then .inl [⟨t.state + 1, t.index + 1, t.slots⟩] else .inl []
  | some (.one s) =>
    if (text[t.index]?).any s.contains then .inl [⟨t.state + 1, t.index + 1, t.slots⟩] else .inl []
  | some (.place l) =>
    if l.holds text t.index then .inl [⟨t.state + 1, t.index, t.slots⟩] else .inl []
  | some (.save slot) =>
    .inl [⟨t.state + 1, t.index, t.slots.setIfInBounds slot (some t.index)⟩]
  | some (.choice first second) =>
    .inl [⟨first, t.index, t.slots⟩, ⟨second, t.index, t.slots⟩]
  | some (.jump target) => .inl [⟨target, t.index, t.slots⟩]

/-- Marks a number; what an array does not reach is not marked. -/
def mark (visited : Array Bool) (n : Nat) : Array Bool :=
  if n < visited.size then visited.setIfInBounds n true
  else (visited ++ Array.replicate (n - visited.size) false).push true

/-- Tries threads in their order, at most `n` of them, and passes over those that go on where one
was before. Places are counted from `origin`, where the search begins. -/
def run (p : Program) (text : Array Char) (origin : Nat) :
    Nat → List Thread → Array Bool → Option Slots × Array Bool
  | 0, _, visited => (none, visited)
  | _ + 1, [], visited => (none, visited)
  | n + 1, t :: rest, visited =>
    let place := (t.index - origin) * p.code.size + t.state
    if visited.getD place false then p.run text origin n rest visited
    else
      match p.follow text t with
      | .inl ways => p.run text origin n (ways ++ rest) (mark visited place)
      | .inr slots => (some slots, visited)

/-- The first match that begins at one of `n` places from `i` on. -/
def search (p : Program) (text : Array Char) (origin : Nat) :
    Nat → Nat → Array Bool → Option Slots
  | 0, _, _ => none
  | n + 1, i, visited =>
    let slots := (Array.replicate (2 * p.groups) none).setIfInBounds 0 (some i)
    match p.run text origin (2 * p.visitCount text + 2) [⟨0, i, slots⟩] visited with
    | (some slots, _) => some slots
    | (none, visited) => p.search text origin n (i + 1) visited

/-- The first match that begins at a place or behind it. -/
def findFrom (p : Program) (text : Array Char) (i : Nat) : Option Slots :=
  p.search text i (text.size + 1 - i) i #[]

end Program

end Wordsmith.Regex
