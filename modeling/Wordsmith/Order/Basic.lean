import Wordsmith.Draw.Generator
import Wordsmith.Text.Slice

/-!
# Orders

An order deals the items of a block one by one: in sequence, shuffled, or bouncing between the
ends. It owns a generator of its own, so what it deals depends on its seed and on nothing else.
The order of a count is built when the count is first asked for, and built anew when it changes.
While an order is pinned it deals the same item again; a forced step moves it even then.
-/

namespace Wordsmith

/-- How an order goes through its items. -/
inductive OrderKind where
  /-- A fresh random item every time. -/
  | none
  /-- From first to last. -/
  | forward
  /-- From last to first. -/
  | reverse
  /-- Shuffled, and shuffled again after each pass. -/
  | deck
  /-- Shuffled once. -/
  | cdeck
  /-- One random item for ever. -/
  | locked
  /-- Up and down again without repeating the ends. -/
  | ping
  /-- Down and up again without repeating the ends. -/
  | pong
deriving DecidableEq, Repr

namespace OrderKind

/-- The name of a kind. -/
def name : OrderKind → String
  | none => "none"
  | forward => "forward"
  | reverse => "reverse"
  | deck => "deck"
  | cdeck => "cdeck"
  | locked => "locked"
  | ping => "ping"
  | pong => "pong"

/-- Reads a kind by its name, in any case of letters, or says what is wrong. -/
def ofText (s : String) : Except String OrderKind :=
  match (Text.trimmed s).map Char.toLower with
  | "none" => .ok none
  | "forward" | "ordered" => .ok forward
  | "reverse" => .ok reverse
  | "deck" => .ok deck
  | "cdeck" => .ok cdeck
  | "locked" => .ok locked
  | "ping" => .ok ping
  | "pong" => .ok pong
  | other => .error s!"invalid synchronizer type '{other}'"

end OrderKind

/-- An order with the place it has reached. -/
structure Order where
  kind : OrderKind
  /-- The source of its shuffles. -/
  draws : Generator
  /-- The items of a pass, once a count is known. -/
  pass : Option (Array Nat)
  /-- How far the pass has been dealt. -/
  index : Nat
  /-- Whether the pass is dealt from its end. -/
  bouncing : Bool
  pinned : Bool

namespace Order

/-- A new order with a seed. -/
def ofSeed (kind : OrderKind) (seed : UInt64) : Order :=
  ⟨kind, .ofSeed seed, none, 0, false, false⟩

/-- Exchanges the item at `i` with a drawn one. -/
def swapDrawn (state : Array Nat × Generator) (i : Nat) : Array Nat × Generator :=
  let (j, g) := state.2.lessThan state.1.size
  (state.1.swapIfInBounds i j, g)

/-- Shuffles items. Two items take one draw, more take one each. -/
def shuffle (items : Array Nat) (g : Generator) : Array Nat × Generator :=
  if items.size < 2 then (items, g)
  else if items.size = 2 then
    let (n, g) := g.lessThan 2
    (if n = 0 then items.swapIfInBounds 0 1 else items, g)
  else (List.range items.size).foldl swapDrawn (items, g)

/-- The pass of a count that an order of a kind begins with. -/
def firstPass (kind : OrderKind) (count : Nat) (g : Generator) : Array Nat × Generator :=
  match kind with
  | .none | .forward | .ping => (Array.range count, g)
  | .reverse | .pong => ((Array.range count).reverse, g)
  | .deck | .cdeck | .locked => shuffle (Array.range count) g

/-- The order with the pass of a count built, from the generator as it is. -/
def build (o : Order) (count : Nat) : Order :=
  let (pass, g) := firstPass o.kind count o.draws
  { o with pass := some pass, draws := g }

/-- The order at its beginning, with its pass built anew if it has one. -/
def restart (o : Order) : Order :=
  let o := { o with index := 0, bouncing := false }
  match o.pass with
  | some pass => o.build pass.size
  | none => o

/-- Rewinds the order, its generator included. -/
def reset (o : Order) : Order := { o with draws := o.draws.reset }.restart

/-- Rewinds the order and gives it the seed of a name. -/
def reseed (o : Order) (name : String) : Order :=
  { o with draws := .ofSeed (Draw.keyWord name) }.restart

/-- Begins the next pass when the last one has been dealt. -/
def turn (o : Order) (pass : Array Nat) : Order :=
  if o.index < pass.size then o
  else match o.kind with
    | .deck =>
      let (pass, g) := shuffle pass o.draws
      { o with pass := some pass, draws := g, index := 0 }
    | .ping | .pong =>
      { o with bouncing := !o.bouncing, index := if 1 < pass.size then 1 else 0 }
    | _ => { o with index := 0 }

/-- The place in the pass that is dealt next. -/
def slot (o : Order) (size : Nat) : Nat := if o.bouncing then size - 1 - o.index else o.index

/-- Deals an item of the pass. A pinned order stays where it is unless forced on. -/
def step (o : Order) (force : Bool) : Nat × Order :=
  match o.pass with
  | none => (0, o)
  | some pass =>
    if pass.size = 0 then (0, o)
    else if o.kind = .locked then (pass.getD 0 0, o)
    else
      let o := o.turn pass
      let item := (o.pass.getD #[]).getD (o.slot pass.size) 0
      (item, if o.pinned && !force then o else { o with index := o.index + 1 })

/-- The order with a pass of the count: a new one if the count has changed. -/
def fitted (o : Order) (count : Nat) : Order :=
  if (o.pass.map (·.size)) = some count then o else { o.build count with index := 0 }

/-- Deals one of `count` items. -/
def next (o : Order) (count : Nat) : Nat × Order :=
  if count = 0 then (0, o)
  else if o.kind = .none then
    let (n, g) := o.draws.lessThan count
    (n, { o with draws := g })
  else (o.fitted count).step false

end Order

end Wordsmith
