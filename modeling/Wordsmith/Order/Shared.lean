import Wordsmith.Named
import Wordsmith.Order.Basic

/-!
# Shared orders

Blocks share orders by name. An order is created once; its seed comes from its name and the seed
in force, so it does not matter which order was created first. A pin may be asked for before the
order exists: it waits in a queue and holds from the beginning.
-/

namespace Wordsmith

/-- The orders of a run by name, and the names whose pins wait. -/
structure SharedOrders where
  table : Named Order
  pinQueue : List String

namespace SharedOrders

/-- No orders and no pins. -/
def empty : SharedOrders := ⟨.empty, []⟩

/-- Whether an order of the name exists. -/
def contains (s : SharedOrders) (name : String) : Bool := s.table.contains name

/-- The order of a name. -/
def get? (s : SharedOrders) (name : String) : Option Order := s.table.get? name

/-- Creates an order, unless the name has one. -/
def create (s : SharedOrders) (name : String) (kind : OrderKind) (seed : UInt64) : SharedOrders :=
  if s.contains name then s
  else
    let order := Order.ofSeed kind (Draw.word (Draw.keyWord name) seed)
    { table := s.table.insert name { order with pinned := s.pinQueue.contains name }
      pinQueue := s.pinQueue.filter (· != name) }

/-- Pins or frees an order, now or once it exists. -/
def setPinned (s : SharedOrders) (name : String) (pinned : Bool) : SharedOrders :=
  match s.table.get? name with
  | some order => { s with table := s.table.insert name { order with pinned := pinned } }
  | none =>
    let others := s.pinQueue.filter (· != name)
    { s with pinQueue := if pinned then name :: others else others }

/-- Changes an order, and says whether it exists. -/
def update (s : SharedOrders) (name : String) (f : Order → Order) : Bool × SharedOrders :=
  match s.table.get? name with
  | some order => (true, { s with table := s.table.insert name (f order) })
  | none => (false, s)

/-- Steps an order even if it is pinned. -/
def step (s : SharedOrders) (name : String) : Bool × SharedOrders :=
  s.update name fun order => (order.step true).2

/-- Rewinds an order. -/
def reset (s : SharedOrders) (name : String) : Bool × SharedOrders := s.update name Order.reset

/-- Rewinds an order with a new seed. -/
def reseed (s : SharedOrders) (name seed : String) : Bool × SharedOrders :=
  s.update name fun order => order.reseed seed

/-- Deals an item from an order, if it exists. -/
def next (s : SharedOrders) (name : String) (count : Nat) : Option Nat × SharedOrders :=
  match s.table.get? name with
  | some order =>
    let (item, order) := order.next count
    (some item, { s with table := s.table.insert name order })
  | none => (none, s)

end SharedOrders

end Wordsmith
