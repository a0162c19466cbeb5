import Wordsmith.Proofs.Blocks.Orders

/-!
# Passes of an order

An order may be asked for any counts, forced on, pinned, freed, rewound and given new seeds in any
turn. Its pass stays a permutation and it never points further than the end of the pass (`Coherent`),
so it never reads behind it: dealing with a check at every access always goes through, and deals the
same (`next?`, `step?`).

The kinds that go through their items deal a pass from its first place to its last one. So whoever
starts where a pass starts, which is where the order was built or rewound, gets every item once, and
is then at the start of the next pass. Only a `deck` shuffles on the way from one pass to the next.

Main result: `passes_after`.
-/

namespace Wordsmith

/-- The kinds that deal every item before they deal one again. -/
def OrderKind.Exhausts (kind : OrderKind) : Prop :=
  kind = .forward ∨ kind = .reverse ∨ kind = .deck ∨ kind = .cdeck

theorem OrderKind.Exhausts.ne {kind : OrderKind} (h : kind.Exhausts) :
    kind ≠ .none ∧ kind ≠ .locked ∧ kind ≠ .ping ∧ kind ≠ .pong := by
  rcases h with rfl | rfl | rfl | rfl <;> decide

namespace Order

variable {o : Order} {kind : OrderKind} {count : Nat} {pass : Array Nat}

/-! ## Operations -/

/-- What is done to an order. -/
inductive Operation where
  | next (count : Nat)
  | step (force : Bool)
  | setPinned (pinned : Bool)
  | reset
  | reseed (name : String)

/-- The order behind an operation. -/
def Operation.apply (o : Order) : Operation → Order
  | .next count => (o.next count).2
  | .step force => (o.step force).2
  | .setPinned pinned => { o with pinned := pinned }
  | .reset => o.reset
  | .reseed name => o.reseed name

/-- A new order behind some operations. -/
def after (kind : OrderKind) (seed : UInt64) (operations : List Operation) : Order :=
  operations.foldl Operation.apply (ofSeed kind seed)

/-! ## Access with a check -/

/-- The place that is dealt next, unless the order points too far for it to be counted from the end. -/
def slot? (o : Order) (size : Nat) : Option Nat :=
  if o.bouncing then if o.index < size then some (size - 1 - o.index) else none else some o.index

/-- `step`, unless it reads a place that the pass does not have. -/
def step? (o : Order) (force : Bool) : Option (Nat × Order) :=
  match o.pass with
  | none => some (0, o)
  | some pass =>
    if pass.size = 0 then some (0, o)
    else if o.kind = .locked then do
      let item ← pass[0]?
      return (item, o)
    else do
      let o := o.turn pass
      let slot ← o.slot? pass.size
      let item ← (← o.pass)[slot]?
      return (item, if o.pinned && !force then o else { o with index := o.index + 1 })

/-- `next`, unless it reads a place that the pass does not have. -/
def next? (o : Order) (count : Nat) : Option (Nat × Order) :=
  if count = 0 then some (0, o)
  else if o.kind = .none then
    let (n, g) := o.draws.lessThan count
    some (n, { o with draws := g })
  else (o.fitted count).step? false

/-! ## What operations keep -/

/-- The order is of the kind, its pass is a permutation, it points no further than the end of the
pass, and only the kinds that turn around go backwards. -/
structure Coherent (kind : OrderKind) (o : Order) : Prop where
  kind_eq : o.kind = kind
  fair : o.IsFair
  index_le : ∀ pass, o.pass = some pass → o.index ≤ pass.size
  bouncing : o.bouncing = true → kind = .ping ∨ kind = .pong

theorem coherent_ofSeed (kind : OrderKind) (seed : UInt64) : (ofSeed kind seed).Coherent kind :=
  ⟨rfl, isFair_ofSeed kind seed, nofun, nofun⟩

namespace Coherent

/-- A pass that has just been built is a permutation, and the order points at its start. -/
theorem rebuilt (h : o.Coherent kind) (count : Nat) :
    { o.build count with index := 0 }.Coherent kind := by
  refine ⟨h.kind_eq, fun pass hpass => ?_, fun _ _ => Nat.zero_le _, h.bouncing⟩
  cases hpass
  exact (isPass_firstPass o.kind count o.draws).1

theorem fitted (h : o.Coherent kind) (count : Nat) : (o.fitted count).Coherent kind := by
  unfold Order.fitted
  split
  · exact h
  · exact h.rebuilt count

theorem restart (h : o.Coherent kind) : o.restart.Coherent kind := by
  have hfirst : { o with index := 0, bouncing := false }.Coherent kind :=
    ⟨h.kind_eq, h.fair, fun _ _ => Nat.zero_le _, nofun⟩
  unfold Order.restart
  dsimp only
  split
  · exact hfirst.rebuilt _
  · exact hfirst

theorem withDraws (h : o.Coherent kind) (g : Generator) : { o with draws := g }.Coherent kind :=
  ⟨h.kind_eq, h.fair, h.index_le, h.bouncing⟩

/-- Behind the turn of a pass the order points into the pass. -/
theorem turn (h : o.Coherent kind) (hpass : o.pass = some pass) (hpos : 0 < pass.size) :
    (o.turn pass).Coherent kind ∧ (o.turn pass).index < pass.size := by
  obtain ⟨hfair, next, hnext, hsize⟩ := h.fair.turn hpass
  -- The size of the pass stays, so what is left depends on the kind only.
  suffices hturn : (o.turn pass).kind = kind ∧ (o.turn pass).index < pass.size ∧
      ((o.turn pass).bouncing = true → kind = .ping ∨ kind = .pong) by
    obtain ⟨hkind, hindex, hbounce⟩ := hturn
    refine ⟨⟨hkind, hfair, fun pass' hpass' => ?_, hbounce⟩, hindex⟩
    rw [hnext] at hpass'
    cases hpass'
    omega
  unfold Order.turn
  split
  · next hindex => exact ⟨h.kind_eq, hindex, h.bouncing⟩
  · split
    · exact ⟨h.kind_eq, hpos, h.bouncing⟩
    · next hping =>
      refine ⟨h.kind_eq, ?_, fun _ => .inl (h.kind_eq ▸ hping)⟩
      dsimp only
      split <;> omega
    · next hpong =>
      refine ⟨h.kind_eq, ?_, fun _ => .inr (h.kind_eq ▸ hpong)⟩
      dsimp only
      split <;> omega
    · exact ⟨h.kind_eq, hpos, h.bouncing⟩

/-- A step keeps the order coherent and reads no place that the pass does not have. -/
theorem step (h : o.Coherent kind) (force : Bool) :
    (o.step force).2.Coherent kind ∧ o.step? force = some (o.step force) := by
  unfold Order.step Order.step?
  cases hpass : o.pass with
  | none => exact ⟨h, rfl⟩
  | some pass =>
    dsimp only
    by_cases hempty : pass.size = 0
    · rw [if_pos hempty, if_pos hempty]
      exact ⟨h, rfl⟩
    have hpos : 0 < pass.size := Nat.pos_of_ne_zero hempty
    rw [if_neg hempty, if_neg hempty]
    by_cases hlocked : o.kind = .locked
    · rw [if_pos hlocked, if_pos hlocked]
      exact ⟨h, by simp [Array.getD, hpos]⟩
    rw [if_neg hlocked, if_neg hlocked]
    obtain ⟨hturn, hindex⟩ := h.turn hpass hpos
    obtain ⟨-, next, hnext, hsize⟩ := h.fair.turn hpass
    constructor
    · split
      · exact hturn
      · refine ⟨hturn.kind_eq, hturn.fair, fun pass' hpass' => ?_, hturn.bouncing⟩
        cases hnext.symm.trans hpass'
        exact hsize ▸ hindex
    · have hslot : (o.turn pass).slot? pass.size = some ((o.turn pass).slot pass.size) := by
        unfold slot? slot
        rw [if_pos hindex]
        split <;> rfl
      have hlt : (o.turn pass).slot pass.size < next.size := by
        unfold slot
        split <;> omega
      rw [hslot, hnext]
      simp [Array.getD, hlt]

/-- Dealing keeps the order coherent and reads no place that the pass does not have. -/
theorem next (h : o.Coherent kind) (count : Nat) :
    (o.next count).2.Coherent kind ∧ o.next? count = some (o.next count) := by
  unfold Order.next Order.next?
  by_cases hcount : count = 0
  · rw [if_pos hcount, if_pos hcount]
    exact ⟨h, rfl⟩
  rw [if_neg hcount, if_neg hcount]
  by_cases hnone : o.kind = .none
  · rw [if_pos hnone, if_pos hnone]
    exact ⟨h.withDraws _, rfl⟩
  · rw [if_neg hnone, if_neg hnone]
    exact (h.fitted count).step false

theorem apply (h : o.Coherent kind) (operation : Operation) :
    (operation.apply o).Coherent kind := by
  cases operation with
  | next count => exact (h.next count).1
  | step force => exact (h.step force).1
  | setPinned pinned => exact ⟨h.kind_eq, h.fair, h.index_le, h.bouncing⟩
  | reset => exact (h.withDraws _).restart
  | reseed name => exact (h.withDraws _).restart

end Coherent

theorem after_coherent (kind : OrderKind) (seed : UInt64) (operations : List Operation) :
    (after kind seed operations).Coherent kind :=
  List.foldlRecOn operations Operation.apply (coherent_ofSeed kind seed)
    fun _ h operation _ => h.apply operation

/-! ## One pass -/

/-- The order as it is when it deals one of `count` items. -/
def opened (o : Order) (count : Nat) : Order :=
  (o.fitted count).turn ((o.fitted count).pass.getD #[])

/-- The order goes through its items, forwards, and no pin holds it. -/
structure Free (o : Order) : Prop where
  exhausts : o.kind.Exhausts
  fair : o.IsFair
  bouncing : o.bouncing = false
  pinned : o.pinned = false

theorem opened_of_size (hpass : o.pass = some pass) : o.opened pass.size = o.turn pass := by
  have hfitted : o.fitted pass.size = o := by
    rw [fitted, hpass]
    exact if_pos rfl
  rw [opened, hfitted, hpass, Option.getD_some]

theorem kind_opened (o : Order) (count : Nat) : (o.opened count).kind = o.kind := by
  have hfitted : (o.fitted count).kind = o.kind := by
    unfold fitted
    split <;> rfl
  rw [opened, turn, ← hfitted]
  split
  · rfl
  · split <;> rfl

theorem opened_of_lt (hpass : o.pass = some pass) (hindex : o.index < pass.size) :
    o.opened pass.size = o :=
  (opened_of_size hpass).trans (if_pos hindex)

namespace Free

theorem withIndex (h : o.Free) (i : Nat) : { o with index := i }.Free :=
  ⟨h.exhausts, h.fair, h.bouncing, h.pinned⟩

theorem fitted (h : o.Free) (count : Nat) : (o.fitted count).Free := by
  have hfair := (h.fair.fitted count).1
  unfold Order.fitted at hfair ⊢
  split
  · exact h
  · next hsize =>
    rw [if_neg hsize] at hfair
    exact ⟨h.exhausts, hfair, h.bouncing, h.pinned⟩

theorem turn (h : o.Free) (hpass : o.pass = some pass) : (o.turn pass).Free := by
  obtain ⟨-, -, hping, hpong⟩ := h.exhausts.ne
  have hfair := (h.fair.turn hpass).1
  unfold Order.turn at hfair ⊢
  split
  · exact h
  · next hindex =>
    rw [if_neg hindex] at hfair
    split
    · next hdeck =>
      rw [hdeck] at hfair
      exact ⟨h.exhausts, hfair, h.bouncing, h.pinned⟩
    · next hkind => exact absurd hkind hping
    · next hkind => exact absurd hkind hpong
    · exact ⟨h.exhausts, h.fair, h.bouncing, h.pinned⟩

theorem opened (h : o.Free) (count : Nat) : (o.opened count).Free ∧
    ∃ pass, (o.opened count).pass = some pass ∧ pass.size = count := by
  obtain ⟨-, pass, hpass, hsize⟩ := h.fair.fitted count
  have hturn := (h.fitted count).turn hpass
  obtain ⟨-, next, hnext, hnextSize⟩ := (h.fitted count).fair.turn hpass
  rw [Order.opened, hpass, Option.getD_some]
  exact ⟨hturn, next, hnext, hnextSize.trans hsize⟩

/-- A free order deals the item that it points at, and moves on. -/
theorem next_eq (h : o.Free) (hcount : 0 < count) (hpass : (o.opened count).pass = some pass) :
    o.next count = (pass.getD (o.opened count).index 0,
      { o.opened count with index := (o.opened count).index + 1 }) := by
  obtain ⟨hnone, -⟩ := h.exhausts.ne
  obtain ⟨-, hlocked, -⟩ := (h.fitted count).exhausts.ne
  obtain ⟨-, pass', hpass', hsize⟩ := h.fair.fitted count
  have hopened : o.opened count = (o.fitted count).turn pass' := by
    rw [Order.opened, hpass', Option.getD_some]
  have hfree := (h.opened count).1
  rw [hopened] at hpass hfree ⊢
  rw [Order.next, if_neg (Nat.ne_of_gt hcount), if_neg hnone, Order.step, hpass']
  dsimp only
  rw [if_neg (by omega), if_neg hlocked, hpass, slot, hfree.bouncing, hfree.pinned]
  rfl

/-- Within its pass, a free order goes on place by place. -/
theorem next_within (h : o.Free) (hpass : o.pass = some pass) (hindex : o.index < pass.size) :
    o.next pass.size = (pass[o.index], { o with index := o.index + 1 }) := by
  have hopened := opened_of_lt hpass hindex
  rw [h.next_eq (by omega) (hopened.symm ▸ hpass), hopened, Array.getElem_eq_getD]

theorem afterDeals_eq (h : o.Free) (hpass : o.pass = some pass) (hstart : o.index = 0) {i : Nat}
    (hi : i ≤ pass.size) : o.afterDeals pass.size i = { o with index := i } := by
  induction i with
  | zero =>
    cases o
    cases hstart
    rfl
  | succ i ih =>
    rw [afterDeals, ih (by omega), (h.withIndex i).next_within hpass hi]

theorem dealt_eq (h : o.Free) (hpass : o.pass = some pass) (hstart : o.index = 0) {i : Nat}
    (hi : i < pass.size) : o.dealt pass.size i = pass[i] := by
  rw [dealt, h.afterDeals_eq hpass hstart hi.le, (h.withIndex i).next_within hpass hi]

/-- What a free order deals next depends on nothing but the order that it opens. -/
theorem next_congr {q : Order} (h : o.Free) (hq : q.Free) (hcount : 0 < count)
    (hopened : o.opened count = q.opened count) : o.next count = q.next count := by
  obtain ⟨-, pass, hpass, -⟩ := h.opened count
  rw [h.next_eq hcount hpass, hq.next_eq hcount (hopened ▸ hpass), hopened]

/-- A free order turns to the start of a pass. -/
theorem index_turn (h : o.Free) (pass : Array Nat) :
    (o.turn pass).index = if o.index < pass.size then o.index else 0 := by
  obtain ⟨-, -, hping, hpong⟩ := h.exhausts.ne
  unfold Order.turn
  split
  · rfl
  · split
    · rfl
    · next hkind => exact absurd hkind hping
    · next hkind => exact absurd hkind hpong
    · rfl

end Free

/-! ## Pass after pass -/

theorem afterDeals_add (o : Order) (count m n : Nat) :
    o.afterDeals count (m + n) = (o.afterDeals count m).afterDeals count n := by
  induction n with
  | zero => rfl
  | succ n ih => rw [← Nat.add_assoc, afterDeals, ih, afterDeals]

theorem dealt_add (o : Order) (count m n : Nat) :
    o.dealt count (m + n) = (o.afterDeals count m).dealt count n := by
  rw [dealt, afterDeals_add, dealt]

theorem afterDeals_congr {q : Order} (h : o.next count = q.next count) {i : Nat} (hi : 0 < i) :
    o.afterDeals count i = q.afterDeals count i := by
  obtain ⟨n, rfl⟩ := Nat.exists_eq_add_of_le hi
  rw [afterDeals_add, afterDeals_add q, afterDeals, afterDeals, afterDeals, afterDeals, h]

theorem dealt_congr {q : Order} (h : o.next count = q.next count) (i : Nat) :
    o.dealt count i = q.dealt count i := by
  rcases Nat.eq_zero_or_pos i with rfl | hi
  · exact congrArg Prod.fst h
  · rw [dealt, afterDeals_congr h hi, dealt]

/-- The order is free, and the item that it deals next is the first one of a pass. -/
structure Ready (o : Order) (count : Nat) : Prop extends Free o where
  start : (o.opened count).index = 0

/-- All passes that an order deals from where it is hold every item below the count once, and a
`cdeck` deals the same items in every pass. -/
def DealsPasses (o : Order) (count : Nat) : Prop :=
  (∀ k, ((List.range count).map fun i => o.dealt count (k * count + i)).Perm (List.range count)) ∧
    (o.kind = .cdeck → ∀ i, o.dealt count (i + count) = o.dealt count i)

theorem Free.ready (h : o.Free) (hstart : o.pass.map (·.size) = some count → o.index = 0) :
    o.Ready count := by
  refine ⟨h, ?_⟩
  have hindex : (o.fitted count).index = 0 := by
    unfold Order.fitted
    split
    · next hsize => exact hstart hsize
    · rfl
  rw [Order.opened, (h.fitted count).index_turn, hindex, ite_self]

namespace Ready

theorem next_opened (h : o.Ready count) (hcount : 0 < count) :
    (o.opened count).next count = o.next count := by
  obtain ⟨hfree, pass, hpass, hsize⟩ := h.toFree.opened count
  refine hfree.next_congr h.toFree hcount ?_
  have hindex : (o.opened count).index < pass.size := by rw [h.start]; omega
  have hopened := opened_of_lt hpass hindex
  rwa [hsize] at hopened

theorem deals (h : o.Ready count) (hcount : 0 < count) :
    ((List.range count).map fun i => o.dealt count i).Perm (List.range count) := by
  obtain ⟨hfree, pass, hpass, rfl⟩ := h.toFree.opened count
  have hdealt : (List.range pass.size).map (o.dealt pass.size) = pass.toList := by
    refine List.ext_getElem (by simp) fun i hi hi' => ?_
    rw [List.getElem_map, List.getElem_range, ← dealt_congr (h.next_opened hcount),
      hfree.dealt_eq hpass h.start hi', Array.getElem_toList]
  rw [hdealt, ← Array.toList_range]
  exact (hfree.fair pass hpass).toList

theorem afterDeals_eq (h : o.Ready count) (hcount : 0 < count) :
    o.afterDeals count count = { o.opened count with index := count } := by
  obtain ⟨hfree, pass, hpass, rfl⟩ := h.toFree.opened count
  rw [← afterDeals_congr (h.next_opened hcount) hcount]
  exact hfree.afterDeals_eq hpass h.start le_rfl

theorem free_afterDeals (h : o.Ready count) (hcount : 0 < count) :
    (o.afterDeals count count).Free := by
  rw [h.afterDeals_eq hcount]
  exact (h.toFree.opened count).1.withIndex count

/-- An order that has dealt a pass turns it. -/
theorem opened_afterDeals (h : o.Ready count) (hcount : 0 < count) :
    ∃ pass : Array Nat, (o.afterDeals count count).opened count =
      { o.opened count with index := pass.size }.turn pass := by
  obtain ⟨hfree, pass, hpass, rfl⟩ := h.toFree.opened count
  rw [h.afterDeals_eq hcount]
  exact ⟨pass, opened_of_size (o := { o.opened pass.size with index := pass.size }) hpass⟩

theorem afterDeals (h : o.Ready count) (hcount : 0 < count) :
    (o.afterDeals count count).Ready count := by
  obtain ⟨pass, hopened⟩ := h.opened_afterDeals hcount
  have hend := (h.toFree.opened count).1.withIndex pass.size
  refine ⟨h.free_afterDeals hcount, ?_⟩
  rw [hopened, hend.index_turn, if_neg (Nat.lt_irrefl _)]

/-- A `cdeck` opens the pass that it has dealt once more. -/
theorem next_afterDeals (h : o.Ready count) (hcount : 0 < count) (hkind : o.kind = .cdeck) :
    (o.afterDeals count count).next count = o.next count := by
  obtain ⟨pass, hopened⟩ := h.opened_afterDeals hcount
  refine (h.free_afterDeals hcount).next_congr h.toFree hcount (hopened.trans ?_)
  have hcdeck : (o.opened count).kind = .cdeck := (kind_opened o count).trans hkind
  calc { o.opened count with index := pass.size }.turn pass
      = { o.opened count with index := 0 } := by
        rw [turn, if_neg (Nat.lt_irrefl _)]
        simp only [hcdeck]
    _ = o.opened count := by rw [← h.start]

theorem afterPasses (h : o.Ready count) (hcount : 0 < count) (k : Nat) :
    (o.afterDeals count (k * count)).Ready count := by
  induction k with
  | zero => rwa [Nat.zero_mul]
  | succ k ih =>
    rw [Nat.succ_mul, afterDeals_add]
    exact ih.afterDeals hcount

theorem dealsPasses (h : o.Ready count) (hcount : 0 < count) : o.DealsPasses count := by
  refine ⟨fun k => ?_, fun hkind i => ?_⟩
  · simp only [dealt_add]
    exact (h.afterPasses hcount k).deals hcount
  · rw [Nat.add_comm, dealt_add]
    exact dealt_congr (h.next_afterDeals hcount hkind) i

end Ready

/-! ## However an order is used -/

theorem Coherent.free (h : o.Coherent kind) (hkind : kind.Exhausts) (hpinned : o.pinned = false) :
    o.Free := by
  obtain ⟨-, -, hping, hpong⟩ := hkind.ne
  have hbouncing : o.bouncing = false :=
    Bool.eq_false_iff.2 fun hb => (h.bouncing hb).elim hping hpong
  exact ⟨h.kind_eq ▸ hkind, h.fair, hbouncing, hpinned⟩

theorem restart_start (o : Order) : o.restart.index = 0 ∧ o.restart.pinned = o.pinned := by
  unfold restart
  dsimp only
  split <;> exact ⟨rfl, rfl⟩

/-- However an order is used, its pass is a permutation and it points no further than the end of the
pass, no access leaves the pass, and what is dealt is below the count. And an order that goes through
its items deals every item in each pass, counted from where the pass is built, from its first place
or from where the order is rewound, as long as it is not pinned and the count stays the same. -/
theorem passes_after (kind : OrderKind) (seed : UInt64) (operations : List Operation) :
    let o := after kind seed operations
    (∀ pass, o.pass = some pass → pass.Perm (Array.range pass.size) ∧ o.index ≤ pass.size) ∧
      (∀ force, o.step? force = some (o.step force)) ∧
      (∀ count, o.next? count = some (o.next count)) ∧
      (∀ count, 0 < count → (o.next count).1 < count) ∧
      (kind.Exhausts → o.pinned = false → ∀ count, 0 < count →
        ((o.pass.map (·.size) = some count → o.index = 0) → o.DealsPasses count) ∧
          o.reset.DealsPasses count ∧ ∀ name, (o.reseed name).DealsPasses count) := by
  intro o
  have h : o.Coherent kind := after_coherent kind seed operations
  refine ⟨fun pass hpass => ⟨h.fair pass hpass, h.index_le pass hpass⟩, fun force => (h.step force).2,
    fun count => (h.next count).2, fun count hcount => (h.fair.next hcount).1, ?_⟩
  intro hkind hpinned count hcount
  have hrewound (g : Generator) : { o with draws := g }.restart.DealsPasses count := by
    obtain ⟨hindex, hfreed⟩ := restart_start { o with draws := g }
    have hfree := (h.withDraws g).restart.free hkind (hfreed.trans hpinned)
    exact (hfree.ready fun _ => hindex).dealsPasses hcount
  exact ⟨fun hstart => ((h.free hkind hpinned).ready hstart).dealsPasses hcount, hrewound _,
    fun _ => hrewound _⟩

/-- A `deck` is shuffled again behind each pass. -/
example : (List.range 9).map ((ofSeed .deck 7).dealt 3) = [1, 0, 2, 0, 2, 1, 2, 0, 1] := by
  decide +kernel

end Order

end Wordsmith
