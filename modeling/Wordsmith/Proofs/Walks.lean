import Wordsmith.Proofs.Passes

/-!
# Walks of an order

Four kinds leave nothing to chance. A `forward` and a `reverse` order begin again at the end that
they started from; a `ping` and a `pong` turn around at each end, and do not deal the end twice. So
what they deal is told by the number of deals alone, counted from where the pass was built: how far
the walk is from the end where it started, and which end that is.

All that the order knows of its walk is how far the pass has been dealt and whether it goes
backwards. Both follow from the number of passes that are behind it (`Walking`), since a pass takes
one deal less where its first place was the last one of the pass before.

When the count changes, the pass is built anew and dealt from its first place, but an order that
goes backwards at that moment still does. Then the walk starts at the other end.

Main results: `dealt_ofSeed` and `dealt_after_change`.
-/

namespace Wordsmith

namespace OrderKind

/-- The kinds that go through their items place by place, and shuffle nothing. -/
def IsWalk (kind : OrderKind) : Prop := kind ∈ [.forward, .reverse, .ping, .pong]

instance (kind : OrderKind) : Decidable kind.IsWalk := inferInstanceAs (Decidable (kind ∈ _))

/-- Whether a pass begins with the last item. -/
def descends (kind : OrderKind) : Bool := kind = .reverse || kind = .pong

/-- Whether the kind turns around at the end of a pass. -/
def turnsBack (kind : OrderKind) : Bool := kind = .ping || kind = .pong

/-- The kind that walks from the other end. -/
def opposite : OrderKind → OrderKind
  | forward => reverse
  | reverse => forward
  | ping => pong
  | pong => ping
  | kind => kind

/-- How many deals lie between the starts of two passes: the end where a kind turns around belongs
to both of them. -/
def stride (kind : OrderKind) (count : Nat) : Nat := if kind.turnsBack then count - 1 else count

end OrderKind

namespace Order

variable {o : Order} {kind : OrderKind} {count n : Nat} {pass : Array Nat}

/-! ## One deal -/

theorem exists_pass_fitted (o : Order) (count : Nat) :
    ∃ pass, (o.fitted count).pass = some pass ∧ pass.size = count := by
  unfold fitted
  split
  · next hsize => exact Option.map_eq_some_iff.1 hsize
  · exact ⟨_, rfl, (isPass_firstPass o.kind count o.draws).2⟩

theorem fitted_of_size (h : o.pass.map (·.size) = some count) : o.fitted count = o := if_pos h

theorem fitted_fitted (o : Order) (count : Nat) :
    (o.fitted count).fitted count = o.fitted count := by
  obtain ⟨pass, hpass, hsize⟩ := o.exists_pass_fitted count
  exact fitted_of_size (by rw [hpass, Option.map_some, hsize])

theorem pinned_fitted (o : Order) (count : Nat) : (o.fitted count).pinned = o.pinned := by
  unfold fitted
  split <;> rfl

theorem kind_fitted (o : Order) (count : Nat) : (o.fitted count).kind = o.kind := by
  unfold fitted
  split <;> rfl

theorem pinned_turn (o : Order) (pass : Array Nat) : (o.turn pass).pinned = o.pinned := by
  unfold turn
  split
  · rfl
  · split <;> rfl

theorem pinned_opened (o : Order) (count : Nat) : (o.opened count).pinned = o.pinned := by
  rw [opened, pinned_turn, pinned_fitted]

/-- An order that deals from its pass opens it, and deals the item at its place; unless it is pinned,
it moves on. -/
theorem next_eq_opened (hnone : o.kind ≠ .none) (hlocked : o.kind ≠ .locked) (hcount : 0 < count) :
    o.next count = (((o.opened count).pass.getD #[]).getD ((o.opened count).slot count) 0,
      if o.pinned then o.opened count
      else { o.opened count with index := (o.opened count).index + 1 }) := by
  obtain ⟨pass, hpass, hsize⟩ := o.exists_pass_fitted count
  have hopened : o.opened count = (o.fitted count).turn pass := by
    rw [opened, hpass, Option.getD_some]
  rw [next, if_neg (Nat.ne_of_gt hcount), if_neg hnone, step, hpass]
  dsimp only
  rw [if_neg (by omega), if_neg (kind_fitted o count ▸ hlocked), ← hopened, pinned_opened, hsize,
    Bool.not_false, Bool.and_true]

/-- A `locked` order deals the first item of its pass. -/
theorem next_eq_fitted (hlocked : o.kind = .locked) (hcount : 0 < count) :
    o.next count = (((o.fitted count).pass.getD #[]).getD 0 0, o.fitted count) := by
  obtain ⟨pass, hpass, hsize⟩ := o.exists_pass_fitted count
  rw [next, if_neg (Nat.ne_of_gt hcount), if_neg (by simp [hlocked]), step, hpass]
  dsimp only
  rw [if_neg (by omega), if_pos ((kind_fitted o count).trans hlocked), Option.getD_some]

/-- What an order deals from now on is what it deals once its pass is built. -/
theorem next_fitted (o : Order) (hnone : o.kind ≠ .none) (hcount : 0 < count) :
    (o.fitted count).next count = o.next count := by
  rw [next, next, if_neg (Nat.ne_of_gt hcount), if_neg (Nat.ne_of_gt hcount), if_neg hnone,
    if_neg (kind_fitted o count ▸ hnone), fitted_fitted]

/-! ## Where a walk is -/

/-- How far a walk up and down between two ends is from the first one after some steps. -/
def bounce (count n : Nat) : Nat :=
  let k := n % (2 * (count - 1))
  min k (2 * (count - 1) - k)

/-- How far a walk is from the end where it started. -/
def distance (kind : OrderKind) (count n : Nat) : Nat :=
  if kind.turnsBack then bounce count n else n % count

theorem distance_zero (kind : OrderKind) (count : Nat) : distance kind count 0 = 0 := by
  unfold distance bounce
  split <;> simp

/-- The item at a distance from the end where a walk started. -/
def itemAt (count : Nat) (down : Bool) (i : Nat) : Nat := if down then count - 1 - i else i

/-- Behind each turn the distance counts from the other end. -/
theorem bounce_eq (hcount : 1 < count) (j : Nat) {i : Nat} (hi : i < count) :
    bounce count (j * (count - 1) + i) = itemAt count (j % 2 = 1) i := by
  obtain ⟨m, rfl⟩ : ∃ m, count = m + 1 := ⟨count - 1, by omega⟩
  have hrounds : j * m = 2 * m * (j / 2) + j % 2 * m := by
    rw [Nat.mul_right_comm, ← Nat.add_mul, Nat.div_add_mod]
  have hmod : (j * m + i) % (2 * m) = (j % 2 * m + i) % (2 * m) := by
    rw [hrounds, Nat.add_assoc, Nat.mul_add_mod]
  rw [bounce, Nat.add_sub_cancel, hmod, itemAt]
  rcases Nat.mod_two_eq_zero_or_one j with hj | hj
  · rw [hj, if_neg (by decide), Nat.zero_mul, Nat.zero_add, Nat.mod_eq_of_lt (by omega)]
    omega
  · rw [hj, if_pos (by decide), Nat.one_mul]
    rcases Nat.lt_or_ge i m with him | him
    · rw [Nat.mod_eq_of_lt (by omega)]
      omega
    · obtain rfl : i = m := by omega
      rw [← Nat.two_mul, Nat.mod_self]
      omega

theorem itemAt_itemAt (down back : Bool) {i : Nat} (hi : i < count) :
    itemAt count down (itemAt count back i) = itemAt count (down ^^ back) i := by
  cases down <;> cases back
  case true.true =>
    dsimp [itemAt]
    omega
  all_goals rfl

/-- The distance after a number of passes and a part of one. -/
theorem distance_eq (hstride : 0 < kind.stride count) (j : Nat) {i : Nat} (hi : i < count) :
    distance kind count (j * kind.stride count + i) =
      itemAt count (kind.turnsBack && j % 2 = 1) i := by
  unfold OrderKind.stride at hstride ⊢
  unfold distance
  cases hturns : kind.turnsBack with
  | true =>
    simp only [hturns, if_true] at hstride ⊢
    rw [bounce_eq (by omega) j hi, Bool.true_and]
  | false =>
    simp only [Bool.false_eq_true, if_false]
    rw [Nat.add_comm, Nat.add_mul_mod_self_right, Nat.mod_eq_of_lt hi, Bool.false_and]
    rfl

/-! ## Walking -/

/-- The item at a place of the pass that a walk goes through. -/
theorem getD_firstPass (hkind : kind.IsWalk) (g : Generator) {i : Nat} (hi : i < count) :
    (firstPass kind count g).1.getD i 0 = itemAt count kind.descends i := by
  simp only [OrderKind.IsWalk, List.mem_cons, List.not_mem_nil, or_false] at hkind
  rcases hkind with rfl | rfl | rfl | rfl <;>
    simp [firstPass, itemAt, OrderKind.descends, Array.getD, hi]

/-- The order has dealt some items of a walk through a count, which it started with the last or the
first item: so many passes are behind it, and a part of one. -/
structure Walking (o : Order) (kind : OrderKind) (count : Nat) (down : Bool) (n : Nat) : Prop where
  kind_eq : o.kind = kind
  pinned : o.pinned = false
  pass : ∃ g, o.pass = some (firstPass kind count g).1
  index_le : o.index ≤ count
  exists_passes : ∃ j, n = j * kind.stride count + o.index ∧
    (kind.descends ^^ o.bouncing) = (down ^^ (kind.turnsBack && j % 2 = 1))

theorem stride_le (kind : OrderKind) (count : Nat) : kind.stride count ≤ count := by
  unfold OrderKind.stride
  split <;> omega

/-- A walk goes on behind its last place with the first one, or turns around and goes on with the one
before. -/
theorem turn_eq (hkind : o.kind.IsWalk) (hstride : 0 < o.kind.stride pass.size)
    (hindex : ¬o.index < pass.size) : o.turn pass =
      { o with
        index := pass.size - o.kind.stride pass.size
        bouncing := o.bouncing ^^ o.kind.turnsBack } := by
  obtain ⟨kind, draws, pass', index, bouncing, pinned⟩ := o
  simp only [OrderKind.IsWalk, List.mem_cons, List.not_mem_nil, or_false] at hkind
  rw [turn, if_neg hindex]
  rcases hkind with rfl | rfl | rfl | rfl
  · simp [OrderKind.stride, OrderKind.turnsBack]
  · simp [OrderKind.stride, OrderKind.turnsBack]
  · have hsize : 1 < pass.size := Nat.lt_of_sub_pos hstride
    have hnext : pass.size - (pass.size - 1) = 1 := by omega
    simp [OrderKind.stride, OrderKind.turnsBack, hsize, hnext]
  · have hsize : 1 < pass.size := Nat.lt_of_sub_pos hstride
    have hnext : pass.size - (pass.size - 1) = 1 := by omega
    simp [OrderKind.stride, OrderKind.turnsBack, hsize, hnext]

namespace Walking

variable {down : Bool}

/-- An order that has just built its pass starts a walk. -/
theorem fitted (hkind : o.kind = kind) (hpinned : o.pinned = false)
    (hsize : o.pass.map (·.size) ≠ some count) :
    (o.fitted count).Walking kind count (kind.descends ^^ o.bouncing) 0 := by
  have hfitted : o.fitted count = { o.build count with index := 0 } := if_neg hsize
  rw [hfitted]
  exact ⟨hkind, hpinned, ⟨o.draws, by rw [build, hkind]⟩, Nat.zero_le _, 0, by simp,
    by simp [build]⟩

theorem size_eq (h : o.Walking kind count down n) : o.pass.map (·.size) = some count := by
  obtain ⟨g, hpass⟩ := h.pass
  rw [hpass, Option.map_some, (isPass_firstPass kind count g).2]

/-- At the end of its pass the walk goes on with the next one. -/
theorem opened (h : o.Walking kind count down n) (hkind : kind.IsWalk)
    (hstride : 0 < kind.stride count) :
    (o.opened count).Walking kind count down n ∧ (o.opened count).index < count := by
  obtain ⟨g, hpass⟩ := h.pass
  have hsize := (isPass_firstPass kind count g).2
  have hopened : o.opened count = o.turn (firstPass kind count g).1 := by
    have heq := opened_of_size hpass
    rwa [hsize] at heq
  rw [hopened]
  by_cases hindex : o.index < count
  · rw [turn, if_pos (by rwa [hsize])]
    exact ⟨h, hindex⟩
  obtain ⟨j, hn, hdown⟩ := h.exists_passes
  have hend : o.index = count := Nat.le_antisymm h.index_le (Nat.le_of_not_lt hindex)
  have hle := stride_le kind count
  rw [turn_eq (h.kind_eq ▸ hkind) (by rwa [h.kind_eq, hsize]) (by rwa [hsize]), hsize, h.kind_eq]
  refine ⟨⟨rfl, h.pinned, ⟨g, hpass⟩, Nat.sub_le _ _, j + 1, ?_, ?_⟩, by dsimp only; omega⟩
  · rw [Nat.succ_mul]
    dsimp only
    omega
  · have hparity : decide ((j + 1) % 2 = 1) = !decide (j % 2 = 1) := by
      rw [← decide_not]
      exact decide_eq_decide.2 (by omega)
    dsimp only
    rw [← Bool.xor_assoc, hdown, hparity]
    cases down <;> cases kind.turnsBack <;> simp

/-- A walk deals the item at its distance, and is one step further. -/
theorem next (h : o.Walking kind count down n) (hkind : kind.IsWalk)
    (hstride : 0 < kind.stride count) :
    (o.next count).1 = itemAt count down (distance kind count n) ∧
      (o.next count).2.Walking kind count down (n + 1) := by
  have hcount : 0 < count := Nat.lt_of_lt_of_le hstride (stride_le kind count)
  obtain ⟨hopened, hindex⟩ := h.opened hkind hstride
  have hnone : kind ≠ .none ∧ kind ≠ .locked := by
    constructor <;> rintro rfl <;> revert hkind <;> decide
  rw [next_eq_opened (h.kind_eq ▸ hnone.1) (h.kind_eq ▸ hnone.2) hcount, h.pinned]
  obtain ⟨g, hpass⟩ := hopened.pass
  obtain ⟨j, hn, hdown⟩ := hopened.exists_passes
  generalize o.opened count = q at *
  refine ⟨?_, hopened.kind_eq, hopened.pinned, ⟨g, hpass⟩, hindex, j, ?_, hdown⟩
  · have hslot : q.slot count = itemAt count q.bouncing q.index := by
      unfold slot itemAt
      split <;> rfl
    have hlt : q.slot count < count := by
      rw [hslot]
      unfold itemAt
      split <;> omega
    rw [hpass, Option.getD_some, getD_firstPass hkind g hlt, hslot, itemAt_itemAt _ _ hindex, hdown,
      hn, distance_eq hstride j hindex, itemAt_itemAt _ _ hindex]
  · rw [hn, Nat.add_assoc]
    rfl

theorem dealt_eq (h : o.Walking kind count down 0) (hkind : kind.IsWalk)
    (hstride : 0 < kind.stride count) (n : Nat) :
    o.dealt count n = itemAt count down (distance kind count n) := by
  have hafter : (o.afterDeals count n).Walking kind count down n := by
    induction n with
    | zero => exact h
    | succ n ih => exact (ih.next hkind hstride).2
  exact (hafter.next hkind hstride).1

end Walking

/-- What an order deals from where its pass is built. -/
theorem dealt_of_size_ne (hkind : o.kind.IsWalk) (hpinned : o.pinned = false) (hcount : 0 < count)
    (hfair : o.IsFair) (hsize : o.pass.map (·.size) ≠ some count) (n : Nat) :
    o.dealt count n = itemAt count (o.kind.descends ^^ o.bouncing) (distance o.kind count n) := by
  have hnone : o.kind ≠ .none := by
    intro hnone
    rw [hnone] at hkind
    revert hkind
    decide
  by_cases hstride : 0 < o.kind.stride count
  · rw [← dealt_congr (o.next_fitted hnone hcount)]
    exact (Walking.fitted rfl hpinned hsize).dealt_eq hkind hstride n
  · -- a walk that turns around at once has one item only
    have hone : o.kind.turnsBack = true ∧ count = 1 := by
      unfold OrderKind.stride at hstride
      split at hstride
      · next hturns => exact ⟨hturns, by omega⟩
      · exact absurd hcount hstride
    obtain ⟨hturns, rfl⟩ := hone
    have hlt := dealt_lt hfair hcount n
    have hzero : distance o.kind 1 n = 0 := by simp [distance, hturns, bounce]
    rw [hzero]
    unfold itemAt
    split <;> omega

/-! ## Orders without chance -/

theorem dealt_ofSeed_of_isWalk (hkind : kind.IsWalk) (seed : UInt64) (hcount : 0 < count) (n : Nat) :
    (ofSeed kind seed).dealt count n = itemAt count kind.descends (distance kind count n) := by
  have hsize : (ofSeed kind seed).pass.map (·.size) ≠ some count := nofun
  rw [dealt_of_size_ne hkind rfl hcount (isFair_ofSeed kind seed) hsize]
  exact congrArg (itemAt count · _) (Bool.xor_false _)

/-- A `locked` order deals one item for ever. -/
theorem dealt_of_locked (hkind : o.kind = .locked) (hcount : 0 < count) (n : Nat) :
    o.dealt count n = o.dealt count 0 := by
  have hnone : o.kind ≠ .none := by simp [hkind]
  have hsame : (o.next count).2.next count = o.next count :=
    (congrArg (·.2.next count) (next_eq_fitted hkind hcount)).trans (o.next_fitted hnone hcount)
  induction n with
  | zero => rfl
  | succ n ih => rw [Nat.add_comm, dealt_add, ← ih, ← dealt_congr hsame, afterDeals, afterDeals]

/-- What new orders that leave nothing to chance deal: in a row from the first item or from the last
one, or up and down between the two without dealing either twice, or one item for ever. -/
theorem dealt_ofSeed (seed : UInt64) (count : Nat) (hcount : 0 < count) (n : Nat) :
    (ofSeed .forward seed).dealt count n = n % count ∧
      (ofSeed .reverse seed).dealt count n = count - 1 - n % count ∧
      (count = 1 → (ofSeed .ping seed).dealt count n = 0 ∧ (ofSeed .pong seed).dealt count n = 0) ∧
      (2 ≤ count →
        let k := n % (2 * (count - 1))
        (ofSeed .ping seed).dealt count n = min k (2 * (count - 1) - k) ∧
          (ofSeed .pong seed).dealt count n = count - 1 - min k (2 * (count - 1) - k)) ∧
      ∃ item < count, ∀ m, (ofSeed .locked seed).dealt count m = item := by
  have hwalk : ∀ {kind : OrderKind}, kind.IsWalk → (ofSeed kind seed).dealt count n =
      itemAt count kind.descends (distance kind count n) := fun hkind =>
    dealt_ofSeed_of_isWalk hkind seed hcount n
  refine ⟨hwalk (by decide), hwalk (by decide), ?_, fun _ => ⟨hwalk (by decide), hwalk (by decide)⟩,
    _, dealt_lt (isFair_ofSeed .locked seed) hcount 0, fun m => dealt_of_locked rfl hcount m⟩
  rintro rfl
  have hlt := fun kind => dealt_lt (isFair_ofSeed kind seed) Nat.one_pos n
  exact ⟨Nat.lt_one_iff.1 (hlt .ping), Nat.lt_one_iff.1 (hlt .pong)⟩

/-- Four items, of which the twelfth deal is in the third pass or behind the third turn. -/
theorem dealt_ofSeed_four : (ofSeed .forward 42).dealt 4 11 = 3 ∧ (ofSeed .reverse 42).dealt 4 11 = 0 ∧
    (ofSeed .ping 42).dealt 4 11 = 1 ∧ (ofSeed .pong 42).dealt 4 11 = 2 := by
  obtain ⟨hforward, hreverse, -, hbounce, -⟩ := dealt_ofSeed 42 4 (by decide) 11
  obtain ⟨hping, hpong⟩ := hbounce (by decide)
  exact ⟨hforward, hreverse, hping, hpong⟩

/-- Neither end is dealt twice in a row. -/
example : (List.range 9).map ((ofSeed .pong 42).dealt 3) = [2, 1, 0, 1, 2, 1, 0, 1, 2] := by
  decide +kernel

/-! ## A change of the count -/

theorem descends_opposite {kind : OrderKind} (hkind : kind.IsWalk) :
    kind.opposite.IsWalk ∧ kind.opposite.descends = !kind.descends ∧
      kind.opposite.turnsBack = kind.turnsBack := by
  revert hkind
  cases kind <;> decide

/-- When the count changes, an order that leaves nothing to chance deals what a new one deals, unless
it goes backwards at that moment and there is more than one item. When it goes backwards, which only
those do that turn around, it deals what a new order deals that starts at the other end. -/
theorem dealt_after_change (kind : OrderKind) (hkind : kind.IsWalk) (seed seed' : UInt64)
    (operations : List Operation) (count : Nat) (hcount : 0 < count)
    (hpinned : (after kind seed operations).pinned = false)
    (hsize : (after kind seed operations).pass.map (·.size) ≠ some count) :
    let o := after kind seed operations
    (kind = .forward ∨ kind = .reverse → o.bouncing = false) ∧
      ((∀ n, o.dealt count n = (ofSeed kind seed').dealt count n) ↔
        o.bouncing = false ∨ count = 1) ∧
      (o.bouncing = true → ∀ n, o.dealt count n = (ofSeed kind.opposite seed').dealt count n) := by
  intro o
  have h : o.Coherent kind := after_coherent kind seed operations
  have hwalk : o.kind.IsWalk := h.kind_eq.symm ▸ hkind
  have hdealt : ∀ n, o.dealt count n =
      itemAt count (kind.descends ^^ o.bouncing) (distance kind count n) := by
    have hdealt := dealt_of_size_ne hwalk hpinned hcount h.fair hsize
    rwa [h.kind_eq] at hdealt
  have hfresh := dealt_ofSeed_of_isWalk hkind seed' hcount
  refine ⟨fun hcycle => ?_, ⟨fun hsame => ?_, ?_⟩, fun hbouncing n => ?_⟩
  · refine Bool.eq_false_iff.2 fun hb => ?_
    rcases hcycle with rfl | rfl <;> rcases h.bouncing hb with hturn | hturn <;> cases hturn
  · -- the two ends are told apart by the first item
    have hfirst := hsame 0
    rw [hdealt, hfresh, distance_zero] at hfirst
    cases hbouncing : o.bouncing with
    | false => exact .inl rfl
    | true =>
      rw [hbouncing, Bool.xor_true] at hfirst
      cases hdown : kind.descends <;> rw [hdown] at hfirst <;> dsimp [itemAt] at hfirst <;> omega
  · rintro (hbouncing | rfl) n
    · rw [hdealt, hfresh, hbouncing, Bool.xor_false]
    · have hlt := dealt_lt h.fair hcount n
      have hlt' := dealt_lt (isFair_ofSeed kind seed') hcount n
      omega
  · obtain ⟨hopposite, hdescends, hturns⟩ := descends_opposite hkind
    rw [hdealt, hbouncing, Bool.xor_true, dealt_ofSeed_of_isWalk hopposite seed' hcount, hdescends,
      distance, distance, hturns]

/-- An order that has turned twice and goes upwards again. -/
theorem dealt_after_change_upwards :
    let o := after .ping 42 (List.replicate 6 (.next 3))
    o.pinned = false ∧ o.pass.map (·.size) = some 3 ∧ o.index = 2 ∧
      ∀ n, o.dealt 5 n = (ofSeed .ping 7).dealt 5 n := by
  intro o
  have hpass : o.pass.map (·.size) = some 3 := by decide +kernel
  have hsize : o.pass.map (·.size) ≠ some 5 := by
    rw [hpass]
    decide
  have hchange := dealt_after_change .ping (by decide) 42 7 (List.replicate 6 (.next 3)) 5
    (by decide) (by decide +kernel) hsize
  exact ⟨by decide +kernel, hpass, by decide +kernel, hchange.2.1.2 (.inl (by decide +kernel))⟩

/-- An order that is on its way back when the count changes begins with the last item. -/
theorem dealt_after_turn :
    let o := after .ping 42 (List.replicate 4 (.next 3))
    o.pinned = false ∧ o.pass.map (·.size) = some 3 ∧ o.dealt 5 0 = 4 ∧
      (ofSeed .ping 42).dealt 5 0 = 0 := by
  decide +kernel

end Order

end Wordsmith
