import Mathlib.Data.List.Range
import Wordsmith.Order.Basic

/-!
# What orders deal

Whatever an order does with a pass, it moves items to other places and never adds or drops one. So a
pass of a count holds every item below the count once, and all that is dealt lies below the count.

Main results: `Order.IsFair.next` and `Order.dealt_lt`.
-/

namespace Wordsmith

namespace Order

variable {o : Order} {count : Nat} {pass : Array Nat}

/-- The pass holds every item below its size once. -/
def IsPass (pass : Array Nat) : Prop := pass.Perm (Array.range pass.size)

theorem IsPass.lt (h : IsPass pass) {item : Nat} (hitem : item ∈ pass) : item < pass.size :=
  Array.mem_range.1 (h.mem_iff.1 hitem)

theorem IsPass.range (count : Nat) : IsPass (Array.range count) := by
  rw [IsPass, Array.size_range]

theorem IsPass.of_perm {other : Array Nat} (h : IsPass pass) (hperm : other.Perm pass) :
    IsPass other := by
  rw [IsPass, hperm.size_eq]
  exact hperm.trans h

/-- What is dealt at a place of a pass, or 0 where there is none, lies below a count that is the size
of the pass. -/
theorem IsPass.getD_lt (h : IsPass pass) (hpos : 0 < pass.size) (i : Nat) :
    pass.getD i 0 < pass.size := by
  unfold Array.getD
  split
  · exact h.lt (Array.getElem_mem _)
  · exact hpos

/-! ## Shuffling -/

theorem swapIfInBounds_perm (pass : Array Nat) (i j : Nat) :
    (pass.swapIfInBounds i j).Perm pass := by
  unfold Array.swapIfInBounds
  split
  · split
    · exact Array.swap_perm ..
    · exact .rfl
  · exact .rfl

theorem swapDrawn_perm (state : Array Nat × Generator) (i : Nat) :
    (swapDrawn state i).1.Perm state.1 := swapIfInBounds_perm ..

theorem foldl_swapDrawn_perm (places : List Nat) (state : Array Nat × Generator) :
    (places.foldl swapDrawn state).1.Perm state.1 := by
  induction places generalizing state with
  | nil => exact .rfl
  | cons i places ih => exact (ih _).trans (swapDrawn_perm state i)

theorem shuffle_perm (pass : Array Nat) (g : Generator) : (shuffle pass g).1.Perm pass := by
  simp only [shuffle]
  split
  · exact .rfl
  · split
    · split
      · exact swapIfInBounds_perm ..
      · exact .rfl
    · exact foldl_swapDrawn_perm ..

theorem isPass_firstPass (kind : OrderKind) (count : Nat) (g : Generator) :
    IsPass (firstPass kind count g).1 ∧ (firstPass kind count g).1.size = count := by
  have hrange := IsPass.range count
  have hsize : (Array.range count).size = count := Array.size_range
  cases kind with
  | none | forward | ping => exact ⟨hrange, hsize⟩
  | reverse | pong =>
    have hperm : (Array.range count).reverse.Perm (Array.range count) :=
      Array.perm_iff_toList_perm.2 (Array.toList_reverse ▸ List.reverse_perm _)
    exact ⟨hrange.of_perm hperm, hperm.size_eq.trans hsize⟩
  | deck | cdeck | locked =>
    have hperm := shuffle_perm (Array.range count) g
    exact ⟨hrange.of_perm hperm, hperm.size_eq.trans hsize⟩

/-! ## Dealing -/

/-- If the order has a pass, it holds every item once. -/
def IsFair (o : Order) : Prop := ∀ pass, o.pass = some pass → IsPass pass

theorem isFair_ofSeed (kind : OrderKind) (seed : UInt64) : (ofSeed kind seed).IsFair := nofun

theorem IsFair.fitted (h : o.IsFair) (count : Nat) :
    (o.fitted count).IsFair ∧ ∃ pass, (o.fitted count).pass = some pass ∧ pass.size = count := by
  unfold Order.fitted
  split
  · next hsize =>
    obtain ⟨pass, hpass, hsize⟩ := Option.map_eq_some_iff.1 hsize
    exact ⟨h, pass, hpass, hsize⟩
  · obtain ⟨hfirst, hsize⟩ := isPass_firstPass o.kind count o.draws
    refine ⟨fun pass hpass => ?_, _, rfl, hsize⟩
    cases hpass
    exact hfirst

theorem IsFair.turn (h : o.IsFair) (hpass : o.pass = some pass) : (o.turn pass).IsFair ∧
    ∃ next, (o.turn pass).pass = some next ∧ next.size = pass.size := by
  unfold Order.turn
  split
  · exact ⟨h, pass, hpass, rfl⟩
  · split
    · have hperm := shuffle_perm pass o.draws
      refine ⟨fun next hnext => ?_, _, rfl, hperm.size_eq⟩
      cases hnext
      exact (h pass hpass).of_perm hperm
    · exact ⟨h, pass, hpass, rfl⟩
    · exact ⟨h, pass, hpass, rfl⟩
    · exact ⟨h, pass, hpass, rfl⟩

theorem IsFair.step (h : o.IsFair) (hpass : o.pass = some pass) (hpos : 0 < pass.size)
    (force : Bool) : (o.step force).1 < pass.size ∧ (o.step force).2.IsFair := by
  have hne : pass.size ≠ 0 := Nat.ne_of_gt hpos
  unfold Order.step
  rw [hpass]
  dsimp only
  rw [if_neg hne]
  by_cases hlocked : o.kind = .locked
  · rw [if_pos hlocked]
    exact ⟨(h pass hpass).getD_lt hpos 0, h⟩
  · obtain ⟨hturn, next, hnext, hsize⟩ := h.turn hpass
    rw [if_neg hlocked, ← hsize]
    constructor
    · rw [hnext, Option.getD_some]
      exact (hturn next hnext).getD_lt (by omega) _
    · split
      · exact hturn
      · exact hturn

/-- An order deals an item below the count, and stays fair. -/
theorem IsFair.next (h : o.IsFair) (hcount : 0 < count) :
    (o.next count).1 < count ∧ (o.next count).2.IsFair := by
  simp only [Order.next, Nat.ne_of_gt hcount, if_false]
  split
  · exact ⟨Generator.lessThan_lt _ hcount, h⟩
  · obtain ⟨hfair, pass, hpass, hsize⟩ := h.fitted count
    have hstep := hfair.step hpass (by omega) false
    rwa [hsize] at hstep

/-- The order after it has dealt a number of times. -/
def afterDeals (o : Order) (count : Nat) : Nat → Order
  | 0 => o
  | i + 1 => ((o.afterDeals count i).next count).2

/-- The item that the order deals after it has dealt a number of times. -/
def dealt (o : Order) (count i : Nat) : Nat := ((o.afterDeals count i).next count).1

theorem IsFair.afterDeals (h : o.IsFair) (hcount : 0 < count) (i : Nat) :
    (o.afterDeals count i).IsFair := by
  induction i with
  | zero => exact h
  | succ i ih => exact (ih.next hcount).2

theorem dealt_lt (h : o.IsFair) (hcount : 0 < count) (i : Nat) : o.dealt count i < count :=
  ((h.afterDeals hcount i).next hcount).1

end Order

end Wordsmith
