import Wordsmith.Proofs.Walks

/-!
# Pins

A draw from a pinned order deals the item that is due and leaves it due. It still builds the pass
when there is none, and begins the next one when a pass is over, which may shuffle the items or turn
the order around. But it does early what the next draw would do, and that finds it done: what a draw
deals, and the order that it leaves, are told by the opened order alone, and an opened order is open.
A forced step is a draw that no pin holds.

So a history of draws, forced steps and pins comes to what is left of it without the pins and without
the draws that they held (`unheld`), and an order is as far as the number of operations that are left.

Main result: `pins_keep`.
-/

namespace Wordsmith

namespace Order

variable {o f : Order} {kind : OrderKind} {count n : Nat}

/-- The order with no pin. -/
def unpinned (o : Order) : Order := { o with pinned := false }

theorem unpinned_of_not (h : o.pinned = false) : o.unpinned = o := by
  cases o
  cases h
  rfl

theorem unpinned_fitted (o : Order) (count : Nat) :
    (o.fitted count).unpinned = o.unpinned.fitted count := by
  have hsame : o.unpinned.pass = o.pass := rfl
  unfold fitted
  rw [hsame]
  split <;> rfl

theorem unpinned_turn (o : Order) (pass : Array Nat) :
    (o.turn pass).unpinned = o.unpinned.turn pass := by
  have hindex : o.unpinned.index = o.index := rfl
  have hkind : o.unpinned.kind = o.kind := rfl
  unfold turn
  rw [hindex, hkind]
  split
  · rfl
  · split <;> rfl

theorem unpinned_opened (o : Order) (count : Nat) :
    (o.opened count).unpinned = o.unpinned.opened count := by
  rw [opened, opened, ← unpinned_fitted, unpinned_turn]
  rfl

/-! ## What a draw finds done -/

/-- An opened order has a pass of the count, and points into it. -/
theorem opened_fits (o : Order) (hcount : 0 < count) :
    (o.opened count).pass.map (·.size) = some count ∧ (o.opened count).index < count := by
  obtain ⟨pass, hpass, hsize⟩ := o.exists_pass_fitted count
  rw [opened, hpass, Option.getD_some, turn]
  split
  · next hindex => exact ⟨by rw [hpass, Option.map_some, hsize], hsize ▸ hindex⟩
  · split
    · exact ⟨congrArg some ((shuffle_perm pass _).size_eq.trans hsize), hcount⟩
    · refine ⟨by rw [hpass, Option.map_some, hsize], ?_⟩
      dsimp only
      split <;> omega
    · refine ⟨by rw [hpass, Option.map_some, hsize], ?_⟩
      dsimp only
      split <;> omega
    · exact ⟨by rw [hpass, Option.map_some, hsize], hcount⟩

theorem opened_opened (o : Order) (hcount : 0 < count) :
    (o.opened count).opened count = o.opened count := by
  obtain ⟨hsize, hindex⟩ := o.opened_fits hcount
  obtain ⟨pass, hpass, rfl⟩ := Option.map_eq_some_iff.1 hsize
  exact opened_of_lt hpass hindex

/-! ## One operation -/

section

variable (hnone : o.kind ≠ .none) (hcount : 0 < count)

include hnone hcount

/-- A draw leaves the order of its kind, with a pass of the count. -/
theorem next_state : (o.next count).2.kind = o.kind ∧ (o.next count).2.pinned = o.pinned ∧
    (o.next count).2.pass.map (·.size) = some count := by
  by_cases hlocked : o.kind = .locked
  · obtain ⟨pass, hpass, hsize⟩ := o.exists_pass_fitted count
    rw [next_eq_fitted hlocked hcount]
    refine ⟨kind_fitted o count, pinned_fitted o count, ?_⟩
    rw [hpass, Option.map_some, hsize]
  · rw [next_eq_opened hnone hlocked hcount]
    dsimp only
    split <;> exact ⟨kind_opened o count, pinned_opened o count, (o.opened_fits hcount).1⟩

/-- A pin does not matter for what is dealt. -/
theorem next_unpinned : (o.unpinned.next count).1 = (o.next count).1 := by
  by_cases hlocked : o.kind = .locked
  · rw [next_eq_fitted hlocked hcount, next_eq_fitted (o := o.unpinned) hlocked hcount,
      ← unpinned_fitted]
    rfl
  · rw [next_eq_opened hnone hlocked hcount, next_eq_opened (o := o.unpinned) hnone hlocked hcount,
      ← unpinned_opened]
    rfl

/-- What is due stays due in a draw that a pin holds. -/
theorem next_held (hpinned : o.pinned = true) :
    (o.next count).2.unpinned.next count = o.unpinned.next count := by
  by_cases hlocked : o.kind = .locked
  · rw [next_eq_fitted hlocked hcount]
    dsimp only
    rw [unpinned_fitted, next_fitted o.unpinned hnone hcount]
  · have hopened : (o.next count).2 = o.opened count := by
      rw [next_eq_opened hnone hlocked hcount]
      exact if_pos hpinned
    have hkind : (o.opened count).unpinned.kind = o.kind := kind_opened o count
    rw [hopened, next_eq_opened (hkind ▸ hnone) (hkind ▸ hlocked) hcount,
      next_eq_opened (o := o.unpinned) hnone hlocked hcount, unpinned_opened,
      opened_opened _ hcount, ← unpinned_opened]
    rfl

/-- A forced step is a draw that no pin holds. -/
theorem step_true (hsize : o.pass.map (·.size) = some count) : o.step true =
    ((o.unpinned.next count).1, { (o.unpinned.next count).2 with pinned := o.pinned }) := by
  obtain ⟨pass, hpass, rfl⟩ := Option.map_eq_some_iff.1 hsize
  have hfitted : o.fitted pass.size = o := fitted_of_size hsize
  by_cases hlocked : o.kind = .locked
  · have hpass' : o.unpinned.pass = some pass := hpass
    rw [next_eq_fitted (o := o.unpinned) hlocked hcount, ← unpinned_fitted, hfitted, step, hpass,
      hpass', Option.getD_some]
    dsimp only
    rw [if_neg (Nat.ne_of_gt hcount), if_pos hlocked]
    rfl
  · have hfree : ¬o.unpinned.pinned = true := Bool.false_ne_true
    rw [next_eq_opened (o := o.unpinned) hnone hlocked hcount, if_neg hfree, ← unpinned_opened,
      opened_of_size hpass, step, hpass, ← pinned_turn o pass]
    dsimp only
    rw [if_neg (Nat.ne_of_gt hcount), if_neg hlocked, Bool.not_true, Bool.and_false,
      if_neg Bool.false_ne_true]
    rfl

end

/-! ## Histories -/

/-- The operation is a draw of the count, a forced step or a change of the pin. -/
def Operation.Plays (count : Nat) : Operation → Prop
  | .next count' => count' = count
  | .step force => force = true
  | .setPinned _ => True
  | .reset => False
  | .reseed _ => False

/-- What is left of a history, which began with a pin or without one, when the pins and the draws that
they held are taken out. -/
def unheld : Bool → List Operation → List Operation
  | _, [] => []
  | _, .setPinned pinned :: rest => unheld pinned rest
  | true, .next _ :: rest => unheld true rest
  | pinned, operation :: rest => operation :: unheld pinned rest

/-- The first thing that happens to the order, its pins apart, is a draw. -/
def OpensWithDraw : List Operation → Prop
  | [] => True
  | .setPinned _ :: rest => OpensWithDraw rest
  | operation :: _ => ∃ count, operation = .next count

theorem unheld_sublist (pinned : Bool) (operations : List Operation) :
    (unheld pinned operations).Sublist operations := by
  fun_induction unheld pinned operations with
  | case1 => exact .slnil
  | case2 _ _ rest ih => exact ih.cons _
  | case3 _ rest ih => exact ih.cons _
  | case4 _ operation rest _ _ ih => exact ih.cons_cons operation

/-- No pin and no held draw is left. -/
theorem unheld_unheld (pinned : Bool) (operations : List Operation) :
    unheld false (unheld pinned operations) = unheld pinned operations := by
  fun_induction unheld pinned operations with
  | case1 => rfl
  | case2 _ _ rest ih => exact ih
  | case3 _ rest ih => exact ih
  | case4 pinned operation rest hpin hheld ih =>
    rw [unheld, ih]
    · exact hpin
    · exact fun _ hfalse => absurd hfalse Bool.false_ne_true

theorem OpensWithDraw.of_unheld {pinned : Bool} {operations : List Operation}
    (h : OpensWithDraw (unheld pinned operations)) : OpensWithDraw operations := by
  fun_induction unheld pinned operations with
  | case1 => exact h
  | case2 _ _ rest ih => exact ih h
  | case3 count rest ih => exact ⟨count, rfl⟩
  | case4 pinned operation rest hpin hheld ih =>
    cases operation with
    | setPinned pinned' => exact absurd rfl (hpin pinned')
    | _ => exact h

/-- The order is as far as the other one behind some draws, but for its pin. -/
structure Keeps (f : Order) (count n : Nat) (o : Order) : Prop where
  kind_ne : o.kind ≠ .none
  due : o.unpinned.next count = (f.afterDeals count n).next count

namespace Keeps

theorem withPin (h : f.Keeps count n o) (pinned : Bool) :
    f.Keeps count n { o with pinned := pinned } := ⟨h.kind_ne, h.due⟩

variable (h : f.Keeps count n o) (hcount : 0 < count)

include h hcount

theorem held (hpinned : o.pinned = true) : f.Keeps count n (o.next count).2 where
  kind_ne := by
    rw [(next_state h.kind_ne hcount).1]
    exact h.kind_ne
  due := (next_held h.kind_ne hcount hpinned).trans h.due

theorem drawn (hpinned : o.pinned = false) : f.Keeps count (n + 1) (o.next count).2 where
  kind_ne := by
    rw [(next_state h.kind_ne hcount).1]
    exact h.kind_ne
  due := by
    have hdue := h.due
    rw [unpinned_of_not hpinned] at hdue
    rw [unpinned_of_not ((next_state h.kind_ne hcount).2.1.trans hpinned), hdue]
    rfl

theorem forced (hsize : o.pass.map (·.size) = some count) :
    f.Keeps count (n + 1) (o.step true).2 := by
  have hdrawn := drawn (o := o.unpinned) ⟨h.kind_ne, h.due⟩ hcount rfl
  rw [step_true h.kind_ne hcount hsize]
  exact hdrawn.withPin o.pinned

/-- An order is as far as the number of operations that are left of its history, and has a pass of the
count unless nothing happened to it. -/
theorem foldl {operations : List Operation} (hplays : ∀ x ∈ operations, x.Plays count)
    (hopens : o.pass.map (·.size) = some count ∨ OpensWithDraw operations) :
    let q := operations.foldl Operation.apply o
    f.Keeps count (n + (unheld o.pinned operations).length) q ∧
      (o.pass.map (·.size) = some count ∨ unheld o.pinned operations ≠ [] →
        q.pass.map (·.size) = some count) := by
  induction operations generalizing o n with
  | nil => exact ⟨h, fun hsize => hsize.resolve_right (absurd rfl)⟩
  | cons operation rest ih =>
    obtain ⟨hoperation, hrest⟩ := List.forall_mem_cons.1 hplays
    cases operation with
    | next count' =>
      obtain rfl : count' = count := hoperation
      obtain ⟨-, hpin, hsize⟩ := next_state h.kind_ne hcount
      cases hpinned : o.pinned with
      | true =>
        rw [hpinned] at hpin
        have hheld := ih (h.held hcount hpinned) hrest (.inl hsize)
        rw [hpin] at hheld
        exact ⟨hheld.1, fun _ => hheld.2 (.inl hsize)⟩
      | false =>
        rw [hpinned] at hpin
        have hdrawn := ih (h.drawn hcount hpinned) hrest (.inl hsize)
        rw [hpin, Nat.add_right_comm, Nat.add_assoc] at hdrawn
        exact ⟨hdrawn.1, fun _ => hdrawn.2 (.inl hsize)⟩
    | step force =>
      obtain rfl : force = true := hoperation
      have hsize : o.pass.map (·.size) = some count :=
        hopens.resolve_right fun ⟨_, hdraw⟩ => Operation.noConfusion hdraw
      have hstep := step_true h.kind_ne hcount hsize
      have hsize' : (o.step true).2.pass.map (·.size) = some count := by
        rw [hstep]
        exact (next_state (o := o.unpinned) h.kind_ne hcount).2.2
      have hforced := ih (h.forced hcount hsize) hrest (.inl hsize')
      have hpin : (o.step true).2.pinned = o.pinned := by rw [hstep]
      have hunheld : unheld o.pinned (.step true :: rest) = .step true :: unheld o.pinned rest := by
        rw [unheld] <;> simp
      rw [hpin, Nat.add_right_comm, Nat.add_assoc] at hforced
      rw [hunheld]
      exact ⟨hforced.1, fun _ => hforced.2 (.inl hsize')⟩
    | setPinned pinned =>
      have hunheld : unheld o.pinned (.setPinned pinned :: rest) = unheld pinned rest := by
        rw [unheld]
      rw [hunheld]
      exact ih (h.withPin pinned) hrest hopens
    | reset => exact hoperation.elim
    | reseed name => exact hoperation.elim

end Keeps

/-- So it is with the histories of new orders. -/
theorem keeps_after {operations : List Operation} (hkind : kind ≠ .none) (seed : UInt64)
    (hcount : 0 < count) (hplays : ∀ x ∈ operations, x.Plays count)
    (hopens : OpensWithDraw operations) :
    let q := after kind seed operations
    (ofSeed kind seed).Keeps count (unheld false operations).length q ∧
      (unheld false operations ≠ [] → q.pass.map (·.size) = some count) := by
  have hnew : (ofSeed kind seed).Keeps count 0 (ofSeed kind seed) := ⟨hkind, rfl⟩
  obtain ⟨hkeeps, hsize⟩ := hnew.foldl hcount hplays (.inr hopens)
  rw [Nat.zero_add] at hkeeps
  exact ⟨hkeeps, fun hne => hsize (.inr hne)⟩

/-- Pins hold the draws between them, and nothing else. An order that was drawn from before it was
stepped deals next, pinned or not, what a new order deals behind as many draws as are left without the
held ones; so a pinned order goes on with its forced steps alone. And if it was drawn from before it
was stepped even without the held draws, each draw and each forced step gives what it gives without
them. -/
theorem pins_keep (kind : OrderKind) (hkind : kind ≠ .none) (seed : UInt64) (count : Nat)
    (hcount : 0 < count) (operations : List Operation) (hplays : ∀ x ∈ operations, x.Plays count) :
    let o := after kind seed operations
    let q := after kind seed (unheld false operations)
    (OpensWithDraw operations →
      (o.next count).1 = (ofSeed kind seed).dealt count (unheld false operations).length) ∧
      (OpensWithDraw (unheld false operations) →
        (o.next count).1 = (q.next count).1 ∧
          (unheld false operations ≠ [] → (o.step true).1 = (q.step true).1)) := by
  intro o q
  constructor
  · intro hopens
    have ho := (keeps_after hkind seed hcount hplays hopens).1
    rw [← next_unpinned ho.kind_ne hcount, ho.due]
    rfl
  · intro hopens
    have hplays' : ∀ x ∈ unheld false operations, x.Plays count := fun x hx =>
      hplays x ((unheld_sublist false operations).subset hx)
    obtain ⟨ho, hosize⟩ := keeps_after hkind seed hcount hplays hopens.of_unheld
    obtain ⟨hq, hqsize⟩ := keeps_after hkind seed hcount hplays' hopens
    rw [unheld_unheld] at hq hqsize
    have hsame : o.unpinned.next count = q.unpinned.next count := ho.due.trans hq.due.symm
    constructor
    · rw [← next_unpinned ho.kind_ne hcount, hsame, next_unpinned hq.kind_ne hcount]
    · intro hne
      rw [step_true ho.kind_ne hcount (hosize hne), hsame, step_true hq.kind_ne hcount (hqsize hne)]

/-- A deck that is held before its first draw, and twice behind its last item, where it is shuffled
anew. -/
theorem pins_keep_deck :
    let o := after .deck 42 [.setPinned true, .next 3, .setPinned false, .next 3, .step true, .next 3,
      .setPinned true, .next 3, .next 3, .step true, .next 3]
    let q := after .deck 42 [.next 3, .step true, .next 3, .step true]
    o.pinned = true ∧ (o.next 3).1 = (ofSeed .deck 42).dealt 3 4 ∧ (o.next 3).1 = (q.next 3).1 ∧
      (o.step true).1 = (q.step true).1 := by
  obtain ⟨hdealt, hsame⟩ := pins_keep .deck (by decide) 42 3 (by decide)
    [.setPinned true, .next 3, .setPinned false, .next 3, .step true, .next 3,
      .setPinned true, .next 3, .next 3, .step true, .next 3] (by simp [Operation.Plays])
  obtain ⟨hnext, hstep⟩ := hsame ⟨3, rfl⟩
  exact ⟨by decide +kernel, hdealt ⟨3, rfl⟩, hnext, hstep nofun⟩

end Order

end Wordsmith
