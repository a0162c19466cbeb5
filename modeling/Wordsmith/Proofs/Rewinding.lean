import Wordsmith.Proofs.Branching
import Wordsmith.Proofs.Walks

/-!
# Rewinding an order

An order that is rewound has its generator at the start again, deals from the first place and
forwards, and if it had a pass, the pass is built anew from that generator. A new order builds its
pass from the same generator, only later, when the first item is asked for. So if the pass was of the
count that is asked for, both are the same order from the first item on.

How the order was used before is forgotten but for three things: its kind, whether it is pinned, and
the seed. Draws keep the seed, so it is the one that was given last.

Main result: `rewound_deals`.
-/

namespace Wordsmith

namespace Order

variable {o q : Order} {kind : OrderKind} {count : Nat} {seed : UInt64} {pass : Array Nat}

/-! ## What is not forgotten -/

/-- The seed that an order has behind some operations. -/
def seedAfter (seed : UInt64) : List Operation → UInt64
  | [] => seed
  | .reseed name :: rest => seedAfter (Draw.keyWord name) rest
  | _ :: rest => seedAfter seed rest

theorem root_seed_lessThan (g : Generator) (bound : Nat) :
    (g.lessThan bound).2.root.seed = g.root.seed :=
  g.root_seed_setGeneration _

theorem root_seed_foldl_swapDrawn (places : List Nat) (state : Array Nat × Generator) :
    (places.foldl swapDrawn state).2.root.seed = state.2.root.seed :=
  List.foldlRecOn (motive := fun s => s.2.root.seed = state.2.root.seed) places swapDrawn rfl
    fun s hs _ _ => (root_seed_lessThan s.2 s.1.size).trans hs

theorem root_seed_shuffle (items : Array Nat) (g : Generator) :
    (shuffle items g).2.root.seed = g.root.seed := by
  simp only [shuffle]
  split
  · rfl
  · split
    · exact root_seed_lessThan g 2
    · exact root_seed_foldl_swapDrawn _ (items, g)

theorem root_seed_firstPass (kind : OrderKind) (count : Nat) (g : Generator) :
    (firstPass kind count g).2.root.seed = g.root.seed := by
  cases kind with
  | none | forward | ping | reverse | pong => rfl
  | deck | cdeck | locked => exact root_seed_shuffle _ g

/-- The generator of the order has the seed at its root, and an order that takes every item by chance
has no pass, so it has none to build anew either. -/
structure Seeded (o : Order) (seed : UInt64) : Prop where
  root_seed : o.draws.root.seed = seed
  pass_of_none : o.kind = .none → o.pass = none

/-- A new order in the place of another one, with what is left of its draws. -/
def anew (o : Order) : Order := ⟨o.kind, o.draws, none, 0, false, o.pinned⟩

theorem restart_of_none (hpass : o.pass = none) : o.restart = o.anew := by
  rw [restart, hpass]
  rfl

/-- What is built anew is what a new order builds. -/
theorem restart_of_some (hpass : o.pass = some pass) : o.restart = o.anew.fitted pass.size := by
  have hsize : o.anew.pass.map (·.size) ≠ some pass.size := by simp [anew]
  rw [restart, hpass, fitted, if_neg hsize]
  rfl

namespace Seeded

theorem kind_ne (h : o.Seeded seed) (hpass : o.pass = some pass) : o.kind ≠ .none := by
  intro hkind
  rw [h.pass_of_none hkind] at hpass
  cases hpass

theorem fitted (h : o.Seeded seed) (hnone : o.kind ≠ .none) (count : Nat) :
    (o.fitted count).Seeded seed := by
  unfold Order.fitted
  split
  · exact h
  · exact ⟨(root_seed_firstPass o.kind count o.draws).trans h.root_seed,
      fun hkind => absurd hkind hnone⟩

theorem turn (h : o.Seeded seed) (pass : Array Nat) : (o.turn pass).Seeded seed := by
  unfold Order.turn
  split
  · exact h
  · split
    · next hdeck =>
      exact ⟨(root_seed_shuffle pass o.draws).trans h.root_seed,
        fun hkind => OrderKind.noConfusion (hdeck.symm.trans hkind)⟩
    · exact ⟨h.root_seed, h.pass_of_none⟩
    · exact ⟨h.root_seed, h.pass_of_none⟩
    · exact ⟨h.root_seed, h.pass_of_none⟩

theorem step (h : o.Seeded seed) (force : Bool) : (o.step force).2.Seeded seed := by
  unfold Order.step
  cases hpass : o.pass with
  | none => exact h
  | some pass =>
    have hturn := h.turn pass
    dsimp only
    split
    · exact h
    · split
      · exact h
      · dsimp only
        split
        · exact hturn
        · exact ⟨hturn.root_seed, hturn.pass_of_none⟩

theorem next (h : o.Seeded seed) (count : Nat) : (o.next count).2.Seeded seed := by
  unfold Order.next
  split
  · exact h
  · split
    · exact ⟨(root_seed_lessThan o.draws count).trans h.root_seed, h.pass_of_none⟩
    · next hnone => exact (h.fitted hnone count).step false

theorem restart (h : o.Seeded seed) : o.restart.Seeded seed := by
  have hanew : o.anew.Seeded seed := ⟨h.root_seed, fun _ => rfl⟩
  cases hpass : o.pass with
  | none => rwa [restart_of_none hpass]
  | some pass =>
    rw [restart_of_some hpass]
    exact hanew.fitted (h.kind_ne hpass) pass.size

/-- A new generator may take the place of the old one. -/
theorem withDraws (h : o.Seeded seed) (s : UInt64) :
    { o with draws := .ofSeed s }.Seeded s := ⟨rfl, h.pass_of_none⟩

theorem foldl (h : o.Seeded seed) (operations : List Operation) :
    (operations.foldl Operation.apply o).Seeded (seedAfter seed operations) := by
  induction operations generalizing o seed with
  | nil => exact h
  | cons operation rest ih =>
    cases operation with
    | next count => exact ih (h.next count)
    | step force => exact ih (h.step force)
    | setPinned pinned => exact ih ⟨h.root_seed, h.pass_of_none⟩
    | reset =>
      obtain rfl := h.root_seed
      exact ih (h.withDraws o.draws.root.seed).restart
    | reseed name => exact ih (h.withDraws (Draw.keyWord name)).restart

end Seeded

theorem seeded_after (kind : OrderKind) (seed : UInt64) (operations : List Operation) :
    (after kind seed operations).Seeded (seedAfter seed operations) :=
  Seeded.foldl ⟨rfl, fun _ => rfl⟩ operations

/-! ## The same deals again -/

/-- Two orders deal the same, and are the same once they have dealt an item. -/
def Replays (o q : Order) (count : Nat) : Prop :=
  (∀ n, o.dealt count n = q.dealt count n) ∧ (0 < count → o.next count = q.next count)

theorem dealt_zero (o : Order) (n : Nat) : o.dealt 0 n = 0 := by
  rw [dealt, next, if_pos rfl]

theorem replays_of_next (h : 0 < count → o.next count = q.next count) : o.Replays q count := by
  refine ⟨fun n => ?_, h⟩
  rcases Nat.eq_zero_or_pos count with rfl | hcount
  · rw [dealt_zero, dealt_zero]
  · exact dealt_congr (h hcount) n

theorem Seeded.restart_replays (h : o.Seeded seed)
    (hsize : ∀ pass, o.pass = some pass → pass.size = count) : o.restart.Replays o.anew count := by
  refine replays_of_next fun hcount => ?_
  cases hpass : o.pass with
  | none => rw [restart_of_none hpass]
  | some pass =>
    rw [restart_of_some hpass, hsize pass hpass]
    exact o.anew.next_fitted (h.kind_ne hpass) hcount

/-- However an order was used, once it is rewound it deals what a new order of its kind deals, pinned
if it is pinned, with the seed that it was given last, or with that of the name that it is rewound
with. This holds for the count of its pass, and for any count if it has no pass. -/
theorem rewound_deals (kind : OrderKind) (seed : UInt64) (operations : List Operation) (count : Nat)
    (hsize : ∀ pass, (after kind seed operations).pass = some pass → pass.size = count) :
    let o := after kind seed operations
    o.reset.Replays { ofSeed kind (seedAfter seed operations) with pinned := o.pinned } count ∧
      ∀ name, (o.reseed name).Replays { ofSeed kind (Draw.keyWord name) with pinned := o.pinned }
        count := by
  intro o
  have hseeded : o.Seeded (seedAfter seed operations) := seeded_after kind seed operations
  have hkind : o.kind = kind := (after_coherent kind seed operations).kind_eq
  have hanew : ∀ s : UInt64, { o with draws := .ofSeed s }.restart.Replays
      { ofSeed kind s with pinned := o.pinned } count := by
    intro s
    have hsame : { o with draws := .ofSeed s }.anew = { ofSeed kind s with pinned := o.pinned } := by
      rw [← hkind]
      rfl
    exact hsame ▸ (hseeded.withDraws s).restart_replays hsize
  exact ⟨hseeded.root_seed ▸ hanew o.draws.root.seed, fun name => hanew (Draw.keyWord name)⟩

/-- A deck that is given a seed, shuffled anew behind its last item, rewound, pinned and stepped. -/
theorem rewound_deals_deck :
    let operations : List Operation := [.next 3, .reseed "a", .next 4, .next 4, .step true, .next 4,
      .next 4, .reset, .next 4, .setPinned true, .step true]
    let o := after .deck 42 operations
    o.pass.map (·.size) = some 4 ∧ o.index = 2 ∧ o.pinned = true ∧
      o.reset.Replays { ofSeed .deck (Draw.keyWord "a") with pinned := true } 4 ∧
      (o.reseed "b").Replays { ofSeed .deck (Draw.keyWord "b") with pinned := true } 4 := by
  intro operations o
  have hpass : o.pass.map (·.size) = some 4 := by decide +kernel
  have hpinned : o.pinned = true := by decide +kernel
  have hsize : ∀ pass, o.pass = some pass → pass.size = 4 := fun pass h =>
    Option.some.inj ((congrArg (·.map (·.size)) h).symm.trans hpass)
  obtain ⟨hreset, hreseed⟩ := rewound_deals .deck 42 operations 4 hsize
  exact ⟨hpass, by decide +kernel, hpinned, hpinned ▸ hreset, hpinned ▸ hreseed "b"⟩

end Order

end Wordsmith
