import Mathlib.Data.List.Infix
import Wordsmith.Draw.Weighted

/-!
# Branches of a generator

Whatever is drawn from a generator moves the generation of its top branch and nothing else. So the
branches below change only when a merge takes the top one away, and as long as no merge takes away
more than was put there, they lie untouched under all that happens above them. A branch and the merge
that takes it away again therefore leave the generator as they found it.

The root is left over whatever is merged: a merge finds nothing to take away exactly when the root is
all there is, and does nothing then.

Main result: `branching_restores`.
-/

namespace Wordsmith

namespace Generator

variable {g : Generator}

/-! ## Operations -/

/-- What is done to a generator. -/
inductive Operation where
  | word
  | lessThan (bound : Nat)
  | range (low high : Int)
  | fraction
  | half
  | bytes (count : Nat)
  | weighted (weights : List Float)
  | setGeneration (n : UInt64)
  | branch (key : UInt64)
  | merge

namespace Operation

/-- The generator behind an operation. Weights that admit no choice cost no draw. -/
def apply (g : Generator) : Operation → Generator
  | word => g.next.2
  | lessThan bound => (g.lessThan bound).2
  | range low high => (g.range low high).2
  | fraction => g.fraction.2
  | half => g.nextHalf.2
  | bytes count => (g.bytes count).2
  | weighted weights =>
    match Weights.ofList weights with
    | .ok ws => (ws.choose g).2
    | .error _ => g
  | setGeneration n => g.setGeneration n
  | branch key => g.branch key
  | merge => g.merge.2

/-- The operation puts a branch on top. -/
def isBranch : Operation → Bool
  | branch _ => true
  | _ => false

/-- The operation takes the top branch away. -/
def isMerge : Operation → Bool
  | merge => true
  | _ => false

end Operation

/-- The generator behind some operations. -/
def after (g : Generator) (operations : List Operation) : Generator :=
  operations.foldl Operation.apply g

/-- The number of branches that operations put on top. -/
def branches (operations : List Operation) : Nat := operations.countP (·.isBranch)

/-- The number of branches that operations take away. -/
def merges (operations : List Operation) : Nat := operations.countP (·.isMerge)

theorem branches_cons (operation : Operation) (operations : List Operation) :
    branches (operation :: operations) = branches operations + operation.isBranch.toNat := by
  rw [branches, List.countP_cons]
  cases operation.isBranch <;> rfl

theorem merges_cons (operation : Operation) (operations : List Operation) :
    merges (operation :: operations) = merges operations + operation.isMerge.toNat := by
  rw [merges, List.countP_cons]
  cases operation.isMerge <;> rfl

/-- None of the operations takes away a branch that was there before the first one. -/
def StaysOpen (operations : List Operation) : Prop :=
  ∀ first ∈ operations.inits, merges first ≤ branches first

instance (operations : List Operation) : Decidable (StaysOpen operations) :=
  inferInstanceAs (Decidable (∀ first ∈ operations.inits, merges first ≤ branches first))

/-! ## One operation -/

theorem exists_bytes_eq (g : Generator) (count : Nat) :
    ∃ n, (g.bytes count).2 = g.setGeneration n := by
  fun_induction bytes g count with
  | case1 g => exact ⟨g.generation, rfl⟩
  | case2 g count hcount w g' hnext rest g'' hrest ih =>
    obtain ⟨n, hn⟩ := ih
    cases hnext
    rw [hrest] at hn
    exact ⟨n, hn⟩

/-- An operation puts a branch on top, takes the top one away, or changes the generation of the top
branch at most. -/
theorem Operation.apply_cases (operation : Operation) (g : Generator) :
    (∃ key, operation = .branch key) ∨ operation = .merge ∨
      operation.isBranch = false ∧ operation.isMerge = false ∧
        ∃ n, operation.apply g = g.setGeneration n := by
  cases operation with
  | branch key => exact .inl ⟨key, rfl⟩
  | merge => exact .inr (.inl rfl)
  | word | lessThan _ | range _ _ | fraction | half =>
    exact .inr (.inr ⟨rfl, rfl, g.generation + 1, rfl⟩)
  | setGeneration n => exact .inr (.inr ⟨rfl, rfl, n, rfl⟩)
  | bytes count =>
    refine .inr (.inr ⟨rfl, rfl, ?_⟩)
    rw [apply]
    exact g.exists_bytes_eq count
  | weighted weights =>
    refine .inr (.inr ⟨rfl, rfl, ?_⟩)
    rw [apply]
    split
    · exact ⟨g.generation + 1, rfl⟩
    · exact ⟨g.generation, rfl⟩

theorem below_merge (g : Generator) : g.merge.2.below = g.below.drop 1 := by
  unfold merge
  split <;> simp [*]

theorem merge_of_cons {b : Branch} {rest : List Branch} (h : g.below = b :: rest) :
    g.merge = (true, ⟨b, rest⟩) := by
  rw [merge, h]

/-- The root cannot be taken away. -/
theorem merge_of_depth_eq_one (h : g.depth = 1) : g.merge = (false, g) := by
  have hbelow : g.below = [] := List.eq_nil_of_length_eq_zero (Nat.succ.inj h)
  rw [merge, hbelow]

/-! ## The root -/

theorem root_seed_setGeneration (g : Generator) (n : UInt64) :
    (g.setGeneration n).root.seed = g.root.seed := by
  obtain ⟨top, below⟩ := g
  cases h : below.getLast? <;> simp [setGeneration, root, h]

theorem root_branch (g : Generator) (key : UInt64) : (g.branch key).root = g.root := by
  rw [root, branch, List.getLast?_cons, Option.getD_some, root]

theorem root_merge (g : Generator) : g.merge.2.root = g.root := by
  obtain ⟨top, below⟩ := g
  cases below with
  | nil => rfl
  | cons b rest => simp [merge, root, List.getLast?_cons]

theorem Operation.root_seed_apply (g : Generator) (operation : Operation) :
    (operation.apply g).root.seed = g.root.seed := by
  rcases operation.apply_cases g with ⟨key, rfl⟩ | rfl | ⟨-, -, n, hn⟩
  · exact congrArg Branch.seed (g.root_branch key)
  · exact congrArg Branch.seed g.root_merge
  · rw [hn, root_seed_setGeneration]

theorem root_seed_after (g : Generator) (operations : List Operation) :
    (g.after operations).root.seed = g.root.seed :=
  List.foldlRecOn (motive := fun q => q.root.seed = g.root.seed) operations Operation.apply rfl
    fun q hq operation _ => (operation.root_seed_apply q).trans hq

/-! ## What lies below -/

section

variable {base up : List Branch}

theorem Operation.exists_below_apply (operation : Operation) (hbelow : g.below = up ++ base)
    (h : operation.isMerge.toNat ≤ up.length + operation.isBranch.toNat) :
    ∃ up', (operation.apply g).below = up' ++ base ∧
      up'.length + operation.isMerge.toNat = up.length + operation.isBranch.toNat := by
  rcases operation.apply_cases g with ⟨key, rfl⟩ | rfl | ⟨hbranch, hmerge, n, hn⟩
  · exact ⟨g.top :: up, congrArg (g.top :: ·) hbelow, rfl⟩
  · obtain ⟨b, rest, rfl⟩ : ∃ b rest, up = b :: rest :=
      List.exists_cons_of_ne_nil (List.ne_nil_of_length_pos h)
    refine ⟨rest, ?_, rfl⟩
    rw [apply, below_merge, hbelow]
    rfl
  · rw [hn, hbranch, hmerge]
    exact ⟨up, hbelow, rfl⟩

/-- The branches at the bottom lie under all others, as long as none of them is taken away. -/
theorem exists_below_after {operations : List Operation} (hbelow : g.below = up ++ base)
    (h : ∀ first ∈ operations.inits, merges first ≤ up.length + branches first) :
    ∃ up', (g.after operations).below = up' ++ base ∧
      up'.length + merges operations = up.length + branches operations := by
  induction operations generalizing g up with
  | nil => exact ⟨up, hbelow, rfl⟩
  | cons operation rest ih =>
    have hfirst : ∀ first ∈ rest.inits,
        merges first + operation.isMerge.toNat ≤
          up.length + (branches first + operation.isBranch.toNat) := by
      intro first hfirst
      rw [← merges_cons, ← branches_cons]
      refine h _ ?_
      rw [List.inits_cons]
      exact List.mem_cons_of_mem _ (List.mem_map_of_mem hfirst)
    obtain ⟨mid, hmid, hstep⟩ := operation.exists_below_apply hbelow <| by
      simpa [merges, branches] using hfirst [] ((List.mem_inits _ _).2 List.nil_prefix)
    obtain ⟨up', hup', hrest⟩ := ih hmid fun first hmem => by
      have hle := hfirst first hmem
      omega
    rw [merges_cons, branches_cons]
    exact ⟨up', hup', by omega⟩

end

/-- A branch and the merge that takes it away leave the generator as it was, whatever happens between
them above the branches that were there; and if that leaves a branch over, the merge takes away
another one. Whatever happens at all, the seed of the root stays, and a merge does nothing when the
root is all there is, and takes a branch away otherwise. -/
theorem branching_restores (g : Generator) :
    (∀ (key : UInt64) (operations : List Operation), StaysOpen operations →
      (g.after (.branch key :: operations ++ [.merge]) = g ↔
        merges operations = branches operations)) ∧
      ∀ operations : List Operation,
        let q := g.after operations
        q.root.seed = g.root.seed ∧ (q.depth = 1 → q.merge = (false, q)) ∧
          (1 < q.depth → q.merge.1 = true ∧ q.merge.2.depth + 1 = q.depth) := by
  refine ⟨fun key operations hopen => ?_, fun operations => ?_⟩
  · have hbranch : (g.branch key).below = [] ++ g.top :: g.below := rfl
    obtain ⟨up, hup, hcount⟩ := exists_below_after hbranch fun first hfirst =>
      (hopen first hfirst).trans (Nat.le_add_left _ _)
    have hafter : g.after (.branch key :: operations ++ [.merge]) =
        ((g.branch key).after operations).merge.2 := by
      rw [after, List.cons_append, List.foldl_cons, List.foldl_append]
      rfl
    rw [List.length_nil, Nat.zero_add] at hcount
    rw [hafter]
    cases up with
    | nil =>
      rw [merge_of_cons hup, ← hcount, List.length_nil, Nat.zero_add]
      exact iff_of_true rfl rfl
    | cons b up =>
      -- the opening branch is still there, so the generator is higher than before
      rw [merge_of_cons hup, ← hcount]
      refine iff_of_false (fun heq => ?_) (Nat.ne_of_lt (Nat.lt_add_of_pos_left Nat.succ_pos'))
      have hlength : (up ++ g.top :: g.below).length = g.below.length :=
        congrArg (·.below.length) heq
      rw [List.length_append, List.length_cons] at hlength
      omega
  · intro q
    refine ⟨root_seed_after g operations, merge_of_depth_eq_one, fun hdepth => ?_⟩
    obtain ⟨b, rest, hbelow⟩ : ∃ b rest, q.below = b :: rest :=
      List.exists_cons_of_ne_nil (List.ne_nil_of_length_pos (Nat.lt_of_succ_lt_succ hdepth))
    rw [merge_of_cons hbelow, depth, depth, hbelow]
    exact ⟨rfl, rfl⟩

/-- Two branches over the opening one, with all kinds of draws in between. -/
theorem branching_restores_nested :
    let g : Generator := ⟨⟨7, 3⟩, [⟨42, 5⟩]⟩
    let operations : List Operation := [.word, .branch 1, .lessThan 6, .branch 2, .bytes 20, .merge,
      .setGeneration 11, .merge, .weighted [1, 2], .range (-3) 4, .fraction, .half]
    StaysOpen operations ∧ merges operations = branches operations ∧
      g.after (.branch 9 :: operations ++ [.merge]) = g := by
  intro g operations
  have hopen : StaysOpen operations := by decide
  have hbalanced : merges operations = branches operations := rfl
  exact ⟨hopen, hbalanced, ((branching_restores g).1 9 operations hopen).2 hbalanced⟩

/-- A merge that takes away a later branch leaves the opening one over. -/
example : (⟨⟨7, 3⟩, []⟩ : Generator).after [.branch 1, .branch 2, .merge] =
    ⟨⟨Draw.word 1 7, 0⟩, [⟨7, 3⟩]⟩ := rfl

end Generator

end Wordsmith
