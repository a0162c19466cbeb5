import Wordsmith.Proofs.Branching
import Wordsmith.Proofs.Conditions
import Wordsmith.Proofs.Results

/-!
# Branches for as long as some code runs

A tag that branches for some code puts a branch on the generator, and puts off taking it back until
the code is over. What takes it back then takes the top branch, whichever that is. So the generator
is what it was before the tag if the code has left as many branches as it found.

Every step keeps this in balance but for the tags that branch or merge and nothing else. A branch
that is made for some code is owed by a frame; when it is taken back, at the end of the code or with
the frames that are given up, it is no longer owed. So the height of the generator is known at any
time from what the frames owe and from how many plain branches are open, and what was there before
the tag is below all that.

Main results: `Machine.step_branches`, what a step makes of the branches, and
`Engine.branchFor_restores`; `Engine.branchFor_left_open` is what happens otherwise.
-/

namespace Wordsmith

/-! ## Branches that are taken back -/

namespace Generator

variable {g : Generator}

/-- Takes a number of branches away. -/
def mergeMany (g : Generator) : Nat → Generator
  | 0 => g
  | n + 1 => g.merge.2.mergeMany n

theorem mergeMany_add (g : Generator) (m n : Nat) :
    g.mergeMany (m + n) = (g.mergeMany m).mergeMany n := by
  induction m generalizing g with
  | zero => rw [Nat.zero_add, mergeMany]
  | succ m ih => rw [Nat.succ_add, mergeMany, ih, mergeMany]

theorem below_mergeMany (g : Generator) (n : Nat) : (g.mergeMany n).below = g.below.drop n := by
  induction n generalizing g with
  | zero => rfl
  | succ n ih => rw [mergeMany, ih, below_merge, List.drop_drop, Nat.add_comm]

/-- A branch is on top once those above it are taken away. -/
theorem mergeMany_of_drop {n : Nat} {b : Branch} {l : List Branch} (h : g.below.drop n = b :: l) :
    g.mergeMany (n + 1) = ⟨b, l⟩ := by
  have hlast : (g.mergeMany n).merge.2 = ⟨b, l⟩ := by
    rw [merge, g.below_mergeMany n, h]
  rw [mergeMany_add]
  exact hlast

end Generator

theorem Deferred.IsLate.isMerge {action : Deferred} (h : action.IsLate) :
    action.isMerge = false := by
  cases action with
  | finish => exact h.elim
  | _ => rfl

/-- The frame with a branch to take back before its next token. -/
def Frame.owing (f : Frame) : Frame := { f with pre := .finish .merge :: f.pre }

theorem Registers.generator_undo (r : Registers) (action : Deferred) :
    (r.undo action).generator =
      if action.isMerge then r.generator.merge.2 else r.generator := by
  cases action with
  | finish q => cases q <;> rfl
  | _ => rfl

namespace Machine

variable {s : Setting} {m m₁ m' n n' : Machine s} {tag : Tag} {name : Token} {slots : List Slot}

/-- Frames that are given up take back the branches that they owe. -/
theorem generator_giveUp (r : Registers) (frames : List Frame) :
    (giveUp r frames).generator = r.generator.mergeMany (mergesDue frames) := by
  have hall : ∀ (actions : List Deferred) (r : Registers),
      (actions.foldl Registers.undo r).generator =
        r.generator.mergeMany (actions.countP (·.isMerge)) := by
    intro actions
    induction actions with
    | nil => exact fun _ => rfl
    | cons action actions ih =>
      intro r
      rw [List.foldl_cons, ih, r.generator_undo, List.countP_cons]
      cases action.isMerge <;> rfl
  exact hall _ r

/-! ## What a step makes of the branches -/

/-- What becomes of the branches in a step, and of those that the frames owe. -/
inductive Branches (m m' : Machine s) : Prop
  /-- The branches below the top one are the same. -/
  | same (hbelow : m'.registers.generator.below = m.registers.generator.below)
      (hdue : mergesDue m'.frames = mergesDue m.frames)
  /-- A branch is made that is owed. -/
  | owe (hbelow : m'.registers.generator.below =
        m.registers.generator.top :: m.registers.generator.below)
      (hdue : mergesDue m'.frames = mergesDue m.frames + 1)
  /-- Branches that were owed are taken back. -/
  | pay {j : Nat} (hgenerator : m'.registers.generator = m.registers.generator.mergeMany j)
      (hdue : mergesDue m'.frames + j = mergesDue m.frames)

theorem Steady.branches (h : m.Steady m') : m.Branches m' := .same h.registers.below h.merges

theorem Branches.of_same (hregisters : m₁.registers = m.registers)
    (hdue : mergesDue m.frames = mergesDue m₁.frames) (h : m₁.Branches m') : m.Branches m' := by
  cases h with
  | same hbelow h => exact .same (hregisters ▸ hbelow) (h.trans hdue.symm)
  | owe hbelow h => exact .owe (hregisters ▸ hbelow) (h.trans (congrArg (· + 1) hdue.symm))
  | pay hgenerator h => exact .pay (hregisters ▸ hgenerator) (h.trans hdue.symm)

/-- The next step calls a tag. -/
def Calls (m : Machine s) (tag : Tag) : Prop :=
  ∃ name slots m₁, m.Takes (.callTag tag name slots) m₁

/-- Code that has been given is run with a branch that is owed. -/
theorem follow_merge (hframes : m.frames ≠ []) (c : Call) (i : Nat) :
    Ensures (m.follow (c.runThen i .merge)) fun m' =>
      m'.registers.generator.below = m.registers.generator.below ∧
        mergesDue m'.frames = mergesDue m.frames + 1 := by
  obtain ⟨f, below, hf⟩ := List.exists_cons_of_ne_nil hframes
  have hdefer : mergesDue (m.defer (.finish .merge)).frames = mergesDue m.frames + 1 := by
    have hmerge : (Deferred.finish .merge).isMerge = true := rfl
    simp only [defer, modifyTop, hf, List.modifyHead_cons, mergesDue_cons, Frame.pending,
      List.cons_append, List.countP_cons, hmerge, if_true]
    omega
  refine Ensures.weaken (steady_pushAny (m.defer (.finish .merge)) (c.code? i) [] [] rfl) ?_
  exact fun m' h => ⟨h.registers.below, h.merges.trans hdefer⟩

/-- Leaving a block takes back what the frames that are given up owe. -/
theorem leave_branches (m : Machine s) : ∃ j,
    m.leave.registers.generator = m.registers.generator.mergeMany j ∧
      mergesDue m.leave.frames + j = mergesDue m.frames := by
  have hleaves := m.leave_stage
  show ∃ j, m.leave.stage.registers.generator = m.stage.registers.generator.mergeMany j ∧
    mergesDue m.leave.stage.frames + j = mergesDue m.stage.frames
  generalize m.leave.stage = y at hleaves
  cases hleaves with
  | idle => exact ⟨0, rfl, rfl⟩
  | lost => exact ⟨0, rfl, rfl⟩
  | @cut _ _ dropped kept base _ hframes =>
    refine ⟨mergesDue dropped, generator_giveUp _ dropped, ?_⟩
    rw [hframes, mergesDue_append, Nat.add_comm]

/-- A call that leaves the generator alone does nothing to the branches. -/
theorem branches_follow {scene : Scene} {next : Next} (hnext : next.IsSteady)
    (hgenerator : scene.registers.generator = m.registers.generator)
    (h : (m.afterCall name slots scene).follow next = .ok m') : m.Branches m' := by
  have hsteady := (steady_follow _ hnext).of_ok m' h
  exact .same (hsteady.registers.below.trans (congrArg Generator.below hgenerator)) hsteady.merges

/-- The tags that are not steady, but for those that branch or merge and nothing else. -/
theorem branches_callTag (hsteady : ¬tag.IsSteady) (hbranch : tag ≠ .branch) (hmerge : tag ≠ .merge)
    (hframes : m.frames ≠ []) (h : m.take (.callTag tag name slots) = .ok m') : m.Branches m' := by
  have hcondition (htag : tag.IsCondition) : m.Branches m' := by
    cases hholds : (m.call name slots).holds? m.registers tag with
    | some b =>
      rw [take_condition hholds] at h
      exact branches_follow (Call.isSteady_ite_run ..) rfl h
    | none =>
      obtain ⟨e, he⟩ := take_condition_error htag hholds
      cases he.symm.trans h
  cases tag with
  | ifDefined | unlessDefined | ifCompared => exact hcondition trivial
  | otherwise =>
    rw [take_alternative] at h
    exact branches_follow (Call.isSteady_ite_run ..) rfl h
  | branch => exact absurd rfl hbranch
  | merge => exact absurd rfl hmerge
  | branchFor =>
    rw [take_branchFor] at h
    obtain ⟨hbelow, hdue⟩ :=
      (follow_merge (m := m.afterCall name slots _) hframes (m.call name slots) 1).of_ok m' h
    exact .owe hbelow hdue
  | leave =>
    rw [take_leave] at h
    cases h
    obtain ⟨j, hgenerator, hdue⟩ := (m.afterCall name slots ⟨m.registers, m.output⟩).leave_branches
    exact .pay hgenerator hdue
  | _ => exact absurd trivial hsteady

/-- A step that calls none of the two plain tags leaves the branches in balance with what the frames
owe. -/
theorem step_branches (hbranch : ¬m.Calls .branch) (hmerge : ¬m.Calls .merge)
    (hstep : m.step = .ok m') : m.Branches m' := by
  rcases m.step_steady.of_ok m' hstep with hsteady | ⟨action, m₁, htakes, haction⟩
  · exact hsteady.branches
  · rw [htakes.step] at hstep
    have hregisters := htakes.registers
    have hdue := htakes.merges
    cases action with
    | finish q =>
      cases q with
      | merge =>
        cases hstep
        refine .pay (j := 1) ?_ ?_
        · rw [← hregisters]
          rfl
        · rw [hdue, Nat.add_comm]
          rfl
      | _ => exact absurd trivial haction
    | callTag tag name slots =>
      refine Branches.of_same hregisters (hdue.trans (Nat.zero_add _)) ?_
      refine branches_callTag haction ?_ ?_ htakes.rest_ne_nil hstep
      · rintro rfl
        exact hbranch ⟨name, slots, m₁, htakes⟩
      · rintro rfl
        exact hmerge ⟨name, slots, m₁, htakes⟩
    | _ => exact absurd trivial haction

/-! ## Plain branches that are open -/

/-- The machine has frames on top of `rest`. -/
def IsAbove (m : Machine s) (rest : List Frame) : Prop := ∃ up, up ≠ [] ∧ m.frames = up ++ rest

theorem mergesDue_le_of_append {m : Machine s} {up rest : List Frame} (h : m.frames = up ++ rest) :
    mergesDue rest ≤ mergesDue m.frames := by
  rw [h, mergesDue_append]
  exact Nat.le_add_left _ _

theorem IsAbove.mergesDue_le {rest : List Frame} (h : m.IsAbove rest) :
    mergesDue rest ≤ mergesDue m.frames := by
  obtain ⟨up, -, hframes⟩ := h
  exact mergesDue_le_of_append hframes

theorem IsAbove.frames_ne_nil {rest : List Frame} (h : m.IsAbove rest) : m.frames ≠ [] := by
  obtain ⟨up, hup, hframes⟩ := h
  simp [hframes, hup]

/-- The run goes from `m` to another machine, with frames on top of `rest` all the way up to the
last step. On the way the tags that do nothing else have made `k` more branches than they have taken
back, and they have never taken back more than they had made. -/
inductive Opens (m : Machine s) (rest : List Frame) : Nat → Machine s → Prop
  | start : Opens m rest 0 m
  | branch {k : Nat} {n n' : Machine s} (h : Opens m rest k n) (habove : n.IsAbove rest)
      (hcalls : n.Calls .branch) (hstep : n.step = .ok n') : Opens m rest (k + 1) n'
  | merge {k : Nat} {n n' : Machine s} (h : Opens m rest (k + 1) n) (habove : n.IsAbove rest)
      (hcalls : n.Calls .merge) (hstep : n.step = .ok n') : Opens m rest k n'
  | other {k : Nat} {n n' : Machine s} (h : Opens m rest k n) (habove : n.IsAbove rest)
      (hbranch : ¬n.Calls .branch) (hmerge : ¬n.Calls .merge) (hstep : n.step = .ok n') :
      Opens m rest k n'

/-- The branches of `g` are still there below others, one for each that is owed by the frames above
`rest` and one for each of `k` that are open. -/
structure Keeps (g : Generator) (rest : List Frame) (k : Nat) (m : Machine s) : Prop where
  suffix : g.top :: g.below <:+ m.registers.generator.below
  length : m.registers.generator.below.length + mergesDue rest =
    g.depth + mergesDue m.frames + k

variable {g : Generator} {rest : List Frame} {k : Nat}

theorem step_branch (h : m.Calls .branch) (hstep : m.step = .ok m') :
    m'.registers.generator.below = m.registers.generator.top :: m.registers.generator.below ∧
      mergesDue m'.frames = mergesDue m.frames := by
  obtain ⟨name, slots, m₁, htakes⟩ := h
  rw [htakes.step, take_branch, htakes.registers] at hstep
  cases hstep
  exact ⟨rfl, (htakes.merges.trans (Nat.zero_add _)).symm⟩

theorem step_merge (h : m.Calls .merge) (hstep : m.step = .ok m') :
    m'.registers.generator = m.registers.generator.mergeMany 1 ∧
      mergesDue m'.frames = mergesDue m.frames := by
  obtain ⟨name, slots, m₁, htakes⟩ := h
  rw [htakes.step, take_merge, htakes.registers] at hstep
  cases hstep
  exact ⟨rfl, (htakes.merges.trans (Nat.zero_add _)).symm⟩

namespace Keeps

/-- One more branch is made. -/
theorem cons (hn : n.Keeps g rest k) {k' : Nat}
    (hbelow : n'.registers.generator.below =
      n.registers.generator.top :: n.registers.generator.below)
    (hdue : mergesDue n'.frames + k' = mergesDue n.frames + k + 1) : n'.Keeps g rest k' := by
  have hlength := hn.length
  refine ⟨hbelow ▸ hn.suffix.trans (List.suffix_cons _ _), ?_⟩
  rw [hbelow, List.length_cons]
  omega

/-- Branches are taken back that are not among those that are kept. -/
theorem drop (hn : n.Keeps g rest k) {j k' : Nat}
    (hgenerator : n'.registers.generator = n.registers.generator.mergeMany j)
    (hdue : mergesDue n'.frames + k' + j = mergesDue n.frames + k)
    (hle : mergesDue rest ≤ mergesDue n'.frames) : n'.Keeps g rest k' := by
  have hlength := hn.length
  rw [Generator.depth] at hlength
  have hbelow : n'.registers.generator.below = n.registers.generator.below.drop j := by
    rw [hgenerator, Generator.below_mergeMany]
  refine ⟨?_, ?_⟩
  · rw [hbelow]
    refine suffix_drop hn.suffix ?_
    rw [List.length_cons]
    omega
  · rw [hbelow, List.length_drop, Generator.depth]
    omega

theorem of_branches (hn : n.Keeps g rest k) (h : n.Branches n')
    (hle : mergesDue rest ≤ mergesDue n'.frames) : n'.Keeps g rest k := by
  cases h with
  | same hbelow hdue => exact ⟨hbelow ▸ hn.suffix, by rw [hbelow, hdue, hn.length]⟩
  | owe hbelow hdue => exact hn.cons hbelow (by omega)
  | pay hgenerator hdue => exact hn.drop hgenerator (by omega) hle

theorem branch (hn : n.Keeps g rest k) (hcalls : n.Calls .branch) (hstep : n.step = .ok n') :
    n'.Keeps g rest (k + 1) := by
  obtain ⟨hbelow, hdue⟩ := step_branch hcalls hstep
  exact hn.cons hbelow (by omega)

theorem merge (hn : n.Keeps g rest (k + 1)) (hcalls : n.Calls .merge) (hstep : n.step = .ok n')
    (hle : mergesDue rest ≤ mergesDue n'.frames) : n'.Keeps g rest k := by
  obtain ⟨hgenerator, hdue⟩ := step_merge hcalls hstep
  exact hn.drop hgenerator (by omega) hle

/-- With no branch open, those that are kept come to the top once what is owed is taken back. -/
theorem mergeMany (hn : n.Keeps g rest 0) {j : Nat}
    (hdue : mergesDue n.frames = mergesDue rest + j) :
    n.registers.generator.mergeMany (j + 1) = g := by
  have hlength := hn.length
  rw [Generator.depth] at hlength
  refine Generator.mergeMany_of_drop ?_
  rw [List.suffix_iff_eq_drop.1 hn.suffix, List.length_cons]
  congr 1
  omega

/-- What is kept comes to the top when all that is above is cut off together with a frame that owes
one branch, and then what else is cut off with it is taken back. -/
theorem cut (hn : n.Keeps g rest 0) (h : n.Branches n') {d : Nat}
    (hle : mergesDue rest ≤ mergesDue n.frames)
    (hcut : mergesDue rest = mergesDue n'.frames + d + 1) :
    n'.registers.generator = g.mergeMany d := by
  cases h with
  | same _ hdue => omega
  | owe _ hdue => omega
  | @pay j hgenerator hdue =>
    obtain ⟨a, ha⟩ := Nat.exists_eq_add_of_le hle
    have hj : j = a + 1 + d := by omega
    rw [hgenerator, hj, Generator.mergeMany_add, hn.mergeMany ha]

end Keeps

end Machine

/-! ## Code with a branch of its own -/

namespace Engine

open Machine

variable {e : Engine} {p : Pattern} {start : Generator} {m m₁ n n' : Machine e.setting}
  {base : Frame} {rest below : List Frame} {g : Generator} {k : Nat}

/-- A step in a frame that is on top of others leaves them where they are, or cuts them off down to
one in which a block is repeated. -/
theorem Reaches.step_above (hn : e.Reaches p start n) (hstep : n.step = .ok n')
    (habove : n.IsAbove rest) : (∃ up, n'.frames = up ++ rest) ∨
      ∃ dropped inner kept id, rest = dropped ++ inner :: kept ∧ inner.pre = [.iterate id] ∧
        n'.frames = inner :: kept := by
  obtain ⟨up, hup, hframes⟩ := habove
  obtain ⟨top, up, rfl⟩ := List.exists_cons_of_ne_nil hup
  have hmoves := ((hn.coherent.step_stage hframes).of_ok n' hstep).moves hn.coherent hframes hn.neat
  cases hmoves with
  | @stay f' more _ _ _ _ hmore => exact .inl ⟨more ++ f' :: up, hmore.trans (by simp)⟩
  | @postpone f' _ os _ _ _ _ hmore =>
    exact .inl ⟨Opening.frames _ n'.results.length os ++ f' :: up, hmore.trans (by simp; rfl)⟩
  | finish _ _ _ hleft => exact .inl ⟨up, hleft⟩
  | pop _ _ hleft => exact .inl ⟨up, hleft⟩
  | @cut dropped kept inner id hcut hpre hleft =>
    rcases List.append_eq_append_iff.1 hcut with ⟨more, -, hrest⟩ | ⟨more, -, hrest⟩
    · exact .inr ⟨more, inner, kept, id, hrest, hpre, hleft⟩
    · exact .inl ⟨more, hleft.trans hrest⟩

/-- Where a run stands that began above a frame, its base: still there, or after a cut that went
further down. -/
inductive Stands (g : Generator) (base : Frame) (below : List Frame) (k : Nat)
    (n : Machine e.setting) : Prop
  | still {up : List Frame} (hframes : n.frames = up ++ base :: below)
      (hkeeps : n.Keeps g (base :: below) k)
  | cut {dropped kept : List Frame} {inner : Frame} (hbelow : below = dropped ++ inner :: kept)
      (hframes : n.frames = inner :: kept)
      (hgenerator : k = 0 → n.registers.generator = g.mergeMany (mergesDue dropped))

/-- What is above other frames has not cut them off. -/
theorem Stands.keeps (h : Stands g base below k n) (habove : n.IsAbove (base :: below)) :
    n.Keeps g (base :: below) k := by
  cases h with
  | still _ hkeeps => exact hkeeps
  | cut hbelow hframes =>
    obtain ⟨up, -, hup⟩ := habove
    have hlength := congrArg List.length (hup.symm.trans hframes)
    simp only [hbelow, List.length_append, List.length_cons] at hlength
    omega

/-- One more step. Only a step that takes back what is owed can cut off the base. -/
theorem Stands.step (hn : e.Reaches p start n) (hstep : n.step = .ok n')
    (habove : n.IsAbove (base :: below)) (howes : mergesDue [base] = 1)
    (hbase : ∀ id, base.pre ≠ [.iterate id])
    (hkeeps : mergesDue (base :: below) ≤ mergesDue n'.frames → n'.Keeps g (base :: below) k)
    (hcut : ∀ d, mergesDue (base :: below) = mergesDue n'.frames + d + 1 → k = 0 →
      n'.registers.generator = g.mergeMany d) : Stands g base below k n' := by
  rcases hn.step_above hstep habove with ⟨up, hup⟩ | ⟨dropped, inner, kept, id, hrest, hpre, hleft⟩
  · exact .still hup (hkeeps (mergesDue_le_of_append hup))
  · cases dropped with
    | nil =>
      obtain ⟨rfl, -⟩ := List.cons.inj hrest
      exact absurd hpre (hbase id)
    | cons first dropped =>
      obtain rfl : base = first := (List.cons.inj hrest).1
      have hbelow : below = dropped ++ inner :: kept := (List.cons.inj hrest).2
      refine .cut hbelow hleft (hcut _ ?_)
      rw [mergesDue_cons, mergesDue_nil] at howes
      rw [mergesDue_cons, hbelow, hleft, mergesDue_append]
      omega

/-- A run above a base stands above it until the code is over, and keeps the branches that were
there. -/
theorem Reaches.stands (hm : e.Reaches p start m) (hfirst : Stands g base below 0 m)
    (howes : mergesDue [base] = 1) (hbase : ∀ id, base.pre ≠ [.iterate id])
    (h : m.Opens (base :: below) k n) : e.Reaches p start n ∧ Stands g base below k n := by
  have hnext : ∀ {n n' : Machine e.setting}, e.Reaches p start n → n.IsAbove (base :: below) →
      n.step = .ok n' → e.Reaches p start n' := fun hn habove hstep =>
    hn.lead (.single habove.frames_ne_nil hstep)
  induction h with
  | start => exact ⟨hm, hfirst⟩
  | branch _ habove hcalls hstep ih =>
    obtain ⟨hn, hstands⟩ := ih
    have hkeeps := hstands.keeps habove
    refine ⟨hnext hn habove hstep, .step hn hstep habove howes hbase (fun _ => ?_) ?_⟩
    · exact hkeeps.branch hcalls hstep
    · exact fun _ _ hnone => absurd hnone (Nat.succ_ne_zero _)
  | merge _ habove hcalls hstep ih =>
    obtain ⟨hn, hstands⟩ := ih
    have hkeeps := hstands.keeps habove
    refine ⟨hnext hn habove hstep, .step hn hstep habove howes hbase ?_ fun d hd _ => ?_⟩
    · exact hkeeps.merge hcalls hstep
    · have hdue := (step_merge hcalls hstep).2
      have hle := habove.mergesDue_le
      omega
  | other _ habove hbranch hmerge hstep ih =>
    obtain ⟨hn, hstands⟩ := ih
    have hkeeps := hstands.keeps habove
    have hbranches := step_branches hbranch hmerge hstep
    refine ⟨hnext hn habove hstep, .step hn hstep habove howes hbase ?_ ?_⟩
    · exact hkeeps.of_branches hbranches
    · rintro d hd rfl
      exact hkeeps.cut hbranches habove.mergesDue_le hd

/-! ## The tag that branches for some code -/

variable {f : Frame} {name : Token} {slots : List Slot} {x : Slot} {code : Passage}

/-- A frame that has just given up the call of a tag does nothing more before its next token, and
owes nothing. -/
theorem Reaches.after_taking {tag : Tag} (hm : e.Reaches p start m)
    (htakes : m.Takes (.callTag tag name slots) m₁) (hframes : m₁.frames = f :: below) :
    f.pre = [] ∧ mergesDue [f] = 0 := by
  have hneat : f.pre = [] ∧ ∀ a ∈ f.post, a.IsLate := by
    cases htakes with
    | @pre f₀ below₀ _ pre hframes₀ hpre =>
      have hf₀ := hm.neat f₀ (by simp [hframes₀])
      have hlength := hf₀.pre
      rw [hpre, List.length_cons] at hlength
      have hnone : pre = [] := List.length_eq_zero_iff.1 (by omega)
      obtain ⟨rfl, -⟩ := List.cons.inj ((frames_modifyTop hframes₀ _).symm.trans hframes)
      exact ⟨hnone, hf₀.post⟩
    | @tag f₀ _ _ _ r _ _ _ hframes₀ hfaces =>
      have hf₀ := hm.neat f₀ (by simp [hframes₀])
      obtain ⟨rfl, -⟩ := List.cons.inj ((frames_withReader hframes₀ r).symm.trans hframes)
      exact ⟨hfaces.pre, hf₀.post⟩
    | @post f₀ _ _ _ hframes₀ _ _ hpost =>
      have hlate := (hm.neat f₀ (by simp [hframes₀])).post (.callTag tag name slots)
        (by simp [hpost])
      exact hlate.elim
  obtain ⟨hpre, hlate⟩ := hneat
  refine ⟨hpre, ?_⟩
  rw [mergesDue_cons, mergesDue_nil, Frame.pending, hpre, List.nil_append, Nat.add_zero,
    List.countP_eq_zero]
  intro a ha
  simp [(hlate a ha).isMerge]

/-- What the tag does that branches for some code. If the code is run, and is over or has been cut
off with no plain branch open, the generator is what it was before the tag: after the next step, or
once the frames below that are cut off with the code have taken back what they owe. -/
theorem branchFor_restores (hm : e.Reaches p start m)
    (htakes : m.Takes (.callTag .branchFor name [x, .code code]) m₁)
    (hframes : m₁.frames = f :: below) :
    ∃ m₂ : Machine e.setting, m₂.frames = f.owing :: below ∧ m.step = m₂.run code ∧
      ∀ m₃ n, m.step = .ok m₃ → m₃.Opens (f.owing :: below) 0 n →
        n.IsAbove (f.owing :: below) ∨
        (n.frames = f.owing :: below ∧ ∃ n', n.step = .ok n' ∧ n'.frames = f :: below ∧
          n'.registers.generator = m.registers.generator) ∨
        ∃ dropped inner kept, below = dropped ++ inner :: kept ∧ n.frames = inner :: kept ∧
          n.registers.generator = m.registers.generator.mergeMany (mergesDue dropped) := by
  obtain ⟨hpre, hnothing⟩ := hm.after_taking htakes hframes
  have howes : mergesDue [f.owing] = 1 := by
    rw [mergesDue_cons, mergesDue_nil] at *
    simpa [Frame.owing, Frame.pending, Deferred.isMerge] using hnothing
  let generator := m.registers.generator.branchNamed ((m₁.call name [x, .code code]).text 0)
  let m₂ := (m₁.afterCall name [x, .code code]
    ⟨{ m.registers with generator := generator }, m₁.output⟩).defer (.finish .merge)
  have hframes₂ : m₂.frames = f.owing :: below := frames_modifyTop hframes _
  have hstep : m.step = m₂.run code := by
    rw [htakes.step, take_branchFor, htakes.registers]
    cases x <;> rfl
  have hbase : ∀ id, f.owing.pre ≠ [.iterate id] := fun id h => by
    simp [Frame.owing] at h
  refine ⟨m₂, hframes₂, hstep, fun m₃ n hm₃ hopens => ?_⟩
  have hstands : Stands m.registers.generator f.owing below 0 m₃ := by
    have hrun := hm₃
    rw [hstep] at hrun
    have hsteady := (m₂.steady_run code).of_ok m₃ hrun
    have hentered := congrArg Stage.frames ((m₂.push_stage code false [] []).of_ok m₃ hrun)
    have hup : ∃ top, m₃.frames = [top] ++ f.owing :: below :=
      ⟨_, hentered.trans (congrArg _ hframes₂)⟩
    obtain ⟨top, hup⟩ := hup
    refine .still hup ⟨?_, ?_⟩
    · rw [hsteady.registers.below]
      exact List.suffix_refl _
    · rw [hsteady.registers.below, hsteady.merges, hframes₂]
      rfl
  have hreach₃ := hm.lead (.single htakes.frames_ne_nil hm₃)
  obtain ⟨hn, hover⟩ := hreach₃.stands hstands howes hbase hopens
  cases hover with
  | @still up hup hkeeps =>
    cases up with
    | cons top up => exact .inl ⟨top :: up, by simp, hup⟩
    | nil =>
      refine .inr (.inl ⟨hup, _, step_take hup rfl, ?_, ?_⟩)
      · exact frames_modifyTop hup fun f₁ => { f₁ with pre := f.pre }
      · exact hkeeps.mergeMany (j := 0) (congrArg mergesDue hup)
  | cut hbelow hleft hgenerator => exact .inr (.inr ⟨_, _, _, hbelow, hleft, hgenerator rfl⟩)

/-- The code with a branch of its own draws a number. -/
theorem branchFor_restores_drawing : ∃ (p : Pattern)
    (m m₁ : Machine (build .standard .empty .empty).setting) (f : Frame) (below : List Frame)
    (name : Token) (x : Slot) (code : Passage),
    (build .standard .empty .empty).Reaches p (.ofSeed 42) m ∧
      m.Takes (.callTag .branchFor name [x, .code code]) m₁ ∧ m₁.frames = f :: below ∧
        code.text = "[n:0;9]" ∧ m.registers.generator = ⟨⟨42, 1⟩, []⟩ ∧
          ∃ m₂ : Machine _, m₂.frames = f.owing :: below ∧ m.step = m₂.run code ∧
            ∀ m₃ n, m.step = .ok m₃ → m₃.Opens (f.owing :: below) 0 n →
              n.IsAbove (f.owing :: below) ∨
              (n.frames = f.owing :: below ∧ ∃ n', n.step = .ok n' ∧ n'.frames = f :: below ∧
                n'.registers.generator = m.registers.generator) ∨
              ∃ dropped inner kept, below = dropped ++ inner :: kept ∧ n.frames = inner :: kept ∧
                n.registers.generator = m.registers.generator.mergeMany (mergesDue dropped) := by
  have hseen : (Pattern.compile "drawing" "[branch:{k};[n:0;9]][n:0;9]").toOption.bind (fun p =>
      (((build .standard .empty .empty).start p (.ofSeed 42)).bind
        (Machine.after 8)).toOption.bind fun m => m.due?.map fun (tag, _, _, code, _) =>
          (tag, code.text, m.registers.generator)) =
      some (.branchFor, "[n:0;9]", ⟨⟨42, 1⟩, []⟩) := by decide +kernel
  obtain ⟨p, -, hrun⟩ := Option.bind_eq_some_iff.1 hseen
  obtain ⟨m, hafter, hm⟩ := Option.bind_eq_some_iff.1 hrun
  obtain ⟨⟨tag, name, x, code, f, below⟩, hdue, heq⟩ := Option.map_eq_some_iff.1 hm
  obtain ⟨rfl, hfound⟩ := Prod.mk.inj heq
  obtain ⟨hcode, hgenerator⟩ := Prod.mk.inj hfound
  obtain ⟨m', hreach, rfl⟩ := exists_reaches_of_after (f := id) (a := m) (by rw [hafter]; rfl)
  obtain ⟨htakes, hframes⟩ := takes_of_due? hdue
  exact ⟨p, m', _, f, below, name, x, code, hreach, htakes, hframes, hcode, hgenerator,
    branchFor_restores hreach htakes hframes⟩

/-- The code leaves a branch open: that one is taken back at its end, and the one that was made for
the code stays. -/
theorem branchFor_left_open :
    ((build .standard .empty .empty).runSource "open" "[g:7][branch:j;[branch:k]][g]"
      (.ofSeed 42)).1 = .ok ⟨[("main", "0")]⟩ :=
  runSource_eq_of_after (n := 20) (by decide +kernel)

end Engine

end Wordsmith
