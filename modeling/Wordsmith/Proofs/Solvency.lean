import Wordsmith.Proofs.Cost
import Wordsmith.Proofs.Reach

/-!
# Characters within the limit

All text that a run holds has been paid for: the characters in all its outputs, those that wait for
targets and those of all results together are never more than what was counted as used, and no more
is ever used than the limit allows. Counting stops at a ceiling, where nothing is known any more;
below it, the limit bounds the text itself.

Main results: `Step.solvent`, every step keeps this, and `Engine.held_within_limit`.
-/

namespace Wordsmith

/-! ## Spending -/

namespace Budget

variable {b b' : Budget} {count n : Nat}

theorem spend_eq (h : b.spend count = .ok b') :
    b' = { b with used := min (b.used + count) ceiling } := by
  unfold spend at h
  cases hlimit : b.limit with
  | none =>
    simp only [hlimit] at h
    cases h
    rfl
  | some limit =>
    simp only [hlimit] at h
    split at h
    · cases h
    · cases h
      rfl

theorem spend_used_le (h : b.spend count = .ok b') (hlimit : b.limit = some n) : b'.used ≤ n := by
  unfold spend at h
  simp only [hlimit] at h
  split at h
  · cases h
  · next hle =>
    cases h
    exact Nat.le_of_not_lt hle

end Budget

/-! ## Scenes -/

namespace Scene

/-- Together with a rest of characters that are held elsewhere, what the output holds has been paid
for out of a limit. -/
structure Solvent (n rest : Nat) (s : Scene) : Prop where
  output : s.output.Sound
  limit : s.registers.budget.limit = some n
  used_le : s.registers.budget.used ≤ n
  held_le : min (s.output.held + rest) Budget.ceiling ≤ s.registers.budget.used

variable {n rest : Nat} {r : Registers} {o o' : ChannelStack} {b : Budget}

/-- What costs nothing adds nothing. -/
theorem Solvent.free (h : Solvent n rest ⟨r, o⟩) (hsound : o'.Sound) (hheld : o'.held ≤ o.held) :
    Solvent n rest ⟨r, o'⟩ := by
  obtain ⟨_, hlimit, hused, hle⟩ := h
  refine ⟨hsound, hlimit, hused, Nat.le_trans ?_ hle⟩
  dsimp only
  omega

/-- What is paid for may be added. -/
theorem Solvent.pay (h : Solvent n rest ⟨r, o⟩) {cost : Nat} (hpaid : r.budget.spend cost = .ok b)
    (hsound : o'.Sound) (hheld : o'.held ≤ o.held + cost) :
    Solvent n rest ⟨{ r with budget := b }, o'⟩ := by
  obtain ⟨_, hlimit, hused, hle⟩ := h
  have hb := Budget.spend_eq hpaid
  have hwithin := Budget.spend_used_le hpaid hlimit
  subst hb
  refine ⟨hsound, hlimit, hwithin, ?_⟩
  dsimp only at hle ⊢
  omega

/-- What is done to channels at no cost adds nothing. -/
theorem Solvent.modify (h : Solvent n rest ⟨r, o⟩) {f : Channel → Channel}
    (hf : Channel.Maintains f) (hheld : ∀ c : Channel, (f c).held ≤ c.held) :
    Solvent n rest ⟨r, o.modifyActive f⟩ := by
  refine h.free (h.output.modifyActive hf) ?_
  have hle : (o.modifyActive f).held ≤ o.held + total (o.ofActive fun _ => 0) :=
    h.output.held_modifyActive_le fun c _ => hheld c
  have hzero := o.total_ofActive_const_le 0
  omega

/-- What is done to channels at a cost adds no more. -/
theorem Solvent.modifyFor (h : Solvent n rest ⟨r, o⟩) {f : Channel → Channel}
    (hf : Channel.Maintains f) {cost : Channel → Nat}
    (hheld : ∀ c : Channel, c.Sound → (f c).held ≤ c.held + cost c) {paid : Nat}
    (hcost : total (o.ofActive cost) ≤ paid) (hpaid : r.budget.spend paid = .ok b) :
    Solvent n rest ⟨{ r with budget := b }, o.modifyActive f⟩ := by
  refine h.pay hpaid (h.output.modifyActive hf) ?_
  have hle : (o.modifyActive f).held ≤ o.held + total (o.ofActive cost) :=
    h.output.held_modifyActive_le hheld
  omega

/-- Every turn is paid for. -/
theorem Turn.solvent {s t : Scene} (hturn : s.Turn t) (h : s.Solvent n rest) :
    t.Solvent n rest := by
  cases hturn with
  | memory hsame =>
    obtain ⟨hsound, hlimit, hused, hle⟩ := h
    exact ⟨hsound, hsame.budget ▸ hlimit, hsame.budget ▸ hused, hsame.budget ▸ hle⟩
  | mode mode => exact h.modify (Channel.maintains_setMode mode) fun _ => Nat.le_refl _
  | visit name visibility => exact h.free (h.output.push _ _) (ChannelStack.held_push _ _ _)
  | close name => exact h.free (h.output.pop _) (Nat.le_of_eq (ChannelStack.held_pop _ _))
  | mark name => exact h.modify (Channel.maintains_setMarker name) fun _ => Nat.le_refl _
  | target name =>
    exact h.modify (Channel.maintains_createTarget name) fun c => c.held_createTarget_le name
  | clear name =>
    exact h.modify (Channel.maintains_clearTarget name) fun c => c.held_clearTarget_le name
  | print text hwrite =>
    unfold ChannelStack.write at hwrite
    split at hwrite
    · cases hwrite
      exact h
    · split at hwrite
      · cases hwrite
      · next hpaid =>
        cases hwrite
        exact h.modifyFor (Channel.maintains_write text) (fun c hc => Channel.held_write_le hc text)
          (Nat.le_refl _) hpaid
  | article hwrite =>
    unfold ChannelStack.writeArticle at hwrite
    split at hwrite
    · cases hwrite
    · next hpaid =>
      cases hwrite
      have hheld : ∀ c : Channel, c.Sound → c.writeArticle.held ≤ c.held + (fun _ => 1) c :=
        fun c _ => c.held_writeArticle_le
      refine h.modifyFor Channel.maintains_writeArticle hheld ?_ hpaid
      exact Nat.le_trans (ChannelStack.total_ofActive_const_le _ 1) (Nat.le_of_eq (Nat.mul_one _))
  | send name value overwrite hwrite =>
    unfold ChannelStack.writeTarget at hwrite
    split at hwrite
    · cases hwrite
    · next hpaid =>
      cases hwrite
      exact h.modifyFor (Channel.maintains_writeTarget name value overwrite)
        (fun c hc => Channel.held_writeTarget_le hc name value overwrite) (Nat.le_refl _) hpaid

end Scene

/-! ## Stages -/

/-- The characters of all channels. -/
def Output.size (o : Output) : Nat := total (o.channels.map (·.2.length))

theorem ChannelStack.size_output_le (s : ChannelStack) : s.output.size ≤ s.held := by
  simp only [Output.size, output, held, List.map_map]
  refine total_map_le fun c _ => ?_
  show c.value.length ≤ c.held
  rw [Channel.length_value]
  exact Nat.le_add_right _ _

theorem total_drop_le (l : List Nat) (k : Nat) : total (l.drop k) ≤ total l := by
  have h := congrArg total (List.take_append_drop k l)
  rw [total_append] at h
  omega

namespace Stage

/-- The characters that the results hold. -/
def resultsHeld (x : Stage) : Nat := total (x.results.map Output.size)

/-- The characters that the outputs and the results hold. -/
def held (x : Stage) : Nat := total (x.outputs.map ChannelStack.held) + x.resultsHeld

/-- All that is held has been paid for out of a limit. -/
structure Solvent (n : Nat) (x : Stage) : Prop where
  outputs : ∀ o ∈ x.outputs, o.Sound
  limit : x.registers.budget.limit = some n
  used_le : x.registers.budget.used ≤ n
  held_le : min x.held Budget.ceiling ≤ x.registers.budget.used

variable {x y : Stage} {n : Nat} {due : Option Deferred} {literals : Bool}

/-- Less may be held, at the same budget. -/
theorem Solvent.shrink (h : x.Solvent n) (hsound : ∀ o ∈ y.outputs, o ∈ x.outputs)
    (hbudget : y.registers.budget = x.registers.budget) (hheld : y.held ≤ x.held) :
    y.Solvent n := by
  obtain ⟨houtputs, hlimit, hused, hle⟩ := h
  refine ⟨fun o ho => houtputs o (hsound o ho), hbudget ▸ hlimit, hbudget ▸ hused, ?_⟩
  rw [hbudget]
  omega

/-- Turns in the scene are paid for. -/
theorem Solvent.turn (h : x.Solvent n) {s : Scene} (hturns : x.scene.Turns s) :
    (x.turn s).Solvent n := by
  obtain ⟨houtputs, hlimit, hused, hle⟩ := h
  let rest := total (x.outputs.tail.map ChannelStack.held) + x.resultsHeld
  have hscene : x.scene.Solvent n rest := by
    have hrest : x.scene.output.held + rest = x.held ∧ x.scene.output.Sound := by
      cases hx : x.outputs with
      | nil =>
        refine ⟨?_, by simpa [scene, hx] using ChannelStack.sound_initial⟩
        simp [scene, held, rest, hx, ChannelStack.held_initial]
      | cons o os =>
        refine ⟨?_, by simpa [scene, hx] using houtputs o (by simp [hx])⟩
        simp [scene, held, rest, hx, Nat.add_assoc]
    refine ⟨hrest.2, hlimit, hused, ?_⟩
    rw [hrest.1]
    exact hle
  obtain ⟨hsound, hlimit, hused, hle⟩ :=
    hturns.keeps (fun _ _ hturn hsolvent => hturn.solvent hsolvent) hscene
  refine ⟨?_, hlimit, hused, ?_⟩
  · exact List.forall_mem_cons.2 ⟨hsound, fun o ho => houtputs o (List.mem_of_mem_tail ho)⟩
  · have hheld : (x.turn s).held = s.output.held + rest := by
      simp [held, Stage.turn, resultsHeld, rest, Nat.add_assoc]
    rw [hheld]
    exact hle

theorem resultsHeld_drop_le (x : Stage) (k : Nat) :
    total ((x.results.drop k).map Output.size) ≤ x.resultsHeld := by
  rw [List.map_drop]
  exact total_drop_le _ k

theorem Solvent.use (h : x.Solvent n) (k : Nat) : (x.use k).Solvent n :=
  h.shrink (fun _ ho => ho) rfl (Nat.add_le_add_left (x.resultsHeld_drop_le k) _)

theorem Solvent.change (h : x.Solvent n) {f : Registers → Registers}
    (hf : (f x.registers).budget = x.registers.budget) : (x.change f).Solvent n :=
  h.shrink (fun _ ho => ho) hf (Nat.le_refl _)

theorem Solvent.defer (h : x.Solvent n) (action : Deferred) : (x.defer action).Solvent n :=
  h.shrink (fun _ ho => ho) rfl (Nat.le_refl _)

theorem Solvent.enter (h : x.Solvent n) (o : Opening) : (x.enter o).Solvent n := by
  cases howns : o.owns with
  | false =>
    have houtputs : (x.enter o).outputs = x.outputs := by simp [Stage.enter, howns]
    refine h.shrink (fun _ ho => houtputs ▸ ho) rfl (Nat.le_of_eq ?_)
    rw [held, houtputs]
    rfl
  | true =>
    have houtputs : (x.enter o).outputs = .initial :: x.outputs := by simp [Stage.enter, howns]
    have hheld : (x.enter o).held = x.held := by
      rw [held, houtputs, List.map_cons, total_cons, ChannelStack.held_initial, Nat.zero_add]
      rfl
    obtain ⟨hsound, hlimit, hused, hle⟩ := h
    refine ⟨?_, hlimit, hused, hheld ▸ hle⟩
    rw [houtputs]
    exact List.forall_mem_cons.2 ⟨ChannelStack.sound_initial, hsound⟩

theorem Solvent.enterAll (h : x.Solvent n) (os : List Opening) : (x.enterAll os).Solvent n := by
  induction os generalizing x with
  | nil => exact h
  | cons o os ih => exact ih (h.enter o)

theorem Solvent.startBlock (h : x.Solvent n) (b : Block) (a : Attributes) :
    (x.startBlock b a).Solvent n :=
  h.shrink (fun _ ho => ho) rfl (Nat.le_refl _)

/-- An output that becomes a result holds no more. -/
theorem Solvent.pop (h : x.Solvent n) : x.pop.Solvent n := by
  cases howned : x.frames.head?.any (·.owns) with
  | false =>
    have houtputs : x.pop.outputs = x.outputs := by simp [Stage.pop, howned]
    have hresults : x.pop.results = x.results := by simp [Stage.pop, howned]
    refine h.shrink (fun _ ho => houtputs ▸ ho) rfl (Nat.le_of_eq ?_)
    rw [held, resultsHeld, houtputs, hresults]
    rfl
  | true =>
    have houtputs : x.pop.outputs = x.outputs.tail := by simp [Stage.pop, howned]
    have hresults : x.pop.results = x.scene.output.output :: x.results := by
      simp [Stage.pop, howned]
    have hsize := x.scene.output.size_output_le
    refine h.shrink (fun _ ho => List.mem_of_mem_tail (houtputs ▸ ho)) rfl ?_
    rw [held, resultsHeld, houtputs, hresults, List.map_cons, total_cons]
    cases hx : x.outputs with
    | nil =>
      have hscene : x.scene.output.held = 0 := by
        simp [scene, hx, ChannelStack.held_initial]
      simp only [held, resultsHeld, hx, List.tail_nil, List.map_nil, total_nil]
      omega
    | cons o os =>
      have hscene : x.scene.output.held = o.held := by simp [scene, hx]
      simp only [held, resultsHeld, hx, List.tail_cons, List.map_cons, total_cons]
      omega

theorem budget_undo (r : Registers) (action : Deferred) :
    (r.undo action).budget = r.budget := by
  cases action with
  | finish q => cases q <;> rfl
  | _ => rfl

theorem budget_giveUp (r : Registers) (frames : List Frame) :
    (Machine.giveUp r frames).budget = r.budget := by
  unfold Machine.giveUp
  generalize frames.flatMap (fun f => f.pre ++ f.post) = actions
  induction actions generalizing r with
  | nil => rfl
  | cons action actions ih => exact (ih _).trans (budget_undo r action)

/-- Outputs and results that are given up hold nothing any more. -/
theorem Leaves.solvent (hleaves : x.Leaves y) (h : x.Solvent n) : y.Solvent n := by
  cases hleaves with
  | idle => exact h
  | lost => exact h.change rfl
  | @cut r others dropped =>
    refine h.shrink (fun _ ho => List.mem_of_mem_drop ho) (budget_giveUp _ dropped) ?_
    simp only [held, resultsHeld]
    have houtputs : total ((x.outputs.drop (dropped.countP (·.owns))).map ChannelStack.held) ≤
        total (x.outputs.map ChannelStack.held) := by
      rw [List.map_drop]
      exact total_drop_le _ _
    refine Nat.add_le_add houtputs ?_
    cases dropped.getLast? with
    | none => exact Nat.le_refl _
    | some f => exact x.resultsHeld_drop_le _

/-- Every effect is paid for. -/
theorem Effect.solvent (heffect : x.Effect literals due y) (h : x.Solvent n) : y.Solvent n := by
  cases heffect with
  | act _ hturns => exact (h.use _).turn hturns
  | run _ hturns => exact ((h.use _).turn hturns).enter _
  | runThen _ hturns => exact (((h.use _).turn hturns).defer _).enterAll _
  | compare => exact (((h.use _).change rfl).defer _).enterAll _
  | call => exact (((h.use _).change rfl).defer _).enter _
  | leave hleaves => exact hleaves.solvent (h.use _)
  | undo => exact h.change (budget_undo _ _)
  | advance => exact h.change rfl
  | suppress => exact h.change rfl
  | gone => exact h
  | iterate _ _ hturns => exact ((h.turn hturns).defer _).enterAll _
  | block _ hturns => exact (h.turn hturns).startBlock _ _
  | await => exact (h.defer _).enterAll _
  | «matches» => exact ((h.use 1).defer _).enterAll _

/-- Every step is paid for. -/
theorem Step.solvent (hstep : x.Step literals y) (h : x.Solvent n) : y.Solvent n := by
  cases hstep with
  | go hframes _ heffect =>
    exact heffect.solvent (h.shrink (fun _ ho => ho) rfl (Nat.le_refl _))
  | pop => exact h.pop

end Stage

/-! ## Runs -/

/-- The characters that the outputs and the results of a machine hold. -/
def Machine.held {s : Setting} (m : Machine s) : Nat := m.stage.held

namespace Engine

variable {e : Engine} {p : Pattern} {g : Generator} {n : Nat}

theorem Reaches.solvent {m : Machine e.setting} (h : e.Reaches p g m)
    (hlimit : e.config.charLimit = some n) : m.stage.Solvent n := by
  refine h.keepsStage ?_ fun x y _ hstep hx => hstep.solvent hx
  have hinitial : (Machine.initial e.setting (e.registers g)).stage.Solvent n :=
    ⟨nofun, hlimit, Nat.zero_le _, Nat.zero_le _⟩
  exact hinitial.enter _

/-- With a limit of `n` characters, no more are counted as used, and no more are held than that:
counting stops at a ceiling, and any limit below it bounds what is held and what a run ends with. -/
theorem held_within_limit (e : Engine) (p : Pattern) (g : Generator) {n : Nat}
    (hlimit : e.config.charLimit = some n) :
    (∀ m, e.Reaches p g m → m.registers.budget.used ≤ n ∧
      min m.held Budget.ceiling ≤ m.registers.budget.used ∧
      (n < Budget.ceiling → m.held ≤ m.registers.budget.used)) ∧
    ∀ output, (e.run p g).1 = .ok output → min output.size Budget.ceiling ≤ n ∧
      (n < Budget.ceiling → output.size ≤ n) := by
  have reached : ∀ m, e.Reaches p g m → m.registers.budget.used ≤ n ∧
      min m.held Budget.ceiling ≤ m.registers.budget.used := fun m hm =>
    ⟨(hm.solvent hlimit).used_le, (hm.solvent hlimit).held_le⟩
  refine ⟨fun m hm => ?_, fun output hok => ?_⟩
  · obtain ⟨hused, hheld⟩ := reached m hm
    exact ⟨hused, hheld, by omega⟩
  · obtain ⟨m, hm, -, houtput⟩ := reaches_of_run_ok hok
    obtain ⟨hused, hheld⟩ := reached m hm
    have hsize : output.size ≤ m.held := by
      rw [houtput]
      show _ ≤ total _ + total (m.results.map Output.size)
      cases m.results with
      | nil => exact Nat.zero_le _
      | cons o os =>
        simp only [List.headD_cons, List.map_cons, total_cons]
        omega
    omega

/-- An engine whose runs may hold five characters. -/
def frugal : Engine := .build { Config.standard with charLimit := some 5 } .empty .empty

/-- A pattern that prints two letters. -/
def letters : Pattern where
  name := "letters"
  code := "ab"
  tokens := #[⟨.text, "ab", ⟨1, 1, 0⟩⟩]
  tokenize_code := by with_unfolding_all rfl

/-- A run has printed its two letters, and may hold five. -/
theorem held_within_limit_letters : frugal.config.charLimit = some 5 ∧
    ∃ m, frugal.Reaches letters (.ofSeed 0) m ∧ m.held = 2 ∧ m.registers.budget.used ≤ 5 ∧
      min m.held Budget.ceiling ≤ m.registers.budget.used := by
  have hlimit : frugal.config.charLimit = some 5 := rfl
  have hheld : ((frugal.start letters (.ofSeed 0)).bind (Machine.after 1)).toOption.map
      (·.held) = some 2 := by decide +kernel
  obtain ⟨m, hreach, htwo⟩ := exists_reaches_of_after hheld
  obtain ⟨hused, hle, -⟩ := (held_within_limit frugal letters (.ofSeed 0) hlimit).1 m hreach
  exact ⟨hlimit, m, hreach, htwo, hused, hle⟩

end Engine

end Wordsmith
