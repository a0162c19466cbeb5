import Wordsmith.Proofs.Moves
import Wordsmith.Proofs.Reach

/-!
# Evaluations

Arguments, and all other code whose text is needed, are not run on the spot: the action that needs
them is postponed, and they are put on top, each in a frame with an output of its own. They are run
one after the other. Whatever happens in the meantime happens on top of what is left of them, and
when one of them ends, what it printed becomes a result.

What has happened since an action was postponed is told here as a relation between machines; that
nothing else can have happened is shown with the invariant of the results.

Main results: `Evaluates.frames`, `Evaluates.outputs` and `Evaluates.results`, what an evaluation
leaves.
-/

namespace Wordsmith

namespace Machine

variable {s : Setting} {m n n' m₀ : Machine s} {f f' : Frame} {rest below : List Frame}

/-- The frame `f` that was the innermost one of `m`, over the frames `rest`, is still there, and so
are the outputs below its own and the results. -/
structure Over (m : Machine s) (f : Frame) (rest : List Frame) (n : Machine s) : Prop where
  frames : ∃ up f', n.frames = up ++ f' :: rest ∧ f.Continues f'
  outputs : m.outputs.tail <:+ n.outputs
  results : m.results <:+ n.results

/-- The steps from `m` to `n` are all within the frame `f`, over the frames `rest`. -/
inductive Within (m : Machine s) (f : Frame) (rest : List Frame) : Machine s → Prop
  | start (hframes : m.frames = f :: rest) : Within m f rest m
  | step {n n' : Machine s} (h : Within m f rest n) (hstep : n.step = .ok n')
      (hover : m.Over f rest n') : Within m f rest n'

theorem Within.over (h : m.Within f rest n) : m.Over f rest n := by
  cases h with
  | start hframes => exact ⟨⟨[], f, hframes, .refl f⟩, List.tail_suffix _, List.suffix_refl _⟩
  | step _ _ hover => exact hover

theorem Within.frames_ne_nil (h : m.Within f rest n) : n.frames ≠ [] := by
  obtain ⟨up, f', hframes, -⟩ := h.over.frames
  simp [hframes]

theorem Within.leads (h : m.Within f rest n) : ∃ k, Leads k m n := by
  induction h with
  | start => exact ⟨0, .refl m⟩
  | step h hstep _ ih =>
    obtain ⟨k, hlead⟩ := ih
    exact ⟨k + 1, hlead.trans (.single h.frames_ne_nil hstep)⟩

/-- A step puts an action off, and begins the passages that it asks for in frames on top, the first
of them innermost. -/
structure Postpones (m₀ m : Machine s) (action : Deferred) (os : List Opening) (f : Frame)
    (below : List Frame) : Prop where
  step : m₀.step = .ok m
  asks : action.Asks s.shortcuts.literals os
  waits : f.pre = [action]
  frames : m.frames = Opening.frames m₀.nextId m.results.length os ++ f :: below
  outputs : m.outputs = List.replicate os.length .initial ++ m₀.outputs
  /-- The frame is the one that was innermost before, and used up its results. -/
  before : ∃ f₀, m₀.frames = f₀ :: below ∧ f₀.Continues f ∧ m.results = m₀.results.drop f₀.uses

/-- Frames on top of `m` are run to their ends, one after the other, which comes to `n`. Each begins
with an empty output, and what it has printed at its end is a new result. The results are given in
the order in which the frames are run. -/
inductive Evaluates (m : Machine s) : List Output → Machine s → Prop
  | start : Evaluates m [] m
  | next {outs : List Output} {m₁ m₂ n : Machine s} {f f' : Frame} {rest : List Frame}
      {o : ChannelStack} {others : List ChannelStack} (h : Evaluates m outs m₁)
      (hframes : m₁.frames = f :: rest) (howns : f.owns = true)
      (houtputs : m₁.outputs = .initial :: others) (hwithin : m₁.Within f rest m₂)
      (hlast : m₂.frames = f' :: rest) (hread : f'.reader.read? = none) (hpending : f'.pending = [])
      (hprinted : m₂.outputs = o :: others) (hstep : m₂.step = .ok n) (hframes' : n.frames = rest)
      (houtputs' : n.outputs = others) (hresults' : n.results = o.output :: m₁.results) :
      Evaluates m (outs ++ [o.output]) n

variable {outs : List Output}

namespace Evaluates

theorem leads (h : m.Evaluates outs n) : ∃ k, Leads k m n := by
  induction h with
  | start => exact ⟨0, .refl m⟩
  | next _ _ _ _ hwithin _ _ _ _ hstep _ _ _ ih =>
    obtain ⟨k, hlead⟩ := ih
    obtain ⟨j, hlead'⟩ := hwithin.leads
    exact ⟨k + (j + 1), hlead.trans (hlead'.trans (.single hwithin.frames_ne_nil hstep))⟩

/-- One frame is gone for every result. -/
theorem frames (h : m.Evaluates outs n) : n.frames = m.frames.drop outs.length := by
  induction h with
  | start => rfl
  | next _ hframes _ _ _ _ _ _ _ _ hframes' _ _ ih =>
    rw [List.length_append, List.length_singleton, ← List.drop_drop, ← ih, hframes, hframes']
    rfl

/-- One output is gone for every result. -/
theorem outputs (h : m.Evaluates outs n) : n.outputs = m.outputs.drop outs.length := by
  induction h with
  | start => rfl
  | next _ _ _ houtputs _ _ _ _ _ _ _ houtputs' _ ih =>
    rw [List.length_append, List.length_singleton, ← List.drop_drop, ← ih, houtputs, houtputs']
    rfl

/-- The results are on top of those from before, the last one first. -/
theorem results (h : m.Evaluates outs n) : n.results = outs.reverse ++ m.results := by
  induction h with
  | start => rfl
  | next _ _ _ _ _ _ _ _ _ _ _ _ hresults' ih =>
    rw [hresults', ih, List.reverse_append, List.reverse_singleton]
    rfl

/-- Frames that are run behind others. -/
theorem trans {outs' : List Output} (h : m.Evaluates outs n) (h' : n.Evaluates outs' n') :
    m.Evaluates (outs ++ outs') n' := by
  induction h' with
  | start => rwa [List.append_nil]
  | next _ hframes howns houtputs hwithin hlast hread hpending hprinted hstep hframes' houtputs'
      hresults' ih =>
    rw [← List.append_assoc]
    exact .next ih hframes howns houtputs hwithin hlast hread hpending hprinted hstep hframes'
      houtputs' hresults'

/-- The main texts that the action takes, in the order in which the frames were run. -/
theorem takeResults (h : m.Evaluates outs n) :
    (n.takeResults outs.length).1 = outs.map (·.main) := by
  rw [Machine.takeResults, h.results, List.take_left' (by simp), List.map_reverse,
    List.reverse_reverse]

end Evaluates

end Machine

end Wordsmith
