import Wordsmith.Proofs.Evaluation

/-!
# Results

What frames with outputs of their own have printed is kept on one stack, and an action takes as many
results off it as passages were begun for it, whatever they are. A block that is left cuts the stack
down to a mark. Neither would do if a result were left behind, or if one were cut off that is still
waited for.

The frames fall into levels: a level begins at a frame with an output of its own, and at the end of
the level below there is the action that waits for it. Each level has a height, which is the number
of results when it began or when the last result for the same action came, and the results up to
that height stay until the level is over.

Main results: `Running.step`, the invariant of the results, and `Engine.results_in_order`.
-/

namespace Wordsmith

open Machine

/-- What has the same end and is not longer is itself an end. -/
theorem suffix_drop {α : Type} {l₁ l : List α} {k : Nat} (h : l₁ <:+ l)
    (hle : l₁.length + k ≤ l.length) : l₁ <:+ l.drop k := by
  refine List.suffix_of_suffix_length_le h (List.drop_suffix k l) ?_
  rw [List.length_drop]
  omega

namespace Frame

/-- No passages are begun for what repeats a block. -/
theorem pre_ne_iterate_of_asks {literals : Bool} {f : Frame} {action : Deferred}
    {os : List Opening} (hwaits : f.pre = [action]) (hasks : action.Asks literals os) (id : Nat) :
    f.pre ≠ [.iterate id] := by
  intro hpre
  obtain rfl : action = .iterate id := List.head_eq_of_cons_eq (hwaits.symm.trans hpre)
  cases hasks with
  | await h => cases h

end Frame

/-- The passages whose frames are over and those whose frames are left. -/
theorem Opening.length_of_drop {id mark k : Nat} {os : List Opening} {f : Frame}
    {unstarted : List Frame} (h : (Opening.frames id mark os).drop k = f :: unstarted) :
    os.length = k + (unstarted.length + 1) := by
  have hlength := congrArg List.length h
  rw [List.length_drop, length_frames, List.length_cons] at hlength
  omega

namespace Machine.Postpones

variable {s : Setting} {m₀ m : Machine s} {action : Deferred} {os : List Opening} {f : Frame}
  {below : List Frame}

theorem uses_eq (h : m₀.Postpones m action os f below) : f.uses = os.length := by
  rw [Frame.uses, h.waits]
  exact h.asks.uses_eq

/-- The frames on top are fresh, and have outputs of their own. -/
theorem fresh (h : m₀.Postpones m action os f below) {f' : Frame}
    (hf : f' ∈ Opening.frames m₀.nextId m.results.length os) : f'.Fresh ∧ f'.owns = true := by
  obtain ⟨o, ho, id, rfl⟩ := Opening.mem_frames hf
  obtain ⟨hfresh, howns⟩ := h.asks.isFresh o ho
  exact ⟨hfresh _ _, howns⟩

variable {n : Machine s} {outs : List Output} {f₁ : Frame} {unstarted : List Frame}

theorem frames_left (h : m₀.Postpones m action os f below) (heval : m.Evaluates outs n)
    (hleft : (Opening.frames m₀.nextId m.results.length os).drop outs.length = f₁ :: unstarted) :
    n.frames = f₁ :: (unstarted ++ f :: below) := by
  have hlength := Opening.length_of_drop hleft
  rw [heval.frames, h.frames, List.drop_append_of_le_length, hleft, List.cons_append]
  rw [Opening.length_frames]
  omega

theorem outputs_left (h : m₀.Postpones m action os f below) (heval : m.Evaluates outs n)
    (hleft : (Opening.frames m₀.nextId m.results.length os).drop outs.length = f₁ :: unstarted) :
    n.outputs = .initial :: (List.replicate unstarted.length .initial ++ m₀.outputs) := by
  have hlength := Opening.length_of_drop hleft
  rw [heval.outputs, h.outputs, List.drop_append_of_le_length, List.drop_replicate, hlength,
    Nat.add_sub_cancel_left, List.replicate_succ, List.cons_append]
  rw [List.length_replicate]
  omega

theorem fresh_left (h : m₀.Postpones m action os f below)
    (hleft : (Opening.frames m₀.nextId m.results.length os).drop outs.length = f₁ :: unstarted) :
    ∀ f' ∈ f₁ :: unstarted, f'.Fresh ∧ f'.owns = true := by
  intro f' hf
  refine h.fresh (List.mem_of_mem_drop (i := outs.length) ?_)
  exact hleft ▸ hf

end Machine.Postpones

namespace Engine

/-! ## Levels -/

variable {e : Engine} {p : Pattern} {g : Generator}

/-- The frames of a machine that a run has come to, and the number of results below those of the
innermost frame. -/
inductive Settled (e : Engine) (p : Pattern) (g : Generator) (n : Machine e.setting) :
    List Frame → Nat → Prop
  | root {f : Frame} (howns : f.owns = true) : Settled e p g n [f] 0
  /-- A frame that prints to the same output as the one below. -/
  | shared {f f' : Frame} {below : List Frame} {b : Nat} (howns : f'.owns = false)
      (hmark : f'.mark = b) (huses : f.uses = 0) (hbelow : Settled e p g n (f :: below) b) :
      Settled e p g n (f' :: f :: below) b
  /-- A frame that is run for an action, over those that are still to be run. -/
  | apart {m₀ m m₁ : Machine e.setting} {action : Deferred} {os : List Opening}
      {outs : List Output} {waiting first f' : Frame} {unstarted below : List Frame}
      (hreach : e.Reaches p g m₀) (hpost : m₀.Postpones m action os waiting below)
      (heval : m.Evaluates outs m₁)
      (hleft : (Opening.frames m₀.nextId m.results.length os).drop outs.length =
        first :: unstarted)
      (hwithin : m₁.Within first (unstarted ++ waiting :: below) n) (hf : first.Continues f')
      (hbelow : Settled e p g n (waiting :: below) m.results.length) :
      Settled e p g n (f' :: (unstarted ++ waiting :: below)) m₁.results.length

variable {n n' m₀ m m₁ : Machine e.setting} {action : Deferred} {os : List Opening}
  {outs : List Output} {f f' : Frame} {rest below : List Frame} {b : Nat}

theorem Reaches.evaluated (hreach : e.Reaches p g m₀) (hpost : m₀.Postpones m action os f below)
    (heval : m.Evaluates outs m₁) : e.Reaches p g m₁ := by
  obtain ⟨f₀, hframes, -⟩ := hpost.before
  obtain ⟨k, hlead⟩ := heval.leads
  exact (hreach.lead (.single (by simp [hframes]) hpost.step)).lead hlead

/-- The outputs below those of a frame that is about to be run. -/
theorem length_tail_outputs (hreach : e.Reaches p g m₁) (hframes : m₁.frames = f :: rest)
    (howns : f.owns = true) : m₁.outputs.tail.length = rest.countP (·.owns) := by
  have houtputs : m₁.outputs.length = m₁.frames.countP (·.owns) := hreach.coherent.outputs
  rw [hframes, List.countP_cons_of_pos howns] at houtputs
  rw [List.length_tail, houtputs]
  rfl

namespace Settled

/-- What a step leaves below the innermost frame, it leaves settled. -/
theorem step (h : Settled e p g n (f :: rest) b) (hstep : n.step = .ok n') {up : List Frame}
    (hframes : n'.frames = up ++ f' :: rest) (hf : f.Continues f')
    (houtputs : ∀ l, l <:+ n.outputs → l.length < (f :: rest).countP (·.owns) → l <:+ n'.outputs)
    (hresults : ∀ l, l <:+ n.results → l.length ≤ b → l <:+ n'.results) :
    Settled e p g n' (f' :: rest) b := by
  generalize hlist : f :: rest = frames at h houtputs
  -- Each level asks for less than the one above: fewer outputs, and results up to a lower height.
  induction h generalizing f f' rest up with
  | root howns =>
    obtain ⟨rfl, rfl⟩ := List.cons.inj hlist
    exact .root (hf.owns.trans howns)
  | @shared f₁ _ below b howns hmark huses hbelow ih =>
    obtain ⟨rfl, rfl⟩ := List.cons.inj hlist
    have hframes' : n'.frames = (up ++ [f']) ++ f₁ :: below := by
      rw [hframes, List.append_assoc]
      rfl
    refine .shared (hf.owns.trans howns) (hf.mark.trans hmark) huses
      (ih hframes' (.refl f₁) hresults rfl fun l hl hlt => ?_)
    exact houtputs l hl (by rwa [List.countP_cons_of_neg (by simp [howns])])
  | @apart m₀ m m₁ action os outs waiting first _ unstarted below hreach hpost heval hleft hwithin
      hf' hbelow ih =>
    obtain ⟨rfl, rfl⟩ := List.cons.inj hlist
    have howns := (hpost.fresh_left hleft first List.mem_cons_self).2
    have hframes₁ := hpost.frames_left heval hleft
    have hreach₁ := hreach.evaluated hpost heval
    have hover := hwithin.over
    refine .apart hreach hpost heval hleft (.step hwithin hstep ⟨?_, ?_, ?_⟩) (hf'.trans hf) ?_
    · exact ⟨up, f', hframes, hf'.trans hf⟩
    · refine houtputs _ hover.outputs ?_
      rw [length_tail_outputs hreach₁ hframes₁ howns,
        List.countP_cons_of_pos (hf'.owns.trans howns)]
      exact Nat.lt_succ_self _
    · exact hresults _ hover.results (Nat.le_refl _)
    · have hframes' : n'.frames = (up ++ f' :: unstarted) ++ waiting :: below := by
        rw [hframes, List.append_assoc, List.cons_append]
      refine ih hframes' (.refl waiting) (fun l hl hle => ?_) rfl fun l hl hlt => ?_
      · refine hresults l hl (Nat.le_trans hle ?_)
        rw [heval.results, List.length_append]
        exact Nat.le_add_left _ _
      · refine houtputs l hl (Nat.lt_of_lt_of_le hlt ?_)
        rw [← List.cons_append, List.countP_append]
        exact Nat.le_add_left _ _

/-- A frame in which a block is repeated begins no level and is at the end of none, so the frame
above it has the mark of its level. -/
theorem base (h : Settled e p g n (f :: rest) b) {dropped kept : List Frame} {base : Frame}
    {id : Nat} (hrest : rest = dropped ++ base :: kept) (hpre : base.pre = [.iterate id]) :
    Settled e p g n (base :: kept) ((f :: dropped).getLast (List.cons_ne_nil _ _)).mark ∧
      ((f :: dropped).getLast (List.cons_ne_nil _ _)).mark ≤ b := by
  generalize hlist : f :: rest = frames at h
  induction h generalizing f rest dropped with
  | root =>
    obtain ⟨rfl, rfl⟩ := List.cons.inj hlist
    simp at hrest
  | @shared f₁ _ below b _ hmark _ hbelow ih =>
    obtain ⟨rfl, rfl⟩ := List.cons.inj hlist
    cases dropped with
    | nil =>
      obtain ⟨rfl, rfl⟩ := List.cons.inj hrest
      exact ⟨hmark ▸ hbelow, Nat.le_of_eq hmark⟩
    | cons d dropped =>
      obtain ⟨rfl, hbelow'⟩ := List.cons.inj hrest
      have hnext := ih hbelow' rfl
      exact hnext
  | @apart m₀ m m₁ action os outs waiting _ _ unstarted below hreach hpost heval hleft _ _ hbelow
      ih =>
    obtain ⟨rfl, rfl⟩ := List.cons.inj hlist
    -- None of the frames here is the base: one waits for its passages, the others have not begun.
    have hwaiting : base ≠ waiting := fun heq =>
      Frame.pre_ne_iterate_of_asks hpost.waits hpost.asks id (heq ▸ hpre)
    have hfresh : base ∉ unstarted := fun hmem =>
      (hpost.fresh_left hleft base (List.mem_cons_of_mem _ hmem)).1.pre_ne_iterate id hpre
    rcases List.append_eq_append_iff.1 hrest with ⟨l, rfl, hl⟩ | ⟨l, rfl, hl⟩
    · cases l with
      | nil => exact absurd (List.head_eq_of_cons_eq hl).symm hwaiting
      | cons d dropped =>
        obtain ⟨rfl, rfl⟩ := List.cons.inj hl
        obtain ⟨hsettled, hle⟩ := ih rfl rfl
        have hlast : (f :: (unstarted ++ waiting :: dropped)).getLast (List.cons_ne_nil _ _) =
            (waiting :: dropped).getLast (List.cons_ne_nil _ _) := by
          rw [List.getLast_cons (by simp), List.getLast_append_right (List.cons_ne_nil _ _)]
        rw [hlast]
        refine ⟨hsettled, Nat.le_trans hle ?_⟩
        rw [heval.results, List.length_append]
        exact Nat.le_add_left _ _
    · cases l with
      | nil => exact absurd (List.head_eq_of_cons_eq hl) hwaiting
      | cons d dropped =>
        obtain ⟨rfl, -⟩ := List.cons.inj hl
        exact absurd (by simp) hfresh

/-- Fresh frames that print to the same output belong to the level. -/
theorem mount (h : Settled e p g n (f :: below) b) (huses : f.uses = 0) {up : List Frame}
    (hup : ∀ f' ∈ up, f'.Fresh ∧ f'.owns = false ∧ f'.mark = b) :
    ∃ top rest, up ++ f :: below = top :: rest ∧ top.uses = 0 ∧
      Settled e p g n (top :: rest) b := by
  induction up with
  | nil => exact ⟨f, below, rfl, huses, h⟩
  | cons f' up ih =>
    obtain ⟨⟨hfresh, howns, hmark⟩, hup⟩ := List.forall_mem_cons.1 hup
    obtain ⟨top, rest, hframes, htop, hsettled⟩ := ih hup
    refine ⟨f', up ++ f :: below, rfl, hfresh.uses_eq_zero, ?_⟩
    rw [hframes]
    exact .shared howns hmark htop hsettled

end Settled

/-! ## The invariant -/

/-- What the innermost frame does next has been postponed, and its passages have been run. -/
def Answered (e : Engine) (p : Pattern) (g : Generator) (n : Machine e.setting) (f : Frame)
    (below : List Frame) : Prop :=
  ∃ m₀ m action os outs, e.Reaches p g m₀ ∧ m₀.Postpones m action os f below ∧
    m.Evaluates outs n ∧ outs.length = os.length

/-- The results above the level of the innermost frame are those that it is going to use up. -/
structure Running (e : Engine) (p : Pattern) (g : Generator) (n : Machine e.setting) (f : Frame)
    (below : List Frame) : Prop where
  frames : n.frames = f :: below
  neat : ∀ f' ∈ f :: below, f'.Neat
  settled : Settled e p g n (f :: below) (n.results.drop f.uses).length
  answered : 0 < f.uses → Answered e p g n f below

/-- The outermost frame has ended, and what it printed is the only result. -/
def Concluded (e : Engine) (p : Pattern) (g : Generator) (n : Machine e.setting) : Prop :=
  n.frames = [] ∧ ∃ m f, e.Reaches p g m ∧ m.frames = [f] ∧ f.owns = true ∧ m.step = .ok n ∧
    n.results = [m.output.output]

/-- The invariant of the results. -/
def Orderly (e : Engine) (p : Pattern) (g : Generator) (n : Machine e.setting) : Prop :=
  Concluded e p g n ∨ ∃ f below, Running e p g n f below

namespace Running

theorem of_settled (hframes : n.frames = f :: below) (hneat : ∀ f' ∈ f :: below, f'.Neat)
    (huses : f.uses = 0) (h : Settled e p g n (f :: below) n.results.length) :
    Running e p g n f below := by
  refine ⟨hframes, hneat, ?_, fun hpos => absurd huses (Nat.ne_of_gt hpos)⟩
  rwa [huses]

/-- The results that a frame has not used up are still there. -/
theorem keeps_results (hresults : n'.results = n.results.drop f.uses) :
    ∀ l, l <:+ n.results → l.length ≤ (n.results.drop f.uses).length → l <:+ n'.results := by
  intro l hl hle
  rw [hresults]
  exact List.suffix_of_suffix_length_le hl (List.drop_suffix _ _) hle

/-- The innermost frame goes on. -/
theorem stay (h : Running e p g n f below) (hn : e.Reaches p g n) (hstep : n.step = .ok n')
    {up : List Frame} {o : ChannelStack} (hf : f.Continues f') (hneat : f'.Neat)
    (huses : f'.uses = 0) (hframes : n'.frames = up ++ f' :: below)
    (hup : ∀ f₁ ∈ up, f₁.Fresh ∧ f₁.owns = false ∧ f₁.mark = n'.results.length)
    (houtputs : n'.outputs = o :: n.outputs.tail)
    (hresults : n'.results = n.results.drop f.uses) : Orderly e p g n' := by
  have hlength : n.outputs.length = n.frames.countP (·.owns) := hn.coherent.outputs
  have hsettled : Settled e p g n' (f' :: below) n'.results.length := by
    rw [hresults]
    refine h.settled.step hstep hframes hf (fun l hl hlt => ?_) (keeps_results hresults)
    rw [houtputs, ← List.drop_one]
    rw [← h.frames, ← hlength] at hlt
    exact (suffix_drop hl hlt).trans (List.suffix_cons _ _)
  obtain ⟨top, rest, hmount, htop, hrest⟩ := hsettled.mount huses hup
  refine .inr ⟨top, rest, of_settled (hframes.trans hmount) (fun f₁ hf₁ => ?_) htop hrest⟩
  rw [← hmount] at hf₁
  rcases List.mem_append.1 hf₁ with hf₁ | hf₁
  · exact (hup f₁ hf₁).1.neat
  · rcases List.mem_cons.1 hf₁ with rfl | hf₁
    · exact hneat
    · exact h.neat f₁ (List.mem_cons_of_mem _ hf₁)

/-- The first of the frames that are left of those for an action is about to be run. -/
theorem begin (hreach : e.Reaches p g m₀) (hpost : m₀.Postpones m action os f below)
    (heval : m.Evaluates outs n) (hlt : outs.length < os.length)
    (hsettled : Settled e p g n (f :: below) m.results.length)
    (hneat : ∀ f' ∈ f :: below, f'.Neat) : Orderly e p g n := by
  obtain ⟨f₁, unstarted, hleft⟩ : ∃ f₁ unstarted,
      (Opening.frames m₀.nextId m.results.length os).drop outs.length = f₁ :: unstarted := by
    refine List.exists_cons_of_ne_nil (List.ne_nil_of_length_pos ?_)
    rw [List.length_drop, Opening.length_frames]
    omega
  have hfresh := hpost.fresh_left hleft
  have hframes := hpost.frames_left heval hleft
  refine .inr ⟨f₁, unstarted ++ f :: below, of_settled hframes (fun f₂ hf₂ => ?_) ?_ ?_⟩
  · rw [← List.cons_append] at hf₂
    rcases List.mem_append.1 hf₂ with hf₂ | hf₂
    · exact (hfresh f₂ hf₂).1.neat
    · exact hneat f₂ hf₂
  · exact (hfresh f₁ List.mem_cons_self).1.uses_eq_zero
  · exact .apart hreach hpost heval hleft (.start hframes) (.refl f₁) hsettled

/-- The innermost frame postpones an action. -/
theorem postpone (h : Running e p g n f below) (hn : e.Reaches p g n) (hstep : n.step = .ok n')
    (hf : f.Continues f') (hneat : f'.Neat) (hpre : f'.pre = [action])
    (hasks : action.Asks e.setting.shortcuts.literals os)
    (hframes : n'.frames = Opening.frames n.nextId n'.results.length os ++ f' :: below)
    (houtputs : n'.outputs = List.replicate os.length .initial ++ n.outputs)
    (hresults : n'.results = n.results.drop f.uses) : Orderly e p g n' := by
  have hpost : n.Postpones n' action os f' below :=
    ⟨hstep, hasks, hpre, hframes, houtputs, f, h.frames, hf, hresults⟩
  refine begin hn hpost .start (List.length_pos_iff.2 hasks.ne_nil) ?_ ?_
  · rw [hresults]
    refine h.settled.step hstep hframes hf (fun l hl _ => ?_) (keeps_results hresults)
    rw [houtputs]
    exact hl.trans (List.suffix_append _ _)
  · refine List.forall_mem_cons.2 ⟨hneat, fun f₁ hf₁ => ?_⟩
    exact h.neat f₁ (List.mem_cons_of_mem f hf₁)

/-- Frames are cut off. -/
theorem cut (h : Running e p g n f below) (hn : e.Reaches p g n) (hstep : n.step = .ok n')
    {dropped kept : List Frame} {base : Frame} {id : Nat}
    (hbelow : below = dropped ++ base :: kept) (hpre : base.pre = [.iterate id])
    (hframes : n'.frames = base :: kept)
    (houtputs : n'.outputs = n.outputs.drop ((f :: dropped).countP (·.owns)))
    (hresults : n'.results = (n.results.drop f.uses).drop ((n.results.drop f.uses).length -
      ((f :: dropped).getLast (List.cons_ne_nil _ _)).mark)) : Orderly e p g n' := by
  have hlength : n.outputs.length = n.frames.countP (·.owns) := hn.coherent.outputs
  obtain ⟨hbase, hle⟩ := h.settled.base hbelow hpre
  have hmark : n'.results.length = ((f :: dropped).getLast (List.cons_ne_nil _ _)).mark := by
    rw [hresults, List.length_drop]
    omega
  have huses : base.uses = 0 := by
    rw [Frame.uses, hpre]
    rfl
  rw [← hmark] at hbase hle
  have hmem : ∀ f₁ ∈ base :: kept, f₁ ∈ f :: below := fun f₁ hf₁ =>
    List.mem_cons_of_mem f (hbelow ▸ List.mem_append_right dropped hf₁)
  refine .inr ⟨base, kept, of_settled hframes (fun f₁ hf₁ => h.neat f₁ (hmem f₁ hf₁)) huses ?_⟩
  have hframes' : n'.frames = [] ++ base :: kept := hframes
  refine hbase.step hstep hframes' (.refl base) (fun l hl hlt => ?_) fun l hl hle' => ?_
  · rw [houtputs]
    refine suffix_drop hl ?_
    rw [hlength, h.frames, hbelow, ← List.cons_append, List.countP_append]
    omega
  · refine List.suffix_of_suffix_length_le hl ?_ hle'
    rw [hresults, List.drop_drop]
    exact List.drop_suffix _ _

theorem settled_of_pending (h : Running e p g n f below) (hpending : f.pending = []) :
    Settled e p g n (f :: below) n.results.length := by
  have hlevel := h.settled
  rwa [Frame.uses_eq_zero (List.append_eq_nil_iff.1 hpending).1] at hlevel

/-- The innermost frame ends, and printed to the output of the one below. -/
theorem pop (h : Running e p g n f below) (hstep : n.step = .ok n') (howns : f.owns = false)
    (hpending : f.pending = []) (hframes : n'.frames = below) (houtputs : n'.outputs = n.outputs)
    (hresults : n'.results = n.results) : Orderly e p g n' := by
  have hsettled := h.settled_of_pending hpending
  have hneat : ∀ f₁ ∈ below, f₁.Neat := fun f₁ hf₁ => h.neat f₁ (List.mem_cons_of_mem f hf₁)
  generalize hb : n.results.length = b at hsettled
  cases hsettled with
  | root hroot => exact absurd (howns.symm.trans hroot) (by simp)
  | @shared f₁ _ below b _ _ huses hlevel =>
    have hframes' : n'.frames = [] ++ f₁ :: below := hframes
    refine .inr ⟨f₁, below, of_settled hframes hneat huses ?_⟩
    rw [hresults, hb]
    refine hlevel.step hstep hframes' (.refl f₁) (fun l hl _ => ?_) fun l hl _ => ?_
    · rwa [houtputs]
    · rwa [hresults]
  | @apart _ _ _ _ _ _ _ first _ _ _ _ hpost _ hleft _ hf =>
    have hown := hf.owns.trans (hpost.fresh_left hleft first List.mem_cons_self).2
    exact absurd (howns.symm.trans hown) (by simp)

section Next

variable {first waiting : Frame} {unstarted : List Frame} (hn : e.Reaches p g n)
  (hreach : e.Reaches p g m₀) (hpost : m₀.Postpones m action os waiting below)
  (heval : m.Evaluates outs m₁)
  (hleft : (Opening.frames m₀.nextId m.results.length os).drop outs.length = first :: unstarted)
  (hwithin : m₁.Within first (unstarted ++ waiting :: below) n)
  (hframes : n.frames = f :: (unstarted ++ waiting :: below)) (howns : f.owns = true)

include hn hreach hpost heval hleft hwithin hframes howns

/-- Where a frame that was run for an action ends, the outputs below its own are those from when it
began. -/
theorem outputs_last : n.outputs = n.output :: m₁.outputs.tail := by
  have hframes₁ := hpost.frames_left heval hleft
  have hfirst := (hpost.fresh_left hleft first List.mem_cons_self).2
  have htail := length_tail_outputs (hreach.evaluated hpost heval) hframes₁ hfirst
  have htail' := length_tail_outputs hn hframes howns
  obtain ⟨o, others, ho⟩ : ∃ o others, n.outputs = o :: others :=
    List.exists_cons_of_ne_nil (hn.coherent.outputs_ne_nil (by simp [stage, hframes]))
  have hsuffix := hwithin.over.outputs
  rw [ho] at hsuffix
  rw [ho, List.tail_cons] at htail'
  have hothers : m₁.outputs.tail <:+ others := by
    refine suffix_drop (k := 1) hsuffix ?_
    rw [List.length_cons]
    omega
  rw [hothers.eq_of_length (htail.trans htail'.symm), output, ho]
  rfl

/-- What it printed is the next result. -/
theorem evaluates_next (hheight : n.results.length = m₁.results.length)
    (hread : f.reader.read? = none) (hpending : f.pending = []) (hstep : n.step = .ok n')
    (hframes' : n'.frames = unstarted ++ waiting :: below)
    (houtputs' : n'.outputs = n.outputs.tail)
    (hresults' : n'.results = n.output.output :: n.results) :
    m.Evaluates (outs ++ [n.output.output]) n' := by
  have hlast := outputs_last hn hreach hpost heval hleft hwithin hframes howns
  have houtputs := hpost.outputs_left heval hleft
  have hsame : m₁.results = n.results := hwithin.over.results.eq_of_length hheight.symm
  rw [houtputs, List.tail_cons] at hlast
  have hfirst := (hpost.fresh_left hleft first List.mem_cons_self).2
  refine .next heval (hpost.frames_left heval hleft) hfirst houtputs hwithin hframes hread hpending
    hlast hstep hframes' ?_ (hsame ▸ hresults')
  rw [houtputs', hlast, List.tail_cons]

end Next

/-- The innermost frame ends, and what it printed becomes a result. -/
theorem finish (h : Running e p g n f below) (hn : e.Reaches p g n) (hstep : n.step = .ok n')
    (howns : f.owns = true) (hpending : f.pending = []) (hread : f.reader.read? = none)
    (hframes : n'.frames = below) (houtputs : n'.outputs = n.outputs.tail)
    (hresults : n'.results = n.output.output :: n.results) : Orderly e p g n' := by
  have hsettled := h.settled_of_pending hpending
  have hneat : ∀ f₁ ∈ below, f₁.Neat := fun f₁ hf₁ => h.neat f₁ (List.mem_cons_of_mem f hf₁)
  have htail := length_tail_outputs hn h.frames howns
  generalize hb : n.results.length = b at hsettled
  cases hsettled with
  | root =>
    refine .inl ⟨hframes, n, f, hn, h.frames, howns, hstep, ?_⟩
    rw [hresults, List.length_eq_zero_iff.1 hb]
  | shared hshared => exact absurd (howns.symm.trans hshared) (by simp)
  | @apart m₀ m m₁ action os outs waiting first _ unstarted below hreach hpost heval hleft hwithin _
      hlevel =>
    have hnext := evaluates_next hn hreach hpost heval hleft hwithin h.frames howns hb hread
      hpending hstep hframes houtputs hresults
    have hlevel' : Settled e p g n' (waiting :: below) m.results.length := by
      refine hlevel.step hstep hframes (.refl waiting) (fun l hl hlt => ?_) fun l hl _ => ?_
      · rw [houtputs, ← List.drop_one]
        refine suffix_drop hl ?_
        rw [List.length_tail, List.countP_append] at htail
        omega
      · rw [hresults]
        exact hl.trans (List.suffix_cons _ _)
    have hneat' : ∀ f₁ ∈ waiting :: below, f₁.Neat := fun f₁ hf₁ =>
      hneat f₁ (List.mem_append_right _ hf₁)
    by_cases hlt : (outs ++ [n.output.output]).length < os.length
    · exact begin hreach hpost hnext hlt hlevel' hneat'
    · have hlength := Opening.length_of_drop hleft
      rw [List.length_append, List.length_singleton] at hlt
      have hunstarted : unstarted = [] := List.length_eq_zero_iff.1 (by omega)
      have hall : (outs ++ [n.output.output]).length = os.length := by
        rw [hlength, hunstarted, List.length_append]
        rfl
      rw [hunstarted, List.nil_append] at hframes
      refine .inr ⟨waiting, below, hframes, hneat', ?_, fun _ => ?_⟩
      · rw [hnext.results, hpost.uses_eq, ← hall, List.drop_left' (by simp)]
        exact hlevel'
      · exact ⟨m₀, m, action, os, _, hreach, hpost, hnext, hall⟩

/-- Every step keeps the results in order. -/
theorem step (h : Running e p g n f below) (hn : e.Reaches p g n) (hstep : n.step = .ok n') :
    Orderly e p g n' := by
  have hstage := (hn.coherent.step_stage h.frames).of_ok n' hstep
  have hneat : ∀ f₁ ∈ n.stage.frames, f₁.Neat := fun f₁ hf₁ => h.neat f₁ (h.frames ▸ hf₁)
  cases hstage.moves hn.coherent h.frames hneat with
  | stay hf hneat' huses hframes hup houtputs hresults =>
    exact h.stay hn hstep hf hneat' huses hframes hup houtputs hresults
  | postpone hf hneat' hpre hasks hframes houtputs hresults =>
    exact h.postpone hn hstep hf hneat' hpre hasks hframes houtputs hresults
  | finish howns hpending hread hframes houtputs hresults =>
    exact h.finish hn hstep howns hpending hread hframes houtputs hresults
  | pop howns hpending hframes houtputs hresults =>
    exact h.pop hstep howns hpending hframes houtputs hresults
  | cut hbelow hpre hframes houtputs hresults =>
    exact h.cut hn hstep hbelow hpre hframes houtputs hresults

end Running

/-- The results of all machines that a run comes to are in order. -/
theorem Reaches.orderly (h : e.Reaches p g n) : Orderly e p g n := by
  refine h.carries ⟨fun m₀ hstart => ?_⟩ fun m m' hm hne hstep horderly => ?_
  · have hreach : e.Reaches p g m₀ := ⟨m₀, 0, hstart, .refl m₀⟩
    have hstage := (e.start_stage p g).of_ok m₀ hstart
    have hframes := congrArg Stage.frames hstage
    have hresults := congrArg Stage.results hstage
    refine .inr ⟨_, [], .of_settled hframes (fun f hf => ?_) rfl ?_⟩
    · obtain rfl := List.mem_singleton.1 hf
      exact (Opening.isFresh_idle p.passage true _ _).neat
    · rw [show m₀.results = [] from hresults]
      exact .root rfl
  · rcases horderly with hconcluded | ⟨f, below, hrunning⟩
    · exact absurd hconcluded.1 hne
    · exact hrunning.step hm hstep

theorem Reaches.neat (h : e.Reaches p g n) : ∀ f ∈ n.frames, f.Neat := by
  intro f hf
  rcases h.orderly with ⟨hnone, -⟩ | ⟨top, others, hrunning⟩
  · simp [hnone] at hf
  · exact hrunning.neat f (hrunning.frames ▸ hf)

/-- Whenever an action is about to take results off the stack, there is one on top for each passage
that was begun for it when it was postponed, and below them are the results from then. The passages
were run in order, each of them once. When the outermost frame ends, what it printed is the only
result. -/
theorem results_in_order (e : Engine) (p : Pattern) (g : Generator) :
    (∀ (n : Machine e.setting) f below action rest, e.Reaches p g n → n.frames = f :: below →
      f.pre = action :: rest → 0 < action.uses →
      ∃ m₀ m os outs, e.Reaches p g m₀ ∧ m₀.Postpones m action os f below ∧ m.Evaluates outs n ∧
        outs.length = action.uses ∧ n.results = outs.reverse ++ m.results ∧
        (n.takeResults action.uses).1 = outs.map (·.main)) ∧
      ∀ n, e.Reaches p g n → n.frames = [] → Concluded e p g n := by
  refine ⟨fun n f below action rest hn hframes hpre huses => ?_, fun n hn hframes => ?_⟩
  · rcases hn.orderly with ⟨hnone, -⟩ | ⟨f', below', hrunning⟩
    · exact absurd (hnone.symm.trans hframes) (by simp)
    · obtain ⟨rfl, rfl⟩ := List.cons.inj (hrunning.frames.symm.trans hframes)
      have hfuses : f'.uses = action.uses := by
        rw [Frame.uses, hpre]
        rfl
      obtain ⟨m₀, m, action', os, outs, hreach, hpost, heval, houts⟩ :=
        hrunning.answered (hfuses ▸ huses)
      obtain rfl : action = action' := List.head_eq_of_cons_eq (hpre.symm.trans hpost.waits)
      have hlength : outs.length = action.uses := houts.trans hpost.asks.uses_eq.symm
      exact ⟨m₀, m, os, outs, hreach, hpost, heval, hlength, heval.results,
        hlength ▸ heval.takeResults⟩
  · rcases hn.orderly with hconcluded | ⟨f, below, hrunning⟩
    · exact hconcluded
    · exact absurd (hframes.symm.trans hrunning.frames) (by simp)

/-- A pattern with a tag for which two arguments are run. -/
def comparing : Pattern where
  name := "comparing"
  code := "[cmp:\\n;\\t;x]"
  tokens := #[⟨.leftSquare, "[", ⟨1, 1, 0⟩⟩, ⟨.text, "cmp", ⟨1, 2, 1⟩⟩, ⟨.colon, ":", ⟨1, 5, 4⟩⟩,
    ⟨.escape, "\\n", ⟨1, 6, 5⟩⟩, ⟨.semicolon, ";", ⟨1, 8, 7⟩⟩, ⟨.escape, "\\t", ⟨1, 9, 8⟩⟩,
    ⟨.semicolon, ";", ⟨1, 11, 10⟩⟩, ⟨.text, "x", ⟨1, 12, 11⟩⟩, ⟨.rightSquare, "]", ⟨1, 13, 12⟩⟩]
  tokenize_code := by with_unfolding_all rfl

/-- The two arguments have been run in order when the tag is called. -/
theorem results_in_order_comparing :
    ∃ (e : Engine) (g : Generator) (n m : Machine e.setting) (outs : List Output),
      e.Reaches comparing g n ∧ m.Evaluates outs n ∧ outs.length = 2 ∧
        outs.map (·.main) = ["\n", "\t"] := by
  let e : Engine := .build .standard .empty .empty
  have hafter : ((e.start comparing (.ofSeed 0)).bind (Machine.after 5)).toOption.map
      (fun n => (n.frames.map fun f => f.pre.map Deferred.uses, (n.takeResults 2).1)) =
        some ([[2]], ["\n", "\t"]) := by decide +kernel
  obtain ⟨n, hn, hseen⟩ := exists_reaches_of_after hafter
  obtain ⟨hframes, htaken⟩ := Prod.mk.inj hseen
  obtain ⟨f, below, hf, huses, -⟩ := List.map_eq_cons_iff.1 hframes
  obtain ⟨action, rest, hpre, htwo, -⟩ := List.map_eq_cons_iff.1 huses
  obtain ⟨m₀, m, os, outs, -, -, heval, hlength, -, htexts⟩ :=
    (results_in_order e comparing (.ofSeed 0)).1 n f below action rest hn hf hpre (by omega)
  rw [htwo] at hlength htexts
  exact ⟨e, .ofSeed 0, n, m, outs, hn, heval, hlength, htexts.symm.trans htaken⟩

end Engine

end Wordsmith
