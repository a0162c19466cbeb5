import Wordsmith.Proofs.Literals.Quiet

/-!
# Runs with and without plain arguments

A run in which plain arguments are evaluated takes all steps that the other one takes, and more of
them in between: it runs frames of plain text, and it puts off a call that the other makes at once.
These steps draw nothing. When both have come to the next argument, or to the call, the place in the
pattern may differ, but nothing is told of it: the argument begins with a token, and the call has a
place of its own.

So both runs end with the same result, and have drawn the same.

Main results: `Machine.Meets.advance`, what a step of the one is for the other, `Machine.Meets.run`,
the induction along a run, and `Engine.evaluating_literals`.
-/

namespace Wordsmith

/-! ## Sane machines -/

/-- Every move leaves neat frames. -/
theorem Stage.Moves.neat {literals : Bool} {x y : Stage} {k : Nat} {f : Frame} {below : List Frame}
    (h : x.Moves literals k f below y) (hbelow : ∀ g ∈ below, g.Neat) : ∀ g ∈ y.frames, g.Neat := by
  cases h with
  | stay _ hneat _ hframes hup =>
    rw [hframes]
    exact List.forall_mem_append.2
      ⟨fun g hg => (hup g hg).1.neat, List.forall_mem_cons.2 ⟨hneat, hbelow⟩⟩
  | postpone _ hneat _ hasks hframes =>
    rw [hframes]
    refine List.forall_mem_append.2 ⟨fun g hg => ?_, List.forall_mem_cons.2 ⟨hneat, hbelow⟩⟩
    obtain ⟨o, ho, id, rfl⟩ := Opening.mem_frames hg
    exact ((hasks.isFresh o ho).1 _ _).neat
  | finish _ _ _ hframes => rwa [hframes]
  | pop _ _ hframes => rwa [hframes]
  | cut hkept _ hframes =>
    rw [hkept] at hbelow
    rw [hframes]
    exact (List.forall_mem_append.1 hbelow).2

namespace Machine

variable {s : Setting} {m : Machine s} {m' : Machine s.evaluating}

theorem Sane.step (h : m.Sane none) : Ensures m.step fun m₁ => m₁.Sane none := by
  refine ⟨fun m₁ hstep => ⟨(Coherent.step h.coherent).of_ok m₁ hstep, ?_⟩⟩
  cases hframes : m.frames with
  | nil =>
    have hsame : m₁ = m := by
      rw [Machine.step, hframes] at hstep
      exact (Except.ok.inj hstep).symm
    exact hsame ▸ h.neat
  | cons f below =>
    have hstep := (Coherent.step_stage h.coherent hframes).of_ok m₁ hstep
    have hmoves := hstep.moves h.coherent hframes h.neat
    exact hmoves.neat fun g hg => h.neat g (hframes ▸ List.mem_cons_of_mem f hg)

theorem Sane.leads (h : m.Sane none) {n : Nat} {m₁ : Machine s} (hlead : Leads n m m₁) :
    m₁.Sane none := hlead.keeps (fun _ _ hm => hm.step.of_ok _) h

/-! ## Catching up -/

/-- Machines that wait agree. -/
theorem Awaits.agree {todo : List Slot} (h : Awaits todo m m') : m.Agree m' := by
  obtain ⟨_, _, _, _, _, _, _, _, _, _, hpends⟩ := h
  exact hpends.agree

theorem Awaits.frames_ne_nil {todo : List Slot} (h : Awaits todo m m') :
    m.frames ≠ [] ∧ m'.frames ≠ [] := by
  obtain ⟨_, _, _, _, _, _, _, _, _, _, hpends⟩ := h
  rw [show m.frames = _ from congrArg Strata.frames hpends.strata,
    show m'.frames = _ from congrArg Strata.frames hpends.strata']
  simp [Strata.await]

theorem Stands.registers (h : Stands m m') : m.registers.Twin m'.registers := by
  cases h with
  | idle h => exact h.agree.registers
  | awaits h => exact h.agree.registers
  | ended _ _ _ hregisters => exact hregisters

/-- Where the place in the pattern is of no consequence, the step is the same from any place. -/
def Heedless (m : Machine s) (position : Position) : Prop := (m.moveTo position).step = m.step

/-- The machines are about to do the same: they rest, or have come to a call. The place in the
pattern may be another one, but the next step does not heed it. -/
structure Meets (m : Machine s) (m' : Machine s.evaluating) : Prop where
  ready : Idle m (m'.moveTo m.position) ∨ Awaits [] m (m'.moveTo m.position)
  heedless : m'.Heedless m.position

section Pending

variable {f f' : Frame} {x x' : Strata} {o : ChannelStack} {done todo : List Slot}
  {outs outs' : List Output} {later later' : List Frame}

/-- The machines wait, and the place in the pattern may be that of a plain argument, if there is one
that is done. -/
structure Lags (f f' : Frame) (x x' : Strata) (o : ChannelStack) (done todo : List Slot)
    (outs outs' : List Output) (later later' : List Frame) (m : Machine s)
    (m' : Machine s.evaluating) : Prop where
  pends : Pends f f' x x' o done todo outs outs' later later' m (m'.moveTo m.position)
  place : m'.position = m.position ∨ ∃ text, .literal text ∈ done

theorem Pends.lags (h : Pends f f' x x' o done todo outs outs' later later' m m') :
    Lags f f' x x' o done todo outs outs' later later' m m' :=
  ⟨h.agree.moveTo_eq.symm ▸ h, .inl h.agree.position⟩

namespace Lags

/-- A frame of plain text is run, and its text is the next result. -/
theorem skip {text : String}
    (h : Lags f f' x x' o done (.literal text :: todo) outs outs' later later' m m') :
    ∃ n m₁ o₁ rest', Draws [] n m' m₁ ∧
      Lags f f' x x' o (.literal text :: done) todo outs (o₁ :: outs') later rest' m m₁ := by
  obtain ⟨hpends, -⟩ := h
  obtain ⟨p, id, mark, rest', rfl, hplain, rfl, hnext⟩ := hpends.progress.skip
  have hregisters := hpends.agree.registers
  obtain ⟨n, m₁, o₁, b, hlead, hstrata, hmain, hb, hspent, hblocks⟩ :=
    leads_plain (m := m') (x := x'.await f' o rest' outs') hplain
      (congrArg Strata.frames hpends.strata') (congrArg Strata.outputs hpends.strata')
      (congrArg Strata.results hpends.strata') hregisters.unlimited
  refine ⟨n, m₁, o₁, rest', hlead, ?_, .inr ⟨_, List.mem_cons_self⟩⟩
  exact
    { agree := ⟨hspent ▸ hregisters.spend hb, hblocks.trans hpends.agree.blocks, rfl⟩
      waits := by simpa using hpends.waits
      progress := hnext o₁ hmain
      level := hpends.level
      strata := hpends.strata
      strata' := hstrata }

/-- Code is not run. -/
theorem pass {p : Passage}
    (h : Lags f f' x x' o done (.code p :: todo) outs outs' later later' m m') :
    Lags f f' x x' o (.code p :: done) todo outs outs' later later' m m' := by
  obtain ⟨hpends, hplace⟩ := h
  refine ⟨{ hpends with waits := ?_, progress := hpends.progress.pass }, ?_⟩
  · simpa using hpends.waits
  · exact hplace.imp id fun ⟨text, htext⟩ => ⟨text, List.mem_cons_of_mem _ htext⟩

/-- The second catches up, until both have come to the next argument or to the call. -/
theorem settle (h : Lags f f' x x' o done todo outs outs' later later' m m') :
    ∃ n m₁ done₁ todo₁ outs₁ later₁, Draws [] n m' m₁ ∧
      Lags f f' x x' o done₁ todo₁ outs outs₁ later later₁ m m₁ ∧ todo₁ <:+ todo ∧
      ∀ slot ∈ todo₁.head?, slot = .evaluated := by
  -- The induction is on what is still to be done; only plain arguments take steps.
  induction todo generalizing m' done outs' later' with
  | nil => exact ⟨0, m', done, [], outs', later', .refl m', h, List.suffix_refl _, nofun⟩
  | cons slot todo ih =>
    cases slot with
    | evaluated => exact ⟨0, m', done, _, outs', later', .refl m', h, List.suffix_refl _, by simp⟩
    | literal text =>
      obtain ⟨n, m₁, o₁, rest', hlead, hskip⟩ := h.skip
      obtain ⟨k, m₂, done₂, todo₂, outs₂, later₂, hlead', hlags, hsuffix, hhead⟩ := ih hskip
      exact ⟨n + k, m₂, done₂, todo₂, outs₂, later₂, hlead.after hlead', hlags,
        hsuffix.trans (List.suffix_cons _ _), hhead⟩
    | code p =>
      obtain ⟨k, m₂, done₂, todo₂, outs₂, later₂, hlead, hlags, hsuffix, hhead⟩ := ih h.pass
      exact ⟨k, m₂, done₂, todo₂, outs₂, later₂, hlead, hlags,
        hsuffix.trans (List.suffix_cons _ _), hhead⟩

theorem heedless_of_position (h : m'.position = m.position) : m'.Heedless m.position := by
  rw [Heedless, ← h]
  rfl

/-- A call with a plain argument moves to its own place. -/
theorem meets_call (h : Lags f f' x x' o done [] outs outs' later later' m m') :
    Awaits [] m (m'.moveTo m.position) ∧ m'.Heedless m.position := by
  obtain ⟨hpends, hplace⟩ := h
  refine ⟨⟨f, f', x, x', o, done, outs, outs', later, later', hpends⟩, ?_⟩
  rcases hplace with hsame | ⟨text, htext⟩
  · exact heedless_of_position hsame
  · obtain ⟨a, a', -, hpre', hopens⟩ := hpends.waits.pre
    have hframes' : m'.frames = f' :: x'.frames := by
      have hstrata := congrArg Strata.frames hpends.strata'
      obtain ⟨-, htodo, -⟩ := hpends.progress
      cases htodo
      exact hstrata
    have hmoved : (m'.moveTo m.position).frames = f' :: x'.frames := hframes'
    have hmem : Slot.literal text ∈ done.reverse ++ [] := by simpa using htext
    rw [Heedless, step_take hframes' hpre', step_take hmoved hpre']
    generalize done.reverse ++ [] = slots at hopens hmem
    cases hopens with
    | same => cases List.eq_of_mem_replicate hmem
    | callTag => rfl
    | callSubroutine => rfl

/-- An argument begins with a token, if there are plain arguments. -/
theorem meets_argument
    (h : Lags f f' x x' o done (.evaluated :: todo) outs outs' later later' m m') : Meets m m' := by
  obtain ⟨hpends, hplace⟩ := h
  obtain ⟨g, g', rest, rest', rfl, rfl, hg, hfresh, howns, hrest⟩ := hpends.progress.begin
  have htwin : Twin g g' (x.await f o rest outs) (x'.await f' o rest' outs') [] [] m
      (m'.moveTo m.position) :=
    { agree := hpends.agree
      frame := hg
      level := .apart howns (hg.owns.trans howns) hpends.waits hrest hpends.level
      frames := congrArg Strata.frames hpends.strata
      frames' := congrArg Strata.frames hpends.strata'
      outputs := ⟨.initial, congrArg Strata.outputs hpends.strata,
        congrArg Strata.outputs hpends.strata'⟩
      results := congrArg Strata.results hpends.strata
      results' := congrArg Strata.results hpends.strata' }
  refine ⟨.inl ⟨g, g', _, _, hfresh.uses_eq_zero, htwin⟩, ?_⟩
  rcases hplace with hsame | ⟨text, htext⟩
  · exact heedless_of_position hsame
  · have hreads := hpends.progress.starts text (List.mem_append_left _ htext) g List.mem_cons_self
    obtain ⟨⟨t, r⟩, hread⟩ := Option.ne_none_iff_exists'.1 (hg.reader ▸ hreads.2)
    have hpre' := hg.pre_eq_nil hreads.1
    rw [Heedless, step_read htwin.frames' hpre' hread,
      step_read (m := m') htwin.frames' hpre' hread]
    rfl

end Lags

/-- If no argument is evaluated that is still to be done, both come to the call. -/
theorem Pends.exists_call (h : Pends f f' x x' o done todo outs outs' later later' m m')
    (hnone : todo.countP (·.isEvaluated) = 0) :
    ∃ n m₁, Draws [] n m' m₁ ∧ Awaits [] m (m₁.moveTo m.position) ∧ m₁.Heedless m.position := by
  obtain ⟨n, m₁, done₁, todo₁, outs₁, later₁, hlead, hlags, hsuffix, hhead⟩ := h.lags.settle
  cases todo₁ with
  | nil => exact ⟨n, m₁, hlead, hlags.meets_call⟩
  | cons slot todo₁ =>
    obtain rfl := hhead slot rfl
    exact absurd rfl (List.countP_eq_zero.1 hnone _ (hsuffix.subset List.mem_cons_self))

/-- Both come to the next argument or to the call. -/
theorem Pends.exists_meets (h : Pends f f' x x' o done todo outs outs' later later' m m') :
    ∃ n m₁, Draws [] n m' m₁ ∧ Meets m m₁ := by
  obtain ⟨n, m₁, done₁, todo₁, outs₁, later₁, hlead, hlags, -, hhead⟩ := h.lags.settle
  cases todo₁ with
  | nil =>
    obtain ⟨hawaits, hheedless⟩ := hlags.meets_call
    exact ⟨n, m₁, hlead, .inr hawaits, hheedless⟩
  | cons slot todo₁ =>
    obtain rfl := hhead slot rfl
    exact ⟨n, m₁, hlead, hlags.meets_argument⟩

end Pending

/-! ## Runs -/

/-- Machines that stand somewhere meet, or are over with the same results. -/
theorem Stands.exists_meets (h : Stands m m') :
    (∃ n m₁, Draws [] n m' m₁ ∧ Meets m m₁) ∨
      m.frames = [] ∧ m'.frames = [] ∧ m'.results = m.results ∧ m.registers.Twin m'.registers := by
  cases h with
  | idle h =>
    have hsame := h.agree.moveTo_eq
    exact .inl ⟨0, m', .refl m', .inl (hsame.symm ▸ h), congrArg Machine.step hsame⟩
  | awaits h =>
    obtain ⟨f, f', x, x', o, done, outs, outs', later, later', hpends⟩ := h
    exact .inl hpends.exists_meets
  | ended hframes hframes' hresults hregisters =>
    exact .inr ⟨hframes, hframes', hresults, hregisters⟩

theorem Meets.frames_ne_nil (h : Meets m m') : m.frames ≠ [] := by
  rcases h.ready with hidle | hawaits
  · exact hidle.frames_ne_nil.1
  · exact hawaits.frames_ne_nil.1

/-- What the first machine does next, the second does after steps that draw nothing. -/
theorem Meets.advance (h : Meets m m') (hm : m.Sane none) (hm' : m'.Sane none) :
    ∃ n m₁, Draws [] n m' m₁ ∧ m₁.frames ≠ [] ∧ m.registers.Twin m₁.registers ∧
      Follows Stands m.step m₁.step := by
  obtain ⟨hready, hheedless⟩ := h
  rcases hready with hidle | hawaits
  · have hadvances := hidle.step hm (hm'.moveTo m.position)
    rw [hheedless] at hadvances
    cases hadvances with
    | follows hfollows =>
      exact ⟨0, m', .refl m', hidle.frames_ne_nil.2, hidle.agree.registers, hfollows⟩
    | @owes n n' slots hx hy hn hq hslots howed =>
      obtain ⟨f, f', x, x', o, done, outs, outs', later, later', hpends⟩ := id howed
      obtain ⟨k, n₁, hlead, hcall, hplace⟩ := hpends.exists_call hslots
      have hregisters : m.registers.Twin n₁.registers := hq ▸ hcall.agree.registers
      have hfirst : Draws [] (k + 1) m' n₁ :=
        hlead.quiet hidle.frames_ne_nil.2 hy
          ((hq ▸ howed.agree.registers).generator_eq.trans
            hidle.agree.registers.generator_eq.symm)
      refine ⟨k + 1, n₁, hfirst, hcall.frames_ne_nil.2, hregisters, ?_⟩
      rw [hx, ← hplace]
      exact hcall.step hn ((hm'.leads hfirst.leads).moveTo n.position)
  · refine ⟨0, m', .refl m', hawaits.frames_ne_nil.2, hawaits.agree.registers, ?_⟩
    rw [← hheedless]
    exact hawaits.step hm (hm'.moveTo m.position)

/-- The run comes to an end at a machine, after drawing. -/
structure Stops (l : List Generator) (result : Except RunError Output) (m mₑ : Machine s) :
    Prop where
  draws : ∃ n, Draws l n m mₑ
  ends : mₑ.Ends result

/-- The second run is too deep, or ends with the same as the first. -/
def Concludes (l : List Generator) (result : Except RunError Output) (registers : Registers)
    (m' : Machine s.evaluating) : Prop :=
  (∃ mₑ', Stops l result m' mₑ' ∧ registers.Twin mₑ'.registers) ∨
    ∃ l' e mₑ', Stops l' (.error e) m' mₑ' ∧ e.IsDeep

theorem Concludes.after {l l' : List Generator} {result : Except RunError Output}
    {registers : Registers} {m₁ : Machine s.evaluating} {n : Nat}
    (h : Concludes l result registers m₁) (hlead : Draws l' n m' m₁) :
    Concludes (l' ++ l) result registers m' := by
  rcases h with ⟨mₑ, ⟨⟨k, hdraws⟩, hends⟩, hregisters⟩ | ⟨l₁, e, mₑ, ⟨⟨k, hdraws⟩, hends⟩, hdeep⟩
  · exact .inl ⟨mₑ, ⟨⟨n + k, hlead.trans hdraws⟩, hends⟩, hregisters⟩
  · exact .inr ⟨l' ++ l₁, e, mₑ, ⟨⟨n + k, hlead.trans hdraws⟩, hends⟩, hdeep⟩

/-- Steps that draw nothing come first. -/
theorem Concludes.quiet {l : List Generator} {result : Except RunError Output}
    {registers : Registers} {m₁ : Machine s.evaluating} {n : Nat}
    (h : Concludes l result registers m₁) (hlead : Draws [] n m' m₁) :
    Concludes l result registers m' := h.after hlead

theorem Concludes.of_deep {l : List Generator} {result : Except RunError Output}
    {registers : Registers} (hframes : m'.frames ≠ []) {e : RunError} (hstep : m'.step = .error e)
    (hdeep : e.IsDeep) : Concludes l result registers m' :=
  .inr ⟨[], e, m', ⟨⟨0, .refl m'⟩, .inr ⟨e, hframes, hstep, rfl⟩⟩, hdeep⟩

/-- What comes of machines that stand somewhere, from what comes of those that meet. -/
theorem Stands.concludes (h : Stands m m') (hm' : m'.Sane none) {n : Nat} {mₑ : Machine s}
    (hlead : Leads n m mₑ) {result : Except RunError Output} (hend : mₑ.Ends result)
    (hmeets : ∀ m₁ : Machine s.evaluating, Meets m m₁ → m₁.Sane none →
      Concludes (m.draws n) result mₑ.registers m₁) :
    Concludes (m.draws n) result mₑ.registers m' := by
  rcases h.exists_meets with ⟨k, m₁, hquiet, hm₁⟩ | ⟨hframes, hframes', hresults, hregisters⟩
  · exact (hmeets m₁ hm₁ (hm'.leads hquiet.leads)).quiet hquiet
  · cases hlead with
    | step hne => exact absurd hframes hne
    | refl =>
      rcases hend with ⟨-, rfl⟩ | ⟨e, hne, -⟩
      · exact .inl ⟨m', ⟨⟨0, .refl m'⟩, .inl ⟨hframes', by rw [hresults]⟩⟩, hregisters⟩
      · exact absurd hframes hne

/-- To where the first run ends, the second comes as well, unless it is too deep before. -/
theorem Meets.run (h : Meets m m') (hm : m.Sane none) (hm' : m'.Sane none) {n : Nat}
    {mₑ : Machine s} (hlead : Leads n m mₑ) {result : Except RunError Output}
    (hend : mₑ.Ends result) : Concludes (m.draws n) result mₑ.registers m' := by
  induction hlead generalizing m' with
  | refl m =>
    obtain ⟨k, m₁', hquiet, hframes', htwin, hfollows⟩ := h.advance hm hm'
    refine Concludes.quiet ?_ hquiet
    rcases hend with ⟨hnone, -⟩ | ⟨e, -, hstep, rfl⟩
    · exact absurd hnone h.frames_ne_nil
    rw [hstep] at hfollows
    generalize hstep' : m₁'.step = y at hfollows
    cases hfollows with
    | error => exact .inl ⟨m₁', ⟨⟨0, .refl m₁'⟩, .inr ⟨e, hframes', hstep', rfl⟩⟩, htwin⟩
    | deep _ hdeep => exact .of_deep hframes' hstep' hdeep
  | @step n m m₁ mₑ hframes hstep hlead ih =>
    obtain ⟨k, m₁', hquiet, hframes', htwin, hfollows⟩ := h.advance hm hm'
    refine Concludes.quiet ?_ hquiet
    rw [hstep] at hfollows
    generalize hstep' : m₁'.step = y at hfollows
    cases hfollows with
    | deep _ hdeep => exact .of_deep hframes' hstep' hdeep
    | @ok _ m₂' hstands =>
      have hsane' := (hm'.leads hquiet.leads).step.of_ok m₂' hstep'
      have hdrawn := Draws.step hframes' hstep' (.refl m₂')
      rw [htwin.generator_eq, hstands.registers.generator_eq, List.append_nil] at hdrawn
      rw [draws_step hframes hstep]
      refine Concludes.after ?_ hdrawn
      exact hstands.concludes hsane' hlead hend fun m₃' hmeets hsane₃ =>
        ih hmeets (hm.step.of_ok m₁ hstep) hsane₃ hend

end Machine

/-! ## Runs of patterns -/

namespace Engine

open Machine

variable {e : Engine} {p : Pattern} {g : Generator}

/-- The machine that a run of a pattern starts with where plain arguments are evaluated. -/
def startEvaluating (e : Engine) (p : Pattern) (g : Generator) :
    Except RunError (Machine e.setting.evaluating) :=
  (Machine.initial e.setting.evaluating (e.registers g)).push p.passage true [] []

/-- What a run gives, and what outlives it, where plain arguments are evaluated. -/
def outcomeEvaluating (e : Engine) (p : Pattern) (g : Generator) : Outcome :=
  Machine.runPassage e.setting.evaluating (e.registers g) (e.idle_registers g) p.passage

theorem outcomeEvaluating_of_error {error : RunError}
    (hstart : e.startEvaluating p g = .error error) :
    e.outcomeEvaluating p g = ⟨.error error, e.flags, e.subroutines⟩ :=
  Machine.runPassage_of_error (e.idle_registers g) hstart

theorem outcomeEvaluating_of_stops {m₀ m : Machine e.setting.evaluating}
    (hstart : e.startEvaluating p g = .ok m₀) {draws : List Generator}
    {result : Except RunError Output} (hstops : Stops draws result m₀ m) :
    e.outcomeEvaluating p g = ⟨result, m.registers.flags, m.registers.subroutines⟩ := by
  obtain ⟨⟨n, hdraws⟩, hends⟩ := hstops
  exact Machine.runPassage_of_ends (e.idle_registers g) hstart hdraws.leads hends

theorem sane_start {s : Setting} {r : Registers} (hr : r.Idle) (p : Passage) :
    Ensures ((Machine.initial s r).push p true [] []) fun m => m.Sane none := by
  refine ⟨fun m hm => ⟨(Machine.coherent_start hr p).of_ok m hm, fun f hf => ?_⟩⟩
  have hframes : m.frames = [(⟨p, true, [], []⟩ : Opening).frame 1 0] :=
    congrArg Stage.frames ((Machine.push_stage ..).of_ok m hm)
  obtain rfl := List.mem_singleton.1 (hframes ▸ hf)
  exact (Opening.isFresh_idle p true 1 0).neat

/-- Both runs start at the same place, or cannot start. -/
theorem follows_start (hlimit : e.config.charLimit = none) (p : Pattern) (g : Generator) :
    Follows Idle (e.start p g) (e.startEvaluating p g) := by
  have hregisters : (e.registers g).Twin (e.registers g) :=
    show Registers.Twin _ ((e.registers g).refit [] (.ofLimit e.config.charLimit)) from
      .intro .nil hlimit hlimit
  unfold start startEvaluating
  by_cases hdepth : 1 ≤ e.setting.maxDepth
  · let f : Frame := (⟨p.passage, true, [], []⟩ : Opening).frame 1 0
    rw [push_eq_ok (m := Machine.initial e.setting (e.registers g)) hdepth,
      push_eq_ok (m := Machine.initial e.setting.evaluating (e.registers g)) hdepth]
    refine .ok ⟨f, f, .bottom, .bottom, rfl, ?_⟩
    exact
      { agree := ⟨hregisters, rfl, rfl⟩
        frame := ⟨rfl, rfl, .nil, .nil⟩
        level := .root rfl rfl
        frames := rfl
        frames' := rfl
        outputs := ⟨.initial, rfl, rfl⟩
        results := rfl
        results' := rfl }
  · rw [push_eq_error (m := Machine.initial e.setting.evaluating (e.registers g))
      (Nat.not_le.1 hdepth)]
    exact .deep _ ⟨_, _, _, rfl⟩

/-- It is of no consequence that plain arguments are not evaluated. Without a limit of characters,
and unless the run in which they are evaluated is too deep, both runs give the same and leave the
same flags and subroutines. They end with the same generator, and draw the same on the way. -/
theorem evaluating_literals (hlimit : e.config.charLimit = none)
    (hdepth : ∀ name position limit, (e.outcomeEvaluating p g).result ≠
      .error (.fault name position (.exceeded ⟨.stackDepth, limit⟩))) :
    e.outcomeEvaluating p g = e.outcome p g ∧
      ∀ m₀, e.start p g = .ok m₀ → ∃ m₀' m m' draws, e.startEvaluating p g = .ok m₀' ∧
        Stops draws (e.outcome p g).result m₀ m ∧ Stops draws (e.outcome p g).result m₀' m' ∧
        m'.registers.generator = m.registers.generator := by
  have hshallow : ∀ error, (e.outcomeEvaluating p g).result = .error error → ¬error.IsDeep := by
    rintro error hresult ⟨name, position, limit, rfl⟩
    exact hdepth name position limit hresult
  have hstarts := follows_start hlimit p g
  generalize hstart : e.start p g = x, hstart' : e.startEvaluating p g = y at hstarts
  cases hstarts with
  | error error =>
    refine ⟨?_, fun m₀ hok => ?_⟩
    · exact (outcomeEvaluating_of_error hstart').trans (outcome_of_start_error hstart).symm
    · cases hok
  | @deep _ error hdeep =>
    have houtcome := outcomeEvaluating_of_error hstart'
    exact absurd hdeep (hshallow error (congrArg Outcome.result houtcome))
  | @ok m₀ m₀' hidle =>
    obtain ⟨n, m, hlead, hdecides⟩ := exists_decides hstart
    have hsane := (sane_start (e.idle_registers g) p.passage).of_ok m₀ hstart
    have hsane' := (sane_start (e.idle_registers g) p.passage).of_ok m₀' hstart'
    have hconcludes := (Stands.idle hidle).concludes hsane' hlead hdecides.ends
      fun m₁ hmeets hm₁ => hmeets.run hsane hm₁ hlead hdecides.ends
    rcases hconcludes with ⟨m', hstops, htwin⟩ | ⟨draws, error, m', hstops, hdeep⟩
    · refine ⟨?_, ?_⟩
      · have hflags := htwin.rest_eq (f := Registers.flags) fun _ _ _ => rfl
        have hsubroutines := htwin.rest_eq (f := Registers.subroutines) fun _ _ _ => rfl
        rw [outcomeEvaluating_of_stops hstart' hstops, hflags, hsubroutines, ← hdecides.flags,
          ← hdecides.subroutines]
      · rintro _ ⟨⟩
        exact ⟨m₀', m, m', m₀.draws n, rfl, ⟨⟨n, hlead, rfl⟩, hdecides.ends⟩, hstops,
          htwin.generator_eq⟩
    · have houtcome := outcomeEvaluating_of_stops hstart' hstops
      exact absurd hdeep (hshallow error (congrArg Outcome.result houtcome))

/-- A pattern with a plain argument, and one that is evaluated in any case. -/
def ranged : Pattern where
  name := "ranged"
  code := "[n:1;\x7b5|9\x7d]"
  tokens := #[⟨.leftSquare, "[", ⟨1, 1, 0⟩⟩, ⟨.text, "n", ⟨1, 2, 1⟩⟩, ⟨.colon, ":", ⟨1, 3, 2⟩⟩,
    ⟨.text, "1", ⟨1, 4, 3⟩⟩, ⟨.semicolon, ";", ⟨1, 5, 4⟩⟩, ⟨.leftCurly, "\x7b", ⟨1, 6, 5⟩⟩,
    ⟨.text, "5", ⟨1, 7, 6⟩⟩, ⟨.pipe, "|", ⟨1, 8, 7⟩⟩, ⟨.text, "9", ⟨1, 9, 8⟩⟩,
    ⟨.rightCurly, "\x7d", ⟨1, 10, 9⟩⟩, ⟨.rightSquare, "]", ⟨1, 11, 10⟩⟩]
  tokenize_code := by with_unfolding_all rfl

/-- The same number is drawn from the same range in both runs. -/
theorem evaluating_literals_ranged : ∃ (e : Engine) (g : Generator), e.config.charLimit = none ∧
    (∀ name position limit, (e.outcomeEvaluating ranged g).result ≠
      .error (.fault name position (.exceeded ⟨.stackDepth, limit⟩))) ∧
    (e.outcome ranged g).result = .ok ⟨[("main", "9")]⟩ ∧
    e.outcomeEvaluating ranged g = e.outcome ranged g := by
  let e : Engine := .build .standard .empty .empty
  have hresult : (e.outcomeEvaluating ranged (.ofSeed 42)).result = .ok ⟨[("main", "9")]⟩ :=
    Machine.runPassage_eq_of_after (n := 12) _ (by decide +kernel)
  have hdepth : ∀ name position limit, (e.outcomeEvaluating ranged (.ofSeed 42)).result ≠
      .error (.fault name position (.exceeded ⟨.stackDepth, limit⟩)) := by
    rw [hresult]
    exact nofun
  have hsame := (evaluating_literals rfl hdepth).1
  exact ⟨e, .ofSeed 42, rfl, hdepth, (congrArg Outcome.result hsame).symm.trans hresult, hsame⟩

end Engine

end Wordsmith
