import Wordsmith.Engine

/-!
# What a run comes to

A run takes steps from the machine it starts with. What holds of that machine and is kept by every
step holds of every machine that the run comes to, and the last one decides what the run ends with.

Main results: `Leads.keeps`, the induction along a run, and `run_stops`, every run comes to its end.
-/

namespace Wordsmith

namespace Machine

variable {s : Setting} {m m' m₁ m₂ : Machine s} {n k : Nat}

/-- A number of steps leads from one machine to another. -/
inductive Leads : Nat → Machine s → Machine s → Prop
  | refl (m : Machine s) : Leads 0 m m
  | step {n : Nat} {m m₁ m' : Machine s} (hframes : m.frames ≠ []) (hstep : m.step = .ok m₁)
      (h : Leads n m₁ m') : Leads (n + 1) m m'

namespace Leads

theorem trans (h : Leads n m m₁) (h' : Leads k m₁ m') : Leads (n + k) m m' := by
  induction h with
  | refl => rwa [Nat.zero_add]
  | step hframes hstep _ ih =>
    rw [Nat.add_right_comm]
    exact .step hframes hstep (ih h')

theorem single (hframes : m.frames ≠ []) (hstep : m.step = .ok m') : Leads 1 m m' :=
  .step hframes hstep (.refl m')

/-- What every step keeps is kept on the way. -/
theorem keeps {P : Machine s → Prop} (hP : ∀ m m', P m → m.step = .ok m' → P m')
    (h : Leads n m m') (hm : P m) : P m' := by
  induction h with
  | refl => exact hm
  | step _ hstep _ ih => exact ih (hP _ _ hm hstep)

/-- There is only one way on. -/
theorem split (h : Leads n m m₁) (h' : Leads k m m₂) (hle : n ≤ k) : Leads (k - n) m₁ m₂ := by
  induction h generalizing k with
  | refl => exact h'
  | step _ hstep _ ih =>
    cases h' with
    | refl => exact absurd hle (Nat.not_succ_le_zero _)
    | step _ hstep' h' =>
      cases hstep.symm.trans hstep'
      rw [Nat.add_sub_add_right]
      exact ih h' (Nat.le_of_succ_le_succ hle)

end Leads

/-- The machine after some steps, or where the run is over before. -/
def after : Nat → Machine s → Except RunError (Machine s)
  | 0, m => .ok m
  | n + 1, m =>
    match m.frames with
    | [] => .ok m
    | _ :: _ => m.step.bind (after n)

theorem Leads.after_eq (h : Leads n m m') : m.after n = .ok m' := by
  induction h with
  | refl => rfl
  | step hframes hstep _ ih =>
    rw [after]
    split
    · next hnone => exact absurd hnone hframes
    · rw [hstep]
      exact ih

theorem exists_leads_of_after (h : m.after n = .ok m') : ∃ k, Leads k m m' := by
  induction n generalizing m with
  | zero =>
    cases h
    exact ⟨0, .refl _⟩
  | succ n ih =>
    rw [after] at h
    split at h
    · cases h
      exact ⟨0, .refl _⟩
    · next hframes =>
      cases hstep : m.step with
      | error e => simp [hstep, Except.bind] at h
      | ok m₁ =>
        rw [hstep] at h
        obtain ⟨k, hlead⟩ := ih h
        exact ⟨k + 1, .step (by simp [hframes]) hstep hlead⟩

/-- The run is over with a result: no frame is left, or the next step fails. -/
def Ends (m : Machine s) (result : Except RunError Output) : Prop :=
  (m.frames = [] ∧ result = .ok (m.results.headD ⟨[]⟩)) ∨
    ∃ e, m.frames ≠ [] ∧ m.step = .error e ∧ result = .error e

/-- Where a run is over, no step leads on. -/
theorem Ends.eq_zero {result : Except RunError Output} (h : m.Ends result) (hm : Leads n m m') :
    n = 0 := by
  cases hm with
  | refl => rfl
  | step hframes hstep =>
    rcases h with ⟨hnone, -⟩ | ⟨e, -, herror, -⟩
    · exact absurd hnone hframes
    · cases herror.symm.trans hstep

/-- The outcome is that of a run that is over with the machine. -/
structure Decides (m : Machine s) (o : Outcome) : Prop where
  ends : m.Ends o.result
  flags : o.flags = m.registers.flags
  subroutines : o.subroutines = m.registers.subroutines

/-- Every run comes to an end. -/
theorem finishRun_decides (m : Machine s) (hm : m.Coherent) :
    ∃ n m', Leads n m m' ∧ m'.Decides (m.finishRun hm) := by
  induction m using wellFounded_lower.induction with
  | _ m ih =>
    rw [finishRun]
    split
    · next hframes => exact ⟨0, m, .refl m, .inl ⟨hframes, rfl⟩, rfl, rfl⟩
    · next f below hframes =>
      have hne : m.frames ≠ [] := by simp [hframes]
      split
      · next e hstep => exact ⟨0, m, .refl m, .inr ⟨e, hne, hstep, rfl⟩, rfl, rfl⟩
      · next m₁ hstep =>
        have hlower := (hm.step_lower hframes).of_ok m₁ hstep
        obtain ⟨n, m', hlead, hdecides⟩ := ih m₁ hlower (hm.step.of_ok m₁ hstep)
        exact ⟨n + 1, m', .step hne hstep hlead, hdecides⟩

/-- There is one machine with which a run is over, and it is over with one result. -/
theorem Ends.unique {x y : Except RunError Output} (h₁ : Leads n m m₁) (hx : m₁.Ends x)
    (h₂ : Leads k m m₂) (hy : m₂.Ends y) : m₁ = m₂ ∧ x = y := by
  obtain rfl : m₁ = m₂ := by
    rcases Nat.le_total n k with hle | hle
    · have hrest := h₁.split h₂ hle
      rw [hx.eq_zero hrest] at hrest
      cases hrest
      rfl
    · have hrest := h₂.split h₁ hle
      rw [hy.eq_zero hrest] at hrest
      cases hrest
      rfl
  refine ⟨rfl, ?_⟩
  rcases hx with ⟨hframes, rfl⟩ | ⟨error, hframes, hstep, rfl⟩ <;>
    rcases hy with ⟨hframes', rfl⟩ | ⟨error', hframes', hstep', rfl⟩
  · rfl
  · exact absurd hframes hframes'
  · exact absurd hframes' hframes
  · cases hstep.symm.trans hstep'
    rfl

/-! ## Runs of passages -/

section

variable {r : Registers} {p : Passage} (hr : r.Idle)

/-- A run of a passage that can start is over with some machine. -/
theorem exists_decides_runPassage (hstart : (initial s r).push p true [] [] = .ok m) :
    ∃ n m', Leads n m m' ∧ m'.Decides (runPassage s r hr p) := by
  rw [runPassage]
  split
  · next hfailed => cases hstart.symm.trans hfailed
  · next hok =>
    cases hstart.symm.trans hok
    exact m.finishRun_decides _

/-- Wherever a run of a passage is over decides its outcome. -/
theorem runPassage_of_ends (hstart : (initial s r).push p true [] [] = .ok m)
    (hlead : Leads n m m') {result : Except RunError Output} (hend : m'.Ends result) :
    runPassage s r hr p = ⟨result, m'.registers.flags, m'.registers.subroutines⟩ := by
  obtain ⟨k, m₁, hlead₁, hdecides⟩ := exists_decides_runPassage hr hstart
  obtain ⟨rfl, rfl⟩ := Ends.unique hlead₁ hdecides.ends hlead hend
  rw [← hdecides.flags, ← hdecides.subroutines]

/-- A run of a passage that cannot start leaves everything as it was. -/
theorem runPassage_of_error {error : RunError}
    (hstart : (initial s r).push p true [] [] = .error error) :
    runPassage s r hr p = ⟨.error error, r.flags, r.subroutines⟩ := by
  rw [runPassage]
  split
  · next hfailed =>
    cases hstart.symm.trans hfailed
    rfl
  · next hok => cases hstart.symm.trans hok

/-- A run of a passage gives what is the last result of a machine without frames, to which it comes
after some steps. -/
theorem runPassage_eq_of_after {channels : List (String × String)}
    (h : (((initial s r).push p true [] []).bind (after n)).toOption.map (fun m =>
      (m.frames.isEmpty, m.results.head?.map (·.channels))) = some (true, some channels)) :
    (runPassage s r hr p).result = .ok ⟨channels⟩ := by
  cases hstart : (initial s r).push p true [] [] with
  | error error => simp [hstart, Except.bind, Except.toOption] at h
  | ok m₀ =>
    rw [hstart] at h
    cases hafter : m₀.after n with
    | error error => simp [hafter, Except.bind, Except.toOption] at h
    | ok m =>
      obtain ⟨k, hlead⟩ := exists_leads_of_after hafter
      obtain ⟨hframes, hresults⟩ :
          m.frames = [] ∧ m.results.head?.map (·.channels) = some channels := by
        simpa [hafter, Except.bind, Except.toOption] using h
      obtain ⟨output, hhead, rfl⟩ := Option.map_eq_some_iff.1 hresults
      have hend : m.Ends (.ok output) := by
        refine .inl ⟨hframes, ?_⟩
        rw [List.headD_eq_head?_getD, hhead]
        rfl
      exact congrArg Outcome.result (runPassage_of_ends hr hstart hlead hend)

end

end Machine

theorem Pattern.exists_compile {code : String} {tokens : List Token}
    (h : tokenize code = .ok tokens) (name : String) :
    ∃ p, compile name code = .ok p ∧ p.tokens.toList = tokens := by
  unfold compile
  split
  · next he => cases h.symm.trans he
  · next hok =>
    cases h.symm.trans hok
    exact ⟨_, rfl, rfl⟩

theorem Pattern.compile_of_error {code : String} {error : LexError}
    (h : tokenize code = .error error) (name : String) : compile name code = .error error := by
  unfold compile
  split
  · next he => exact congrArg _ (Except.error.inj (he.symm.trans h))
  · next hok => cases h.symm.trans hok

namespace Engine

variable {e : Engine} {p : Pattern} {g : Generator} {m m' : Machine e.setting} {n : Nat}

/-- The machine that a run of a pattern starts with. -/
def start (e : Engine) (p : Pattern) (g : Generator) : Except RunError (Machine e.setting) :=
  (Machine.initial e.setting (e.registers g)).push p.passage true [] []

/-- The run of a pattern comes to a machine. -/
def Reaches (e : Engine) (p : Pattern) (g : Generator) (m : Machine e.setting) : Prop :=
  ∃ m₀ n, e.start p g = .ok m₀ ∧ Machine.Leads n m₀ m

theorem Reaches.lead (h : e.Reaches p g m) (hm : Machine.Leads n m m') : e.Reaches p g m' := by
  obtain ⟨m₀, k, hstart, hlead⟩ := h
  exact ⟨m₀, k + n, hstart, hlead.trans hm⟩

/-- A run comes to the machine after some steps, which is known by what is computed of it. -/
theorem exists_reaches_of_after {α : Type} {f : Machine e.setting → α} {a : α}
    (h : ((e.start p g).bind (Machine.after n)).toOption.map f = some a) :
    ∃ m, e.Reaches p g m ∧ f m = a := by
  cases hstart : e.start p g with
  | error error => simp [hstart, Except.bind, Except.toOption] at h
  | ok m₀ =>
    rw [hstart] at h
    cases hafter : m₀.after n with
    | error error => simp [hafter, Except.bind, Except.toOption] at h
    | ok m =>
      obtain ⟨k, hlead⟩ := Machine.exists_leads_of_after hafter
      refine ⟨m, ⟨m₀, k, hstart, hlead⟩, ?_⟩
      simpa [hafter, Except.bind, Except.toOption] using h

/-- What holds at first and is kept by every step holds of all that a run comes to. -/
theorem Reaches.keeps {P : Machine e.setting → Prop} (h : e.Reaches p g m)
    (hstart : Ensures (e.start p g) P) (hstep : ∀ m m', P m → m.step = .ok m' → P m') : P m := by
  obtain ⟨m₀, n, hm₀, hlead⟩ := h
  exact hlead.keeps hstep (hstart.of_ok m₀ hm₀)

/-- What holds at first and is kept by every step of the run holds of all that the run comes to. -/
theorem Reaches.carries {P : Machine e.setting → Prop} (h : e.Reaches p g m)
    (hstart : Ensures (e.start p g) P)
    (hstep : ∀ m m', e.Reaches p g m → m.frames ≠ [] → m.step = .ok m' → P m → P m') : P m := by
  obtain ⟨m₀, n, hm₀, hlead⟩ := h
  have hreach : e.Reaches p g m₀ := ⟨m₀, 0, hm₀, .refl m₀⟩
  have hP := hstart.of_ok m₀ hm₀
  clear hm₀
  induction hlead with
  | refl => exact hP
  | step hne hstep' _ ih =>
    exact ih (hreach.lead (.single hne hstep')) (hstep _ _ hreach hne hstep' hP)

/-- All that a run comes to is coherent. -/
theorem Reaches.coherent (h : e.Reaches p g m) : m.Coherent :=
  h.keeps (Machine.coherent_start (e.idle_registers g) p.passage) fun _ m' hm hstep =>
    hm.step.of_ok m' hstep

/-- What a run starts with. -/
theorem start_stage (e : Engine) (p : Pattern) (g : Generator) :
    Ensures (e.start p g) fun m => m.stage =
      (Machine.initial e.setting (e.registers g)).stage.enter ⟨p.passage, true, [], []⟩ :=
  Machine.push_stage ..

/-- What holds of the stage at first and is kept by all that a step can do holds of all stages that
a run comes to. -/
theorem Reaches.keepsStage {P : Stage → Prop} (h : e.Reaches p g m)
    (hstart : P ((Machine.initial e.setting (e.registers g)).stage.enter
      ⟨p.passage, true, [], []⟩))
    (hstep : ∀ x y, x.Coherent none → x.Step e.setting.shortcuts.literals y → P x → P y) :
    P m.stage := by
  refine (h.keeps (P := fun m => m.Coherent ∧ P m.stage) ?_ ?_).2
  · refine ⟨fun m hm => ⟨?_, ?_⟩⟩
    · exact (Machine.coherent_start (e.idle_registers g) p.passage).of_ok m hm
    · rw [(e.start_stage p g).of_ok m hm]
      exact hstart
  · intro m m' ⟨hm, hP⟩ hok
    refine ⟨hm.step.of_ok m' hok, ?_⟩
    cases hframes : m.frames with
    | nil =>
      have hsame : m' = m := by
        rw [Machine.step, hframes] at hok
        exact (Except.ok.inj hok).symm
      rwa [hsame]
    | cons f below => exact hstep _ _ hm ((hm.step_stage hframes).of_ok m' hok) hP

/-- What a run gives and what outlives it. -/
def outcome (e : Engine) (p : Pattern) (g : Generator) : Outcome :=
  ⟨(e.run p g).1, (e.run p g).2.flags, (e.run p g).2.subroutines⟩

/-- A run that can start is over with some machine. -/
theorem exists_decides {m₀ : Machine e.setting} (hstart : e.start p g = .ok m₀) :
    ∃ n m, Machine.Leads n m₀ m ∧ m.Decides (e.outcome p g) :=
  Machine.exists_decides_runPassage (e.idle_registers g) hstart

/-- Wherever a run is over decides its outcome. -/
theorem outcome_of_ends (h : e.Reaches p g m) {result : Except RunError Output}
    (hend : m.Ends result) :
    e.outcome p g = ⟨result, m.registers.flags, m.registers.subroutines⟩ := by
  obtain ⟨m₀, n, hstart, hlead⟩ := h
  exact Machine.runPassage_of_ends (e.idle_registers g) hstart hlead hend

/-- A run gives what it is over with. -/
theorem run_eq_of_ends (h : e.Reaches p g m) {result : Except RunError Output}
    (hend : m.Ends result) : (e.run p g).1 = result :=
  congrArg Outcome.result (outcome_of_ends h hend)

/-- A run that cannot start leaves everything as it was. -/
theorem outcome_of_start_error {error : RunError} (hstart : e.start p g = .error error) :
    e.outcome p g = ⟨.error error, e.flags, e.subroutines⟩ :=
  Machine.runPassage_of_error (e.idle_registers g) hstart

/-- A run fails that comes to a machine, after some steps, from which no step leads on. -/
theorem exists_run_eq_error_of_after
    (h : ((e.start p g).bind (Machine.after n)).toOption.map (fun m =>
      (m.frames.isEmpty, m.step.toOption.isSome)) = some (false, false)) :
    ∃ error, (e.run p g).1 = .error error := by
  obtain ⟨m, hm, hseen⟩ := exists_reaches_of_after h
  obtain ⟨hframes, hnone⟩ := Prod.mk.inj hseen
  cases hstep : m.step with
  | ok m' => simp [hstep, Except.toOption] at hnone
  | error error =>
    exact ⟨error, run_eq_of_ends hm (.inr ⟨error, by simpa using hframes, hstep, rfl⟩)⟩

/-- A run fails with the error of the brackets that a step meets, at a machine to which it comes after
some steps. -/
theorem run_eq_scope_error_of_after {error : ScopeError}
    (h : ((e.start p g).bind (Machine.after n)).toOption.map (fun m =>
      (m.frames.isEmpty, match m.step with | .error (.scope error) => some error | _ => none)) =
        some (false, some error)) :
    (e.run p g).1 = .error (.scope error) := by
  obtain ⟨m, hm, hseen⟩ := exists_reaches_of_after h
  obtain ⟨hframes, herror⟩ := Prod.mk.inj hseen
  split at herror
  · next hstep =>
    cases herror
    exact run_eq_of_ends hm (.inr ⟨_, by simpa using hframes, hstep, rfl⟩)
  · cases herror

theorem runSource_of_ok {name code : String} (h : Pattern.compile name code = .ok p) :
    e.runSource name code g = e.run p g := by
  rw [runSource, h]

theorem runSource_of_error {name code : String} {error : LexError}
    (h : Pattern.compile name code = .error error) :
    e.runSource name code g = (.error (.lex error), e) := by
  rw [runSource, h]

/-- A source gives what is the last result of a machine without frames, to which its run comes
after some steps. -/
theorem runSource_eq_of_after {name code : String} {channels : List (String × String)}
    (h : (Pattern.compile name code).toOption.bind (fun p =>
      ((e.start p g).bind (Machine.after n)).toOption.map fun m =>
        (m.frames.isEmpty, m.results.head?.map (·.channels))) = some (true, some channels)) :
    (e.runSource name code g).1 = .ok ⟨channels⟩ := by
  cases hcompile : Pattern.compile name code with
  | error error => simp [hcompile, Except.toOption] at h
  | ok p =>
    rw [hcompile] at h
    rw [runSource_of_ok hcompile]
    exact Machine.runPassage_eq_of_after (e.idle_registers g) h

/-- A run fails at the start, or some number of steps leads to where it is over. -/
theorem run_ends (e : Engine) (p : Pattern) (g : Generator) :
    (∃ error, e.start p g = .error error ∧ (e.run p g).1 = .error error) ∨
      ∃ m₀ n m, e.start p g = .ok m₀ ∧ Machine.Leads n m₀ m ∧ m.Ends (e.run p g).1 := by
  cases hstart : e.start p g with
  | error error =>
    exact .inl ⟨error, rfl, congrArg Outcome.result (outcome_of_start_error hstart)⟩
  | ok m₀ =>
    obtain ⟨n, m, hlead, hdecides⟩ := exists_decides hstart
    exact .inr ⟨m₀, n, m, rfl, hlead, hdecides.ends⟩

/-- A run that succeeds comes to a machine without frames, and its output is the last result. -/
theorem reaches_of_run_ok {output : Output} (h : (e.run p g).1 = .ok output) :
    ∃ m, e.Reaches p g m ∧ m.frames = [] ∧ output = m.results.headD ⟨[]⟩ := by
  rcases e.run_ends p g with ⟨error, -, herror⟩ | ⟨m₀, n, m, hstart, hlead, hends⟩
  · cases h.symm.trans herror
  · rcases hends with ⟨hframes, hok⟩ | ⟨error, -, -, herror⟩
    · cases h.symm.trans hok
      exact ⟨m, ⟨m₀, n, hstart, hlead⟩, hframes, rfl⟩
    · cases h.symm.trans herror

end Engine

end Wordsmith
