import Wordsmith.Proofs.Likeness.Steps
import Wordsmith.Proofs.Reach

/-!
# Runs alike

Machines that are alike lead to machines that are alike, step by step, until both fail or the first
of them is over. In particular a machine that is like itself, because all its code is of a standard,
leads only to machines of which the same is true.

Main results: `Machine.Like.leads` for the way of two machines, and `Engine.Reaches.like` for all
that one run comes to.
-/

namespace Wordsmith

namespace Machine

variable {S : Standard} {B : Footing} {s s' : Setting} {m m₁ : Machine s} {m' : Machine s'}
  {n : Nat}

namespace Like

/-- Where the first machine leads, the second leads in as many steps. -/
theorem leads (hs : s.Alike B.frames.length s') (h : m.Like S B m') (hlead : Leads n m m₁) :
    ∃ m₁', Leads n m' m₁' ∧ (m₁.Like S B m₁' ∨ m₁.Done S B m₁') := by
  induction hlead generalizing m' with
  | refl m => exact ⟨m', .refl m', .inl h⟩
  | step _ hstep hlead ih =>
    obtain ⟨m₂', hstep', hnext⟩ := (h.step hs).exists_ok hstep
    rcases hnext with hlike | hdone
    · obtain ⟨m₁', hlead', hends⟩ := ih hlike
      exact ⟨m₁', .step h.frames_ne_nil' hstep' hlead', hends⟩
    · cases hlead with
      | refl => exact ⟨m₂', .single h.frames_ne_nil' hstep', .inr hdone⟩
      | step hframes => exact absurd hdone.frames hframes

/-- A failure on the first side comes with one on the second. -/
theorem ends_error (hs : s.Alike B.frames.length s') (h : m.Like S B m') {e : RunError}
    (hend : m.Ends (.error e)) : ∃ e', m'.Ends (.error e') ∧ e.Like S m.Miscalls e' := by
  rcases hend with ⟨-, herror⟩ | ⟨e₁, -, hstep, herror⟩
  · cases herror
  · cases herror
    obtain ⟨e', hstep', he⟩ := (h.step hs).exists_error hstep
    exact ⟨e', .inr ⟨e', h.frames_ne_nil', hstep', rfl⟩, he⟩

end Like

end Machine

theorem Setting.Alike.refl (s : Setting) : s.Alike Footing.none.frames.length s :=
  ⟨rfl, rfl, rfl, rfl, rfl, rfl⟩

namespace Engine

variable {S : Standard} {e : Engine} {p : Pattern} {g : Generator} {m : Machine e.setting}

/-- The subroutines of an engine are of a standard. -/
def Fulfils (S : Standard) (e : Engine) : Prop :=
  e.subroutines.Like (Subroutine.Like S) e.subroutines

theorem Fulfils.registers (h : e.Fulfils S) (g : Generator) (d : Nat) :
    (e.registers g).Like S d (e.registers g) :=
  ⟨rfl, .nil, .plain, rfl, .refl _, rfl, rfl, .nil, rfl, rfl, rfl, rfl, h⟩

/-- A run of a pattern that is of a standard begins with a machine that is. -/
theorem like_start (hsubroutines : e.Fulfils S) (hp : S.reader (.ofPassage p.passage))
    (hstart : e.start p g = .ok m) : m.Like S .none m := by
  have hframe : Frame.Like S 0 ⟨1, .ofPassage p.passage, true, 0, [], []⟩
      ⟨1, .ofPassage p.passage, true, 0, [], []⟩ :=
    ⟨rfl, .refl (Nat.le_refl _), hp, rfl, .nil, .nil⟩
  unfold start Machine.push at hstart
  split at hstart
  · cases hstart
  · cases hstart
    exact ⟨.root hframe rfl rfl, rfl, rfl, hsubroutines.registers g 0, nofun, nofun, rfl⟩

/-- A run of a pattern that is of a standard stays within it. -/
theorem Reaches.like (h : e.Reaches p g m) (hsubroutines : e.Fulfils S)
    (hp : S.reader (.ofPassage p.passage)) : m.Like S .none m ∨ m.Done S .none m := by
  obtain ⟨m₀, n, hstart, hlead⟩ := h
  obtain ⟨m', hlead', hends⟩ := (like_start hsubroutines hp hstart).leads (.refl _) hlead
  have hsame := hlead.split hlead' (Nat.le_refl n)
  rw [Nat.sub_self] at hsame
  cases hsame
  exact hends

/-- What a run of a pattern that is of a standard fails with is within it. -/
theorem exists_like_of_run_error (hsubroutines : e.Fulfils S) (hp : S.reader (.ofPassage p.passage))
    {error : RunError} (h : (e.run p g).1 = .error error) : ∃ error', error.Like S (fun name count =>
      ∃ m, e.Reaches p g m ∧ m.Ends (.error error) ∧ m.Miscalls name count) error' := by
  rcases e.run_ends p g with ⟨error', hstart, herror⟩ | ⟨m₀, n, m, hstart, hlead, hends⟩
  · cases h.symm.trans herror
    unfold start at hstart
    by_cases hdepth : 1 ≤ e.setting.maxDepth
    · rw [Machine.push_eq_ok (by simpa [Machine.initial] using hdepth)] at hstart
      cases hstart
    · rw [Machine.push_eq_error (by simpa [Machine.initial] using hdepth)] at hstart
      cases hstart
      exact ⟨(Machine.initial e.setting (e.registers g)).fault _, Machine.like_fault trivial⟩
  · rw [h] at hends
    have hreach : e.Reaches p g m := ⟨m₀, n, hstart, hlead⟩
    rcases hreach.like hsubroutines hp with hlike | hdone
    · obtain ⟨error', -, he⟩ := hlike.ends_error (.refl _) hends
      refine ⟨error', he.alike, he.mild.imp id fun hmild => ?_, he.fails⟩
      cases hmild with
      | fault p i hf => exact .fault p i hf
      | arity p i hwrong => exact .arity p i ⟨m, hreach, hends, hwrong⟩
    · rcases hends with ⟨-, hok⟩ | ⟨_, hframes, -⟩
      · cases hok
      · exact absurd hdone.frames hframes

/-- What a run fails with is a mild fault, or a call of a subroutine with a wrong number of
arguments, unless the standard is lax. -/
theorem isMild_of_run_error (hsubroutines : e.Fulfils S) (hp : S.reader (.ofPassage p.passage))
    {error : RunError} (h : (e.run p g).1 = .error error) : S.isLax ∨ error.IsMild fun name count =>
      ∃ m, e.Reaches p g m ∧ m.Ends (.error error) ∧ m.Miscalls name count := by
  obtain ⟨_, hlike⟩ := exists_like_of_run_error hsubroutines hp h
  exact hlike.mild

/-- What is wrong with the brackets that a run comes upon is what may be wrong. -/
theorem fails_of_run_error (hsubroutines : e.Fulfils S) (hp : S.reader (.ofPassage p.passage))
    {error : ScopeError} (h : (e.run p g).1 = .error (.scope error)) : S.fails error := by
  obtain ⟨_, hlike⟩ := exists_like_of_run_error hsubroutines hp h
  exact hlike.fails error rfl

end Engine

end Wordsmith
