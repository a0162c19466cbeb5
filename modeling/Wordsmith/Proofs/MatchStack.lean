import Wordsmith.Proofs.Evaluation
import Wordsmith.Proofs.Stepping

/-!
# What a frame leaves of the matches

The code for a match puts it on a stack before its first token and takes it off behind its last one,
or when its frame is given up. So what frames are going to leave of the stack can be told in
advance: each action that is pending in them is counted for what it puts on or takes off, in the
order in which the actions are due. No step changes that, be it a step on top of the frames or one
that gives some of them up; and once the frames are over, it is the stack itself. In particular a
frame that began with nothing pending ends with the stack that it began with.

Main results: `Stage.Step.passesMatches`, and `Machine.Evaluates.matched`.
-/

namespace Wordsmith

/-! ## Actions and frames -/

/-- What the action makes of the matches. -/
def Deferred.leaveMatches (xs : List Regex.Match) : Deferred → List Regex.Match
  | enterMatch x => x :: xs
  | leaveMatch => xs.tail
  | _ => xs

/-- What frames are going to leave of the matches, the innermost frame first. -/
def Frame.leaveMatches (frames : List Frame) (xs : List Regex.Match) : List Regex.Match :=
  (frames.flatMap Frame.pending).foldl Deferred.leaveMatches xs

namespace Frame

theorem leaveMatches_append (frames below : List Frame) (xs : List Regex.Match) :
    leaveMatches (frames ++ below) xs = leaveMatches below (leaveMatches frames xs) := by
  rw [leaveMatches, List.flatMap_append, List.foldl_append]
  rfl

theorem leaveMatches_cons (f : Frame) (below : List Frame) (xs : List Regex.Match) :
    leaveMatches (f :: below) xs = leaveMatches below (leaveMatches [f] xs) :=
  leaveMatches_append [f] below xs

theorem leaveMatches_singleton (f : Frame) (xs : List Regex.Match) :
    leaveMatches [f] xs = f.pending.foldl Deferred.leaveMatches xs := by
  rw [leaveMatches, List.flatMap_singleton]

theorem leaveMatches_of_pending {f : Frame} (h : f.pending = []) (xs : List Regex.Match) :
    leaveMatches [f] xs = xs := by
  rw [leaveMatches_singleton, h]
  rfl

/-- An action that is given up has not been counted for what the frame still has to do. -/
theorem Gives.leaveMatches {f f' : Frame} {due : Option Deferred} (h : f.Gives due f')
    (xs : List Regex.Match) :
    leaveMatches [f] xs = leaveMatches [f'] (due.elim xs (Deferred.leaveMatches xs)) := by
  rw [leaveMatches_singleton, leaveMatches_singleton]
  cases h with
  | pre hpre => simp [pending, hpre]
  | token => rfl
  | @call _ action _ _ hready =>
    cases action with
    | callTag | callSubroutine => rfl
    | _ => exact hready.elim
  | post hpre _ hpost => simp [pending, hpre, hpost]

end Frame

/-- The action leaves the matches alone. -/
def Deferred.SparesMatches (action : Deferred) : Prop := ∀ xs, action.leaveMatches xs = xs

/-- The actions before and after the passage leave the matches as they found them. -/
def Opening.SparesMatches (o : Opening) : Prop :=
  ∀ xs, (o.pre ++ o.post).foldl Deferred.leaveMatches xs = xs

namespace Deferred

theorem IsPlain.sparesMatches {action : Deferred} (h : action.IsPlain) : action.SparesMatches := by
  cases action with
  | enterMatch | leaveMatch => exact h.elim
  | _ => exact fun _ => rfl

theorem sparesMatches_some {action : Deferred} (h : action.SparesMatches) :
    ∀ a ∈ some action, a.SparesMatches := by
  rintro a ⟨⟩
  exact h

theorem Awaits.sparesMatches {literals : Bool} {action : Deferred} {ps : List Passage}
    (h : action.Awaits literals ps) : action.SparesMatches := by
  cases h <;> exact fun _ => rfl

end Deferred

namespace Opening

theorem sparesMatches_idle (p : Passage) (owns : Bool) : SparesMatches ⟨p, owns, [], []⟩ :=
  fun _ => rfl

theorem sparesMatches_map_idle (ps : List Passage) (owns : Bool) :
    ∀ o ∈ ps.map (⟨·, owns, [], []⟩ : Passage → Opening), o.SparesMatches := by
  intro o ho
  obtain ⟨p, -, rfl⟩ := List.mem_map.1 ho
  exact sparesMatches_idle p owns

theorem sparesMatches_match (p : Passage) (x : Regex.Match) :
    SparesMatches ⟨p, true, [.enterMatch x], [.leaveMatch]⟩ := fun _ => rfl

end Opening

theorem Repeater.sparesMatches_openings (r : Repeater) (item : Option Passage) :
    ∀ o ∈ r.openings item, o.SparesMatches := by
  intro o ho
  simp only [openings, List.mem_append, List.mem_map] at ho
  rcases ho with ((⟨p, -, rfl⟩ | ⟨p, -, rfl⟩) | ⟨p, -, rfl⟩) | ⟨p, -, rfl⟩
  · exact fun _ => rfl
  · exact fun _ => rfl
  · intro xs
    dsimp only
    split <;> rfl
  · exact fun _ => rfl

namespace Registers

theorem matched_undo (r : Registers) (action : Deferred) :
    (r.undo action).matched = action.leaveMatches r.matched := by
  cases action with
  | finish q => cases q <;> rfl
  | _ => rfl

/-- Frames that are given up leave what they would have left at their ends. -/
theorem matched_giveUp (r : Registers) (frames : List Frame) :
    (Machine.giveUp r frames).matched = Frame.leaveMatches frames r.matched := by
  have hall : ∀ (actions : List Deferred) (r : Registers),
      (actions.foldl Registers.undo r).matched =
        actions.foldl Deferred.leaveMatches r.matched := by
    intro actions
    induction actions with
    | nil => exact fun _ => rfl
    | cons action actions ih =>
      intro r
      rw [List.foldl_cons, List.foldl_cons, ih, r.matched_undo]
  exact hall _ r

end Registers

/-! ## Stages -/

namespace Stage

variable {x y z : Stage} {below : List Frame} {xs : List Regex.Match} {literals : Bool}
  {due : Option Deferred}

/-- On top of the frames `below` there are others, which are going to leave the matches `xs`. -/
def Keeps (below : List Frame) (xs : List Regex.Match) (x : Stage) : Prop :=
  ∃ f up, x.frames = f :: up ++ below ∧ Frame.leaveMatches (f :: up) x.registers.matched = xs

namespace Keeps

theorem of_frames {f : Frame} (hframes : x.frames = f :: below) :
    x.Keeps below (Frame.leaveMatches [f] x.registers.matched) := ⟨f, [], hframes, rfl⟩

theorem use (h : x.Keeps below xs) (n : Nat) : (x.use n).Keeps below xs := h

theorem change (h : x.Keeps below xs) {f : Registers → Registers}
    (hf : (f x.registers).matched = x.registers.matched) : (x.change f).Keeps below xs := by
  obtain ⟨f₁, up, hframes, hleft⟩ := h
  exact ⟨f₁, up, hframes, by rw [Stage.change, hf, hleft]⟩

theorem turn (h : x.Keeps below xs) {t : Scene} (ht : x.scene.Turns t) :
    (x.turn t).Keeps below xs := by
  obtain ⟨f, up, hframes, hleft⟩ := h
  obtain ⟨-, -, -, hmatched⟩ := ht.keeps_stacks
  refine ⟨f, up, hframes, ?_⟩
  rw [← hleft]
  exact congrArg _ hmatched

theorem defer (h : x.Keeps below xs) {action : Deferred} (ha : action.SparesMatches) :
    (x.defer action).Keeps below xs := by
  obtain ⟨f, up, hframes, hleft⟩ := h
  refine ⟨{ f with pre := action :: f.pre }, up, ?_, ?_⟩
  · rw [Stage.defer, hframes]
    rfl
  · rw [← hleft, Frame.leaveMatches_cons, Frame.leaveMatches_cons f, Frame.leaveMatches_singleton,
      Frame.leaveMatches_singleton, Frame.pending, List.cons_append, List.foldl_cons, ha]
    rfl

theorem enter (h : x.Keeps below xs) {o : Opening} (ho : o.SparesMatches) :
    (x.enter o).Keeps below xs := by
  obtain ⟨f, up, hframes, hleft⟩ := h
  refine ⟨o.frame x.nextId x.results.length, f :: up, ?_, ?_⟩
  · rw [Stage.enter, hframes]
    rfl
  · rw [Frame.leaveMatches_cons, Frame.leaveMatches_singleton, Opening.pending_frame, ho]
    exact hleft

theorem enterAll (h : x.Keeps below xs) {os : List Opening} (hos : ∀ o ∈ os, o.SparesMatches) :
    (x.enterAll os).Keeps below xs := by
  induction os generalizing x with
  | nil => exact h
  | cons o os ih =>
    obtain ⟨ho, hos⟩ := List.forall_mem_cons.1 hos
    exact ih (h.enter ho) hos

theorem startBlock (h : x.Keeps below xs) (b : Block) (a : Attributes) :
    (x.startBlock b a).Keeps below xs := by
  have hspares : (Deferred.iterate x.nextId).SparesMatches := fun _ => rfl
  have hchanged := h.change (f := fun r =>
    { r with repeaters := Repeater.start x.nextId x.top b a :: r.repeaters }) rfl
  exact hchanged.defer hspares

end Keeps

/-- What is left of the matches by the frames that `x` has and `y` has not is left by those that `y`
has and `x` has not: either these are on top of all that was below the innermost one, or some were
given up. -/
inductive PassesMatches (x y : Stage) : Prop
  | stay {f : Frame} {below up : List Frame} (hframes : x.frames = f :: below)
      (hup : y.frames = up ++ below) (hleft : Frame.leaveMatches up y.registers.matched =
        Frame.leaveMatches [f] x.registers.matched)
  | cut {dropped kept : List Frame} (hframes : x.frames = dropped ++ kept) (hkept : y.frames = kept)
      (hleft : y.registers.matched = Frame.leaveMatches dropped x.registers.matched)

theorem Keeps.passesMatches {f : Frame} (h : y.Keeps below xs) (hframes : x.frames = f :: below)
    (hxs : xs = Frame.leaveMatches [f] x.registers.matched) : x.PassesMatches y := by
  obtain ⟨f', up, hup, hleft⟩ := h
  exact .stay hframes hup (hleft.trans hxs)

/-- Leaving a block gives frames up, and takes back what they have put on the stack. -/
theorem Leaves.passesMatches {f f' : Frame} (hleaves : z.Leaves y) (hframes : x.frames = f :: below)
    (hz : z.frames = f' :: below) (hregisters : z.registers = x.registers)
    (hf : ∀ xs, Frame.leaveMatches [f] xs = Frame.leaveMatches [f'] xs) : x.PassesMatches y := by
  cases hleaves with
  | idle =>
    refine .stay hframes (show _ = [f'] ++ below from hz) ?_
    rw [hregisters, hf]
  | lost =>
    refine .stay hframes (show _ = [f'] ++ below from hz) ?_
    rw [hf, ← hregisters]
    rfl
  | @cut r others dropped kept base _ hcut =>
    have hgiven :
        (Machine.giveUp { z.registers with repeaters := r.finish :: others } dropped).matched =
        Frame.leaveMatches dropped x.registers.matched := by
      rw [Registers.matched_giveUp, hregisters]
    rw [hz] at hcut
    cases dropped with
    | nil =>
      obtain ⟨rfl, rfl⟩ := List.cons.inj hcut
      exact .stay hframes (List.singleton_append).symm ((congrArg _ hgiven).trans (hf _).symm)
    | cons first dropped =>
      obtain ⟨rfl, hbelow⟩ := List.cons.inj hcut
      have hdropped : x.frames = (f :: dropped) ++ base :: kept := by
        rw [hframes, hbelow]
        rfl
      refine .cut hdropped rfl ?_
      rw [Frame.leaveMatches_cons, hf, ← Frame.leaveMatches_cons]
      exact hgiven

/-- What becomes of a stage from which an action has been taken. -/
theorem Effect.passesMatches {f f' : Frame} (hframes : x.frames = f :: below) (hf : f.Gives due f')
    (heffect : Effect literals { x with frames := f' :: below } due y) : x.PassesMatches y := by
  have htop : Keeps below (Frame.leaveMatches [f'] x.registers.matched)
      { x with frames := f' :: below } := .of_frames rfl
  have hgives := hf.leaveMatches
  -- an action that leaves the matches alone, and is over or has put others on top
  have stays : (∀ a ∈ due, a.SparesMatches) →
      y.Keeps below (Frame.leaveMatches [f'] x.registers.matched) → x.PassesMatches y := by
    intro hdue hkeeps
    refine hkeeps.passesMatches hframes ?_
    rw [hgives]
    cases due with
    | none => rfl
    | some action => rw [Option.elim_some, hdue action rfl]
  cases heffect with
  | act hdue h =>
    exact stays (fun a ha => (hdue a ha).sparesMatches) ((htop.use _).turn h)
  | run hdue h =>
    exact stays (fun a ha => (hdue a ha).sparesMatches)
      (((htop.use _).turn h).enter (Opening.sparesMatches_idle _ _))
  | runThen hq h =>
    refine stays (Deferred.sparesMatches_some fun _ => rfl) ?_
    exact (((htop.use _).turn h).defer fun _ => rfl).enterAll
      (Opening.sparesMatches_map_idle _ false)
  | compare =>
    refine stays (Deferred.sparesMatches_some fun _ => rfl) ?_
    exact (((htop.use _).change rfl).defer fun _ => rfl).enterAll
      (Opening.sparesMatches_map_idle _ false)
  | call =>
    refine stays (Deferred.sparesMatches_some fun _ => rfl) ?_
    exact (((htop.use _).change rfl).defer fun _ => rfl).enter (Opening.sparesMatches_idle _ _)
  | leave hleaves => exact hleaves.passesMatches hframes rfl rfl hgives
  | undo =>
    refine .stay hframes List.singleton_append.symm ?_
    rw [hgives]
    exact congrArg _ (Registers.matched_undo _ _)
  | advance => exact stays (Deferred.sparesMatches_some fun _ => rfl) (htop.change rfl)
  | suppress => exact stays (Deferred.sparesMatches_some fun _ => rfl) (htop.change rfl)
  | gone => exact stays (Deferred.sparesMatches_some fun _ => rfl) htop
  | iterate hfind hrun h =>
    refine stays (Deferred.sparesMatches_some fun _ => rfl) ?_
    exact ((htop.turn h).defer fun _ => rfl).enterAll (Repeater.sparesMatches_openings _ _)
  | block hsize h => exact stays (by simp) ((htop.turn h).startBlock _ _)
  | await hawaits =>
    refine stays (by simp) ?_
    exact (htop.defer hawaits.sparesMatches).enterAll (Opening.sparesMatches_map_idle _ true)
  | «matches» =>
    refine stays (Deferred.sparesMatches_some fun _ => rfl) ?_
    refine ((htop.use 1).defer fun _ => rfl).enterAll fun o ho => ?_
    obtain ⟨m, -, rfl⟩ := List.mem_map.1 ho
    exact Opening.sparesMatches_match _ m

/-- What every step keeps. -/
theorem Step.passesMatches (hstep : x.Step literals y) : x.PassesMatches y := by
  cases hstep with
  | go hframes hf heffect => exact heffect.passesMatches hframes hf
  | @pop f below hframes hpre _ hpost =>
    refine .cut (hframes.trans List.singleton_append.symm) (by rw [Stage.pop, hframes]; rfl) ?_
    rw [Frame.leaveMatches_of_pending (by rw [Frame.pending, hpre, hpost]; rfl)]
    rfl

/-- Where some frames at the bottom are there before and after, those above them leave the same. -/
theorem PassesMatches.leaveMatches_eq (h : x.PassesMatches y) {rest up up' : List Frame}
    (hne : up ≠ []) (hx : x.frames = up ++ rest) (hy : y.frames = up' ++ rest) :
    Frame.leaveMatches up' y.registers.matched = Frame.leaveMatches up x.registers.matched := by
  cases h with
  | @stay f below more hframes hup hleft =>
    obtain ⟨f', inner, rfl⟩ := List.exists_cons_of_ne_nil hne
    obtain ⟨rfl, rfl⟩ := List.cons.inj (hframes.symm.trans hx)
    obtain rfl : up' = more ++ inner :=
      List.append_cancel_right (hy.symm.trans (hup.trans (List.append_assoc ..).symm))
    rw [Frame.leaveMatches_append, hleft, ← Frame.leaveMatches_cons]
  | @cut dropped kept hframes hkept hleft =>
    obtain rfl : up = dropped ++ up' := by
      refine List.append_cancel_right (hx.symm.trans (hframes.trans ?_))
      rw [← hkept, hy, List.append_assoc]
    rw [Frame.leaveMatches_append, hleft]

end Stage

/-! ## Evaluations -/

namespace Machine

variable {s : Setting} {m n : Machine s} {f : Frame} {rest : List Frame} {outs : List Output}

/-- Within a frame, what it and the frames on top of it are going to leave of the matches stays the
same. -/
theorem Within.leaveMatches (hm : m.Coherent) (h : m.Within f rest n) : ∃ up,
    n.frames = up ++ rest ∧ up ≠ [] ∧ Frame.leaveMatches up n.registers.matched =
      Frame.leaveMatches [f] m.registers.matched := by
  induction h with
  | start hframes => exact ⟨[f], hframes, List.cons_ne_nil _ _, rfl⟩
  | @step n n' hwithin hstep hover ih =>
    obtain ⟨up, hframes, hne, hleft⟩ := ih
    obtain ⟨up', f', hframes', -⟩ := hover.frames
    obtain ⟨k, hlead⟩ := hwithin.leads
    have hcoherent : n.Coherent := hlead.keeps (fun _ _ h hstep => h.step.of_ok _ hstep) hm
    obtain ⟨g, below, htop⟩ := List.exists_cons_of_ne_nil hwithin.frames_ne_nil
    have hpasses := ((hcoherent.step_stage htop).of_ok n' hstep).passesMatches
    rw [List.append_cons] at hframes'
    refine ⟨up' ++ [f'], hframes', List.append_ne_nil_of_right_ne_nil _ (List.cons_ne_nil _ _), ?_⟩
    rw [← hleft]
    exact hpasses.leaveMatches_eq hne hframes hframes'

/-- Frames that are run and have nothing pending leave the matches as they found them. -/
theorem Evaluates.matched (hm : m.Coherent) (h : m.Evaluates outs n)
    (hidle : ∀ f ∈ m.frames.take outs.length, f.pending = []) :
    n.registers.matched = m.registers.matched := by
  induction h with
  | start => rfl
  | @next outs m₁ m₂ n f f' rest o others hevaluates hframes _ _ hwithin hlast hread hpending _
      hstep _ _ _ ih =>
    rw [List.length_append, List.length_singleton, List.take_add_one] at hidle
    have hf : f ∈ (m.frames[outs.length]?).toList := by
      rw [← List.head?_drop, ← hevaluates.frames, hframes]
      exact List.mem_singleton_self f
    have hsame := ih fun f₁ hf₁ => hidle f₁ (List.mem_append_left _ hf₁)
    obtain ⟨k, hlead⟩ := hevaluates.leads
    have hcoherent : m₁.Coherent := hlead.keeps (fun _ _ h hstep => h.step.of_ok _ hstep) hm
    obtain ⟨up, hup, -, hleft⟩ := hwithin.leaveMatches hcoherent
    obtain rfl : up = [f'] := List.append_cancel_right (hup.symm.trans hlast)
    obtain ⟨hpre, hpost⟩ := List.append_eq_nil_iff.1 hpending
    cases (step_pop hlast hpre hread hpost).symm.trans hstep
    rw [Frame.leaveMatches_of_pending hpending,
      Frame.leaveMatches_of_pending (hidle f (List.mem_append_right _ hf)), hsame] at hleft
    exact hleft

end Machine

end Wordsmith
