import Wordsmith.Proofs.Reach

/-!
# How steps move between frames

As far as the frames and the results go, there are five things that a step can do. It goes on in its
frame, perhaps with code on top that prints to the same output. It postpones an action and puts
frames on top, each with an output of its own, whose results the action is going to use up. It ends
the innermost frame, whose output becomes a result if it has one of its own. Or it cuts off all
frames down to the one that the innermost block is in.

Main result: `Step.moves`, every step is one of these.
-/

namespace Wordsmith

namespace Deferred

/-- The action takes something back at the end of a frame. -/
def IsLate : Deferred → Prop
  | advance _ | restore _ | leaveMatch => True
  | _ => False

/-- The action uses up one result for every passage that is begun for it, and these are the
arguments that are evaluated, or the code once for every match, in this order. -/
inductive Asks (literals : Bool) : Deferred → List Opening → Prop
  | await {action : Deferred} {ps : List Passage} (h : action.Awaits literals ps) (hps : ps ≠ []) :
      Asks literals action (ps.map (⟨·, true, [], []⟩))
  | matches {regex : Regex} {code : Passage} {text : String} {found : List Regex.Match}
      (hall : regex.allMatches text = found) (hfound : found ≠ []) :
      Asks literals (.join text (found.map fun m => (m.start, m.stop)))
        (found.map fun m => ⟨code, true, [.enterMatch m], [.leaveMatch]⟩)

theorem Awaits.uses_eq {literals : Bool} {action : Deferred} {ps : List Passage}
    (h : action.Awaits literals ps) : action.uses = ps.length := by
  cases h with
  | callTag => exact Slot.countP_prepare ..
  | callSubroutine => exact Slot.countP_prepare ..
  | define | runPrinted | evaluate | replace => rfl

theorem Asks.uses_eq {literals : Bool} {action : Deferred} {os : List Opening}
    (h : action.Asks literals os) : action.uses = os.length := by
  cases h with
  | await h => rw [h.uses_eq, List.length_map]
  | «matches» => simp [uses]

theorem Asks.ne_nil {literals : Bool} {action : Deferred} {os : List Opening}
    (h : action.Asks literals os) : os ≠ [] := by
  cases h with
  | await _ hps => simpa using hps
  | «matches» _ hfound => simpa using hfound

theorem IsLate.uses_eq_zero {action : Deferred} (h : action.IsLate) : action.uses = 0 := by
  cases action with
  | advance | restore | leaveMatch => rfl
  | _ => exact h.elim

theorem IsReady.uses_eq_zero {action : Deferred} (h : action.IsReady) : action.uses = 0 := by
  cases action with
  | callTag | callSubroutine => exact h
  | _ => exact h.elim

theorem Undoes.usesOf_eq_zero {r : Registers} {action : Deferred} (h : action.Undoes r) :
    usesOf (some action) = 0 := by
  cases action with
  | dropArguments | iterate | restore | enterMatch | leaveMatch | finish => rfl
  | _ => exact h.elim

end Deferred

namespace Frame

/-- The results that the next action uses up, if one is due before the next token. -/
def uses (f : Frame) : Nat := Deferred.usesOf f.pre.head?

theorem uses_eq_zero {f : Frame} (h : f.pre = []) : f.uses = 0 := by
  rw [uses, h]
  rfl

/-- No more than one action is due before the next token, and those behind the tokens only take
something back. -/
structure Neat (f : Frame) : Prop where
  pre : f.pre.length ≤ 1
  post : ∀ a ∈ f.post, a.IsLate

theorem Neat.defer {f : Frame} (h : f.Neat) (hpre : f.pre = []) (action : Deferred) :
    Neat { f with pre := action :: f.pre } :=
  ⟨by simp [hpre], h.post⟩

/-- The frame has gone on. -/
structure Continues (f f' : Frame) : Prop where
  id : f'.id = f.id
  owns : f'.owns = f.owns
  mark : f'.mark = f.mark

theorem Continues.refl (f : Frame) : f.Continues f := ⟨rfl, rfl, rfl⟩

theorem Continues.trans {f₁ f₂ f₃ : Frame} (h : f₁.Continues f₂) (h' : f₂.Continues f₃) :
    f₁.Continues f₃ := ⟨h'.id.trans h.id, h'.owns.trans h.owns, h'.mark.trans h.mark⟩

theorem Gives.continues {f f' : Frame} {due : Option Deferred} (h : f.Gives due f') :
    f.Continues f' := by
  cases h <;> exact ⟨rfl, rfl, rfl⟩

/-- What a frame gives up was all that was due before the next token, and says how many results are
used up. -/
theorem Gives.neat {f f' : Frame} {due : Option Deferred} (h : f.Gives due f') (hf : f.Neat) :
    f'.Neat ∧ f'.pre = [] ∧ Deferred.usesOf due = f.uses := by
  cases h with
  | @pre action pre hpre =>
    have hlength := hf.pre
    rw [hpre, List.length_cons] at hlength
    have hnone : pre = [] := List.length_eq_zero_iff.1 (by omega)
    refine ⟨⟨by simp [hnone], hf.post⟩, hnone, ?_⟩
    rw [uses, hpre]
    rfl
  | token hpre =>
    refine ⟨⟨hf.pre, hf.post⟩, hpre, ?_⟩
    rw [uses, hpre]
    rfl
  | call hpre _ hready =>
    refine ⟨⟨hf.pre, hf.post⟩, hpre, ?_⟩
    rw [uses, hpre]
    exact hready.uses_eq_zero
  | @post action post hpre _ hpost =>
    have hlate := hf.post
    rw [hpost] at hlate
    refine ⟨⟨hf.pre, fun a ha => hlate a (List.mem_cons_of_mem _ ha)⟩, hpre, ?_⟩
    rw [uses, hpre]
    exact (hlate action List.mem_cons_self).uses_eq_zero

end Frame

/-! ## Fresh frames -/

/-- The action comes before the tokens of a frame. -/
def Deferred.IsPrelude : Deferred → Prop
  | suppress _ | enterMatch _ => True
  | _ => False

/-- The frame has not begun, and waits for nothing. -/
structure Frame.Fresh (f : Frame) : Prop where
  neat : f.Neat
  prelude : ∀ a ∈ f.pre, a.IsPrelude

namespace Frame

theorem Fresh.uses_eq_zero {f : Frame} (h : f.Fresh) : f.uses = 0 := by
  cases hpre : f.pre with
  | nil =>
    rw [uses, hpre]
    rfl
  | cons action =>
    have hprelude := h.prelude action (by simp [hpre])
    rw [uses, hpre]
    cases action with
    | suppress | enterMatch => rfl
    | _ => exact hprelude.elim

/-- No block is repeated in a frame that has not begun. -/
theorem Fresh.pre_ne_iterate {f : Frame} (h : f.Fresh) (id : Nat) : f.pre ≠ [.iterate id] :=
  fun hpre => h.prelude (.iterate id) (by simp [hpre])

end Frame

namespace Opening

/-- Passages are begun in fresh frames. -/
def IsFresh (o : Opening) : Prop := ∀ id mark, (o.frame id mark).Fresh

theorem isFresh_idle (p : Passage) (owns : Bool) : IsFresh ⟨p, owns, [], []⟩ := fun id mark =>
  ⟨⟨by simp [frame], by simp [frame]⟩, by simp [frame]⟩

theorem isFresh_map_idle (ps : List Passage) (owns : Bool) :
    ∀ o ∈ ps.map (⟨·, owns, [], []⟩ : Passage → Opening), o.IsFresh ∧ o.owns = owns := by
  intro o ho
  obtain ⟨p, -, rfl⟩ := List.mem_map.1 ho
  exact ⟨isFresh_idle p owns, rfl⟩

/-- The frames in which passages begin, the first of them innermost and the last one begun first. -/
def frames (id mark : Nat) : List Opening → List Frame
  | [] => []
  | o :: os => o.frame (id + os.length) mark :: frames id mark os

@[simp]
theorem length_frames (id mark : Nat) (os : List Opening) :
    (frames id mark os).length = os.length := by
  induction os with
  | nil => rfl
  | cons o os ih => simp [frames, ih]

theorem mem_frames {id mark : Nat} {os : List Opening} {f : Frame} (h : f ∈ frames id mark os) :
    ∃ o ∈ os, ∃ i, f = o.frame i mark := by
  induction os with
  | nil => simp [frames] at h
  | cons o os ih =>
    rcases List.mem_cons.1 h with rfl | h
    · exact ⟨o, List.mem_cons_self, _, rfl⟩
    · obtain ⟨o', ho', hf⟩ := ih h
      exact ⟨o', List.mem_cons_of_mem o ho', hf⟩

end Opening

theorem Repeater.isFresh_openings (r : Repeater) (item : Option Passage) :
    ∀ o ∈ r.openings item, o.IsFresh ∧ o.owns = false := by
  intro o ho
  simp only [openings, List.mem_append, List.mem_map] at ho
  rcases ho with ((⟨p, -, rfl⟩ | ⟨p, -, rfl⟩) | ⟨p, -, rfl⟩) | ⟨p, -, rfl⟩
  · exact ⟨fun id mark => ⟨⟨by simp [Opening.frame], by simp [Opening.frame, Deferred.IsLate]⟩,
      by simp [Opening.frame, Deferred.IsPrelude]⟩, rfl⟩
  · exact ⟨fun id mark => ⟨⟨by simp [Opening.frame], by simp [Opening.frame, Deferred.IsLate]⟩,
      by simp [Opening.frame]⟩, rfl⟩
  · refine ⟨fun id mark => ⟨⟨by simp [Opening.frame], ?_⟩, by simp [Opening.frame]⟩, rfl⟩
    dsimp only [Opening.frame]
    split <;> simp [Deferred.IsLate]
  · exact ⟨Opening.isFresh_idle p false, rfl⟩

theorem Deferred.Asks.isFresh {literals : Bool} {action : Deferred} {os : List Opening}
    (h : action.Asks literals os) : ∀ o ∈ os, o.IsFresh ∧ o.owns = true := by
  cases h with
  | await => exact Opening.isFresh_map_idle _ true
  | «matches» =>
    intro o ho
    obtain ⟨m, -, rfl⟩ := List.mem_map.1 ho
    exact ⟨fun id mark => ⟨⟨by simp [Opening.frame], by simp [Opening.frame, Deferred.IsLate]⟩,
      by simp [Opening.frame, Deferred.IsPrelude]⟩, rfl⟩

/-! ## Moves -/

namespace Stage

variable {x y : Stage}

theorem enterAll_singleton (x : Stage) (o : Opening) : x.enterAll [o] = x.enter o := rfl

theorem enterAll_reverse_cons (x : Stage) (o : Opening) (os : List Opening) :
    x.enterAll (o :: os).reverse = (x.enterAll os.reverse).enter o := by
  rw [List.reverse_cons, enterAll_append]
  rfl

/-- The frames of passages that are begun from the last one to the first. -/
theorem enterAll_reverse (x : Stage) (os : List Opening) :
    (x.enterAll os.reverse).frames =
        Opening.frames x.nextId x.results.length os ++ x.frames ∧
      (x.enterAll os.reverse).nextId = x.nextId + os.length ∧
      (x.enterAll os.reverse).results = x.results := by
  induction os with
  | nil => exact ⟨rfl, rfl, rfl⟩
  | cons o os ih =>
    obtain ⟨hframes, hid, hresults⟩ := ih
    rw [enterAll_reverse_cons]
    refine ⟨?_, ?_, hresults⟩
    · simp only [enter, hframes, hid, hresults, Opening.frames, List.cons_append]
    · simp only [enter, hid, List.length_cons]
      omega

theorem outputs_enterAll_shared (x : Stage) {os : List Opening} (hos : ∀ o ∈ os, o.owns = false) :
    (x.enterAll os).outputs = x.outputs := by
  induction os generalizing x with
  | nil => rfl
  | cons o os ih =>
    obtain ⟨ho, hos⟩ := List.forall_mem_cons.1 hos
    rw [enterAll_cons, ih _ hos]
    simp [enter, ho]

theorem outputs_enterAll_own (x : Stage) {os : List Opening} (hos : ∀ o ∈ os, o.owns = true) :
    (x.enterAll os.reverse).outputs = List.replicate os.length .initial ++ x.outputs := by
  induction os with
  | nil => rfl
  | cons o os ih =>
    obtain ⟨ho, hos⟩ := List.forall_mem_cons.1 hos
    rw [enterAll_reverse_cons]
    simp [enter, ho, ih hos, List.replicate_succ]

/-- What becomes of a stage with the innermost frame `f` over the frames `below`, after `k` results
have been used up. -/
inductive Moves (literals : Bool) (x : Stage) (k : Nat) (f : Frame) (below : List Frame) :
    Stage → Prop
  /-- The frame goes on, with fresh frames on top that print to the same output. -/
  | stay {y : Stage} {f' : Frame} {up : List Frame} {o : ChannelStack} (hf : f.Continues f')
      (hneat : f'.Neat) (huses : f'.uses = 0) (hframes : y.frames = up ++ f' :: below)
      (hup : ∀ g ∈ up, g.Fresh ∧ g.owns = false ∧ g.mark = y.results.length)
      (houtputs : y.outputs = o :: x.outputs.tail) (hresults : y.results = x.results.drop k) :
      Moves literals x k f below y
  /-- An action is postponed until the frames on top are over. -/
  | postpone {y : Stage} {f' : Frame} {action : Deferred} {os : List Opening}
      (hf : f.Continues f') (hneat : f'.Neat) (hpre : f'.pre = [action])
      (hasks : action.Asks literals os)
      (hframes : y.frames = Opening.frames x.nextId y.results.length os ++ f' :: below)
      (houtputs : y.outputs = List.replicate os.length .initial ++ x.outputs)
      (hresults : y.results = x.results.drop k) : Moves literals x k f below y
  /-- The frame ends, and what it printed becomes a result. -/
  | finish {y : Stage} (howns : f.owns = true) (hpending : f.pending = [])
      (hread : f.reader.read? = none) (hframes : y.frames = below)
      (houtputs : y.outputs = x.outputs.tail)
      (hresults : y.results = x.scene.output.output :: x.results) : Moves literals x k f below y
  /-- The frame ends, and what it printed stays in the output of the one below. -/
  | pop {y : Stage} (howns : f.owns = false) (hpending : f.pending = [])
      (hframes : y.frames = below) (houtputs : y.outputs = x.outputs)
      (hresults : y.results = x.results) : Moves literals x k f below y
  /-- Frames are cut off down to one in which a block is repeated. -/
  | cut {y : Stage} {dropped kept : List Frame} {base : Frame} {id : Nat}
      (hbelow : below = dropped ++ base :: kept) (hpre : base.pre = [.iterate id])
      (hframes : y.frames = base :: kept)
      (houtputs : y.outputs = x.outputs.drop ((f :: dropped).countP (·.owns)))
      (hresults : y.results = (x.results.drop k).drop ((x.results.drop k).length -
        (((f :: dropped).getLast (List.cons_ne_nil _ _)).mark))) :
      Moves literals x k f below y

variable {literals : Bool} {k : Nat} {f f' : Frame} {below : List Frame} {due : Option Deferred}

/-- Fresh frames on top of the innermost one. -/
theorem moves_enterAll {z : Stage} {o : ChannelStack} {os : List Opening} (hf : f.Continues f')
    (hneat : f'.Neat) (huses : f'.uses = 0) (hframes : z.frames = f' :: below)
    (houtputs : z.outputs = o :: x.outputs.tail) (hresults : z.results = x.results.drop k)
    (hos : ∀ o ∈ os, o.IsFresh ∧ o.owns = false) :
    x.Moves literals k f below (z.enterAll os) := by
  have hreverse : ∀ o ∈ os.reverse, o.IsFresh ∧ o.owns = false := fun o ho =>
    hos o (List.mem_reverse.1 ho)
  obtain ⟨hentered, -, hsame⟩ := z.enterAll_reverse os.reverse
  rw [List.reverse_reverse] at hentered hsame
  rw [hframes] at hentered
  refine .stay (o := o) hf hneat huses hentered (fun g hg => ?_) ?_ (hsame.trans hresults)
  · obtain ⟨o, ho, id, rfl⟩ := Opening.mem_frames hg
    obtain ⟨hfresh, howns⟩ := hreverse o ho
    exact ⟨hfresh _ _, howns, congrArg _ hsame.symm⟩
  · exact (z.outputs_enterAll_shared fun o ho => (hos o ho).2).trans houtputs

/-- The innermost frame alone. -/
theorem moves_self {z : Stage} {o : ChannelStack} (hf : f.Continues f') (hneat : f'.Neat)
    (huses : f'.uses = 0) (hframes : z.frames = f' :: below)
    (houtputs : z.outputs = o :: x.outputs.tail) (hresults : z.results = x.results.drop k) :
    x.Moves literals k f below z := by
  rw [← z.enterAll_nil]
  exact moves_enterAll hf hneat huses hframes houtputs hresults (List.forall_mem_nil _)

/-- The innermost frame with an action deferred, and fresh frames on top. -/
theorem moves_defer {z : Stage} {o : ChannelStack} {action : Deferred} {os : List Opening}
    (hf : f.Continues f') (hneat : f'.Neat) (hpre : f'.pre = []) (huses : action.uses = 0)
    (hframes : z.frames = f' :: below) (houtputs : z.outputs = o :: x.outputs.tail)
    (hresults : z.results = x.results.drop k) (hos : ∀ o ∈ os, o.IsFresh ∧ o.owns = false) :
    x.Moves literals k f below ((z.defer action).enterAll os) := by
  have hgone : f.Continues { f' with pre := action :: f'.pre } := ⟨hf.id, hf.owns, hf.mark⟩
  refine moves_enterAll hgone (hneat.defer hpre action) huses ?_ houtputs hresults hos
  simp [Stage.defer, hframes]

/-- The innermost frame with an action deferred that waits for the frames on top. -/
theorem moves_postpone {z : Stage} {action : Deferred} {os : List Opening}
    (hf : f.Continues f') (hneat : f'.Neat) (hpre : f'.pre = []) (hasks : action.Asks literals os)
    (hframes : z.frames = f' :: below) (hid : z.nextId = x.nextId)
    (houtputs : z.outputs = x.outputs) (hresults : z.results = x.results.drop k) :
    x.Moves literals k f below ((z.defer action).enterAll os.reverse) := by
  obtain ⟨hentered, -, hsame⟩ := (z.defer action).enterAll_reverse os
  have hdefer : (z.defer action).frames = { f' with pre := action :: f'.pre } :: below := by
    simp [Stage.defer, hframes]
  rw [hdefer, show (z.defer action).nextId = x.nextId from hid] at hentered
  have hgone : f.Continues { f' with pre := action :: f'.pre } := ⟨hf.id, hf.owns, hf.mark⟩
  refine .postpone hgone (hneat.defer hpre action) (congrArg _ hpre) hasks (hsame ▸ hentered) ?_
    (hsame.trans hresults)
  rw [outputs_enterAll_own _ fun o ho => (hasks.isFresh o ho).2]
  exact congrArg _ houtputs

/-- No two frames have the same id. -/
theorem Coherent.eq_of_id (h : x.Coherent due) {f g : Frame} (hf : f ∈ x.frames)
    (hg : g ∈ x.frames) (hid : f.id = g.id) : f = g := by
  have hids := List.pairwise_iff_getElem.1 (List.pairwise_map.1 h.ids)
  obtain ⟨i, hi, rfl⟩ := List.getElem_of_mem hf
  obtain ⟨j, hj, rfl⟩ := List.getElem_of_mem hg
  rcases Nat.lt_trichotomy i j with hlt | rfl | hlt
  · exact absurd hid (Nat.ne_of_gt (hids i j hi hj hlt))
  · rfl
  · exact absurd hid (Nat.ne_of_lt (hids j i hj hi hlt))

/-- Only a frame in which a block is repeated is the base of the innermost repeater. -/
theorem Coherent.pre_base (h : x.Coherent due) (hdue : ∀ a ∈ due, ∀ id, a ≠ .iterate id)
    {r : Repeater} {others : List Repeater} (hr : x.registers.repeaters = r :: others)
    {base : Frame} (hbase : base ∈ x.frames) (hid : base.id = r.base) (hneat : base.Neat) :
    base.pre = [.iterate r.id] := by
  have hplaces : x.registers.places = r.place :: others.map Repeater.place := by
    rw [Registers.places, hr, List.map_cons]
  rcases List.mem_append.1 (h.unwinds.mem_iterate hplaces) with hmem | hmem
  · obtain ⟨a, ha, heq⟩ := List.mem_map.1 hmem
    exact absurd (congrArg Prod.snd heq) (hdue a (Option.mem_toList.1 ha) _)
  · obtain ⟨g, hg, hpending⟩ := List.mem_flatMap.1 hmem
    obtain ⟨a, ha, heq⟩ := List.mem_map.1 hpending
    have hsame : g = base := h.eq_of_id hg hbase ((congrArg Prod.fst heq).trans hid.symm)
    obtain rfl : a = .iterate r.id := congrArg Prod.snd heq
    subst hsame
    rcases List.mem_append.1 ha with hpre | hpost
    · obtain ⟨a, pre, heq⟩ := List.exists_cons_of_ne_nil (List.ne_nil_of_mem hpre)
      have hlength := hneat.pre
      rw [heq, List.length_cons] at hlength
      obtain rfl : pre = [] := List.length_eq_zero_iff.1 (by omega)
      rw [heq, List.mem_singleton] at hpre
      rw [heq, hpre]
    · exact (hneat.post _ hpost).elim

/-- Where the innermost frame goes on, nothing is cut off, and otherwise all frames down to one in
which a block is repeated. -/
theorem Leaves.moves {z : Stage} (hleaves : z.Leaves y) (h : z.Coherent none)
    (hf : f.Continues f') (hneat : f'.Neat) (hpre : f'.pre = []) (hbelow : ∀ g ∈ below, g.Neat)
    (hframes : z.frames = f' :: below) (houtputs : z.outputs = x.outputs)
    (hresults : z.results = x.results.drop k) : x.Moves literals k f below y := by
  obtain ⟨o, os, ho⟩ := List.exists_cons_of_ne_nil (h.outputs_ne_nil (by simp [hframes]))
  have huses : f'.uses = 0 := Frame.uses_eq_zero hpre
  have htop : z.outputs = o :: x.outputs.tail := by rw [← houtputs, ho, List.tail_cons]
  cases hleaves with
  | idle => exact moves_self hf hneat huses hframes htop hresults
  | lost => exact moves_self hf hneat huses hframes htop hresults
  | @cut r others dropped kept base hr hcut hbase hdropped =>
    cases dropped with
    | nil =>
      exact moves_self hf hneat huses (hcut.symm.trans hframes) htop hresults
    | cons d dropped =>
      obtain ⟨rfl, hrest⟩ := List.cons.inj (hframes.symm.trans hcut)
      have hmem : base ∈ below := by simp [hrest]
      have hiterate : base.pre = [.iterate r.id] :=
        h.pre_base (by simp) hr (by simp [hcut]) hbase (hbelow base hmem)
      refine .cut hrest hiterate rfl ?_ ?_
      · simp only [houtputs, List.countP_cons, hf.owns]
      · have hlast : ((f' :: dropped).getLast (List.cons_ne_nil _ _)).mark =
            ((f :: dropped).getLast (List.cons_ne_nil _ _)).mark := by
          cases dropped with
          | nil => exact hf.mark
          | cons => rfl
        simp only [List.getLast?_eq_some_getLast (List.cons_ne_nil f' dropped), hlast, hresults]

/-- An effect on a stage whose innermost frame has given up what was due. -/
theorem Effect.moves (heffect : Effect literals { x with frames := f' :: below } due y)
    (h : Coherent due { x with frames := f' :: below }) (hf : f.Continues f') (hneat : f'.Neat)
    (hpre : f'.pre = []) (hbelow : ∀ g ∈ below, g.Neat) :
    x.Moves literals (Deferred.usesOf due) f below y := by
  have houtputs : x.outputs ≠ [] := h.outputs_ne_nil (List.cons_ne_nil _ _)
  obtain ⟨o, os, ho⟩ := List.exists_cons_of_ne_nil houtputs
  have htop : x.outputs = o :: x.outputs.tail := by rw [ho, List.tail_cons]
  have huses : f'.uses = 0 := Frame.uses_eq_zero hpre
  have hidle : ∀ code : Option Passage,
      ∀ o ∈ code.toList.map (⟨·, false, [], []⟩ : Passage → Opening), o.IsFresh ∧ o.owns = false :=
    fun code => Opening.isFresh_map_idle code.toList false
  cases heffect with
  | act => exact moves_self hf hneat huses rfl rfl rfl
  | @run _ _ p =>
    rw [← enterAll_singleton]
    exact moves_enterAll hf hneat huses rfl rfl rfl (hidle (some p))
  | @runThen _ _ _ _ q code =>
    exact moves_defer hf hneat hpre (by cases q <;> rfl) rfl rfl rfl (hidle code)
  | @compare _ _ _ _ code => exact moves_defer hf hneat hpre rfl rfl htop rfl (hidle code)
  | @call called =>
    rw [← enterAll_singleton]
    exact moves_defer hf hneat hpre rfl rfl htop rfl (hidle (some called.body))
  | @leave _ _ slots _ hleaves =>
    have hspent := h.spend (Deferred.isNeutral_callTag ..) (slots.countP (·.isEvaluated))
    exact hleaves.moves hspent hf hneat hpre hbelow rfl rfl rfl
  | undo hundoes => exact moves_self hf hneat huses rfl htop (by rw [hundoes.usesOf_eq_zero]; rfl)
  | advance => exact moves_self hf hneat huses rfl htop rfl
  | suppress => exact moves_self hf hneat huses rfl htop rfl
  | gone => exact moves_self hf hneat huses rfl htop rfl
  | @iterate r _ item =>
    exact moves_defer hf hneat hpre rfl rfl rfl rfl (r.isFresh_openings item)
  | block =>
    rw [startBlock, ← enterAll_nil (defer _ _)]
    exact moves_defer hf hneat hpre rfl rfl rfl rfl (List.forall_mem_nil _)
  | @await action ps hawaits hps =>
    rw [List.map_reverse]
    exact moves_postpone hf hneat hpre (.await hawaits hps) rfl rfl rfl rfl
  | @«matches» _ code _ _ found _ hall hfound =>
    rw [List.map_reverse]
    exact moves_postpone hf hneat hpre (.matches hall hfound) rfl rfl rfl rfl

/-- Every step is a move of the innermost frame. -/
theorem Step.moves (hstep : x.Step literals y) (h : x.Coherent none)
    (hframes : x.frames = f :: below) (hneat : ∀ g ∈ x.frames, g.Neat) :
    x.Moves literals f.uses f below y := by
  rw [hframes] at hneat
  obtain ⟨hf, hbelow⟩ := List.forall_mem_cons.1 hneat
  cases hstep with
  | go hx hgives heffect =>
    obtain ⟨rfl, rfl⟩ := List.cons.inj (hframes.symm.trans hx)
    obtain ⟨hneat', hpre, huses⟩ := hgives.neat hf
    rw [← huses]
    exact heffect.moves (h.give hx hgives) hgives.continues hneat' hpre hbelow
  | pop hx hpre hread hpost =>
    obtain ⟨rfl, rfl⟩ := List.cons.inj (hframes.symm.trans hx)
    have hpending : f.pending = [] := by rw [Frame.pending, hpre, hpost, List.append_nil]
    cases howns : f.owns with
    | true =>
      refine .finish howns hpending hread ?_ ?_ ?_
      all_goals simp [Stage.pop, hframes, howns]
    | false =>
      refine .pop howns hpending ?_ ?_ ?_
      all_goals simp [Stage.pop, hframes, howns]

end Stage

end Wordsmith
