import Wordsmith.Proofs.Likeness.Machines
import Wordsmith.Proofs.Literals.Strata
import Wordsmith.Proofs.Stepping

/-!
# Machines with and without frames of plain arguments

Two machines are twins if their innermost frames do the same, the strata below lie level, and they
print to the same output in registers that differ in nothing but ids. So each operation of the one is
followed by the same operation of the other, with the same error if it fails; only the second may be
too deep before.

The ids of both machines have nothing to do with each other. An action that names a repeater always
names the innermost one, and a block is left down to the first frame that goes on with repetitions,
since both machines are coherent.

Main results: `Machine.Rest`, what operations keep, with one lemma an operation; `pushes_of_le`, and
`Machine.Rest.leave`.
-/

namespace Wordsmith

/-! ## The innermost repeater -/

namespace Registers

/-- The innermost repeater is the only one with an id. -/
def Innermost (r : Registers) (id : Nat) : Prop :=
  ∃ p others, r.places = p :: others ∧ p.id = id ∧ ∀ q ∈ others, q.id ≠ id

variable {r r' : Registers} {id : Nat}

/-- Along what is pending, the innermost repeater is gone on with when it is the only one with its
id. -/
theorem Unwinds.innermost {l : List (Nat × Deferred)} (h : r.Unwinds l) {p : Repeater.Place}
    {others : List Repeater.Place} (hplaces : r.places = p :: others) : r.Innermost p.id := by
  induction l generalizing r with
  | nil =>
    have hnone : r.places = [] := List.map_eq_nil_iff.2 (show r.Idle from h).repeaters
    exact absurd (hnone.symm.trans hplaces) (by simp)
  | cons q l ih =>
    obtain ⟨base, action⟩ := q
    by_cases hiterate : ∃ id, action = .iterate id
    · obtain ⟨id, rfl⟩ := hiterate
      obtain ⟨size, others', hplaces', hothers⟩ := h.1
      rw [hplaces] at hplaces'
      cases hplaces'
      exact ⟨_, _, hplaces, rfl, hothers⟩
    · have hsame : (r.undo action).places = r.places :=
        r.places_undo_eq fun id hid => hiterate ⟨id, hid⟩
      obtain ⟨p', others', hplaces', hid, hothers⟩ := ih h.2 (hsame.trans hplaces)
      exact ⟨p', others', hsame.symm.trans hplaces', hid, hothers⟩

theorem Alike.innermost (h : r.Alike r') (hr : r.Innermost id) : r'.Innermost id := by
  rwa [Innermost, h.places]

namespace Innermost

theorem exists_repeaters (h : r.Innermost id) :
    ∃ x others, r.repeaters = x :: others ∧ x.id = id ∧ ∀ y ∈ others, y.id ≠ id := by
  obtain ⟨p, rest, hplaces, hid, hothers⟩ := h
  obtain ⟨x, others, hrepeaters, rfl, rfl⟩ := List.map_eq_cons_iff.1 hplaces
  exact ⟨x, others, hrepeaters, hid, fun y hy => hothers y.place (List.mem_map_of_mem hy)⟩

theorem modifyRepeater_eq (h : r.Innermost id) (f : Repeater → Repeater) :
    r.modifyRepeater id f = { r with repeaters := r.repeaters.modifyHead f } := by
  obtain ⟨x, others, hrepeaters, hid, hothers⟩ := h.exists_repeaters
  have hkept : others.map (fun y => if y.id = id then f y else y) = others :=
    (List.map_congr_left fun y hy => if_neg (hothers y hy)).trans (List.map_id _)
  simp [modifyRepeater, hrepeaters, hid, hkept]

theorem removeRepeater_eq (h : r.Innermost id) :
    r.removeRepeater id = { r with repeaters := r.repeaters.tail } := by
  obtain ⟨x, others, hrepeaters, hid, hothers⟩ := h.exists_repeaters
  have hkept : others.filter (·.id != id) = others :=
    List.filter_eq_self.2 fun y hy => by simpa using hothers y hy
  simp [removeRepeater, hrepeaters, hid, hkept]

theorem findRepeater?_eq (h : r.Innermost id) : r.findRepeater? id = r.repeater? := by
  obtain ⟨x, others, hrepeaters, hid, -⟩ := h.exists_repeaters
  simp [findRepeater?, repeater?, hrepeaters, hid]

end Innermost

namespace Twin

theorem withRepeaters (h : r.Twin r') {l l' : List Repeater}
    (hl : List.Forall₂ Repeater.Twin l l') :
    Twin { r with repeaters := l } { r' with repeaters := l' } := by
  cases h with
  | intro _ hlimit hlimit' => exact .intro hl hlimit hlimit'

theorem modifyHead (h : r.Twin r') {f : Repeater → Repeater}
    (hf : ∀ x y : Repeater, x.Twin y → (f x).Twin (f y)) :
    Twin { r with repeaters := r.repeaters.modifyHead f }
      { r' with repeaters := r'.repeaters.modifyHead f } := by
  refine h.withRepeaters ?_
  have hall := h.repeaters
  generalize r.repeaters = l, r'.repeaters = l' at hall
  cases hall with
  | nil => exact .nil
  | cons hx hrest => exact .cons (hf _ _ hx) hrest

theorem tail (h : r.Twin r') :
    Twin { r with repeaters := r.repeaters.tail } { r' with repeaters := r'.repeaters.tail } := by
  refine h.withRepeaters ?_
  have hall := h.repeaters
  generalize r.repeaters = l, r'.repeaters = l' at hall
  cases hall with
  | nil => exact .nil
  | cons _ hrest => exact hrest

end Twin

end Registers

namespace Repeater.Twin

variable {x y : Repeater}

theorem isFinished_eq (h : x.Twin y) : y.isFinished = x.isFinished := by
  cases h
  rfl

theorem finish (h : x.Twin y) : x.finish.Twin y.finish := by
  cases h
  exact .intro _ _

theorem advance (h : x.Twin y) : x.advance.Twin y.advance := by
  unfold Repeater.advance
  rw [h.isFinished_eq]
  split
  · exact h
  · cases h
    exact .intro _ _

theorem suppress (h : x.Twin y) : x.suppress.Twin y.suppress := by
  cases h
  exact .intro _ _

theorem restore (h : x.Twin y) : x.restore.Twin y.restore := by
  cases h
  exact .intro _ _

end Repeater.Twin

/-- The action is of the innermost repeater, and does not end it. -/
def Deferred.StaysIn (r : Registers) : Deferred → Prop
  | iterate _ => False
  | restore id => r.Innermost id
  | _ => True

namespace Deferred.StaysIn

variable {r r' : Registers} {a : Deferred}

theorem alike (ha : a.StaysIn r) (h : r.Alike r') : a.StaysIn r' := by
  cases a with
  | iterate => exact ha
  | restore => exact h.innermost ha
  | _ => trivial

/-- What is undone for it takes no repeater away. -/
theorem undo {b : Deferred} (hb : b.StaysIn r) (ha : a.StaysIn r) : b.StaysIn (r.undo a) := by
  have hsame : (r.undo a).places = r.places := r.places_undo_eq fun id hid => by
    rw [hid] at ha
    exact ha
  cases b with
  | iterate => exact hb
  | restore => rwa [StaysIn, Registers.Innermost, hsame]
  | _ => trivial

end Deferred.StaysIn

namespace Registers.Twin

variable {r r' : Registers}

theorem undo (h : r.Twin r') {a a' : Deferred} (hkin : a.Kin a') (ha : a.StaysIn r)
    (ha' : a'.StaysIn r') : (r.undo a).Twin (r'.undo a') := by
  have restored : ∀ i j, r.Innermost i → r'.Innermost j →
      (r.undo (.restore i)).Twin (r'.undo (.restore j)) := by
    intro i j hi hj
    rw [Registers.undo, Registers.undo, hi.modifyRepeater_eq, hj.modifyRepeater_eq]
    exact h.modifyHead fun _ _ => Repeater.Twin.restore
  cases hkin with
  | twin htwin =>
    cases htwin with
    | same hnone =>
      cases a with
      | iterate | advance | suppress | restore => exact absurd trivial hnone
      | finish q =>
        cases q with
        | merge => exact h.change (f := (·.undo (.finish .merge))) fun _ _ _ => rfl
        | dropComparison =>
          exact h.change (f := (·.undo (.finish .dropComparison))) fun _ _ _ => rfl
        | _ => exact h
      | dropArguments => exact h.change (f := (·.undo .dropArguments)) fun _ _ _ => rfl
      | enterMatch m => exact h.change (f := (·.undo (.enterMatch m))) fun _ _ _ => rfl
      | leaveMatch => exact h.change (f := (·.undo .leaveMatch)) fun _ _ _ => rfl
      | _ => exact h
    | iterate => exact ha.elim
    | advance | suppress => exact h
    | restore => exact restored _ _ ha ha'
  | opens hopens =>
    cases hopens with
    | same hprinted =>
      cases a with
      | define | runPrinted | evaluate | replace | join => exact h
      | _ => exact hprinted.elim
    | callTag | callSubroutine => exact h

theorem undoAll (h : r.Twin r') {l l' : List Deferred} (hl : List.Forall₂ Deferred.Kin l l')
    (ha : ∀ a ∈ l, a.StaysIn r) (ha' : ∀ a ∈ l', a.StaysIn r') :
    (l.foldl Registers.undo r).Twin (l'.foldl Registers.undo r') := by
  induction hl generalizing r r' with
  | nil => exact h
  | @cons a a' l l' hkin _ ih =>
    obtain ⟨hfirst, hrest⟩ := List.forall_mem_cons.1 ha
    obtain ⟨hfirst', hrest'⟩ := List.forall_mem_cons.1 ha'
    exact ih (h.undo hkin hfirst hfirst') (fun b hb => (hrest b hb).undo hfirst)
      fun b hb => (hrest' b hb).undo hfirst'

end Registers.Twin

/-! ## What follows what -/

/-- The error says that the frames were too many. -/
def RunError.IsDeep (e : RunError) : Prop :=
  ∃ name position limit, e = .fault name position (.exceeded ⟨.stackDepth, limit⟩)

/-- The second computation does the same as the first, unless it is too deep. -/
inductive Follows {α β : Type} (R : α → β → Prop) : Except RunError α → Except RunError β → Prop
  | ok {a : α} {b : β} (h : R a b) : Follows R (.ok a) (.ok b)
  | error (e : RunError) : Follows R (.error e) (.error e)
  | deep (x : Except RunError α) {e : RunError} (h : e.IsDeep) : Follows R x (.error e)

namespace Follows

variable {α β γ δ : Type} {R : α → β → Prop} {T : γ → δ → Prop} {x : Except RunError α}
  {y : Except RunError β}

theorem pure {a : α} {b : β} (h : R a b) :
    Follows R (Pure.pure a : Except RunError α) (Pure.pure b : Except RunError β) := .ok h

theorem throw (e : RunError) : Follows R (MonadExcept.throw e : Except RunError α)
    (MonadExcept.throw e : Except RunError β) := .error e

theorem bind {f : α → Except RunError γ} {f' : β → Except RunError δ} (h : Follows R x y)
    (hf : ∀ a b, R a b → Follows T (f a) (f' b)) : Follows T (x >>= f) (y >>= f') := by
  cases h with
  | ok h => exact hf _ _ h
  | error e => exact .error e
  | deep _ h => exact .deep _ h

theorem weaken {S : α → β → Prop} (h : Follows R x y) (hRS : ∀ a b, R a b → S a b) :
    Follows S x y := by
  cases h with
  | ok h => exact .ok (hRS _ _ h)
  | error e => exact .error e
  | deep x h => exact .deep x h

/-- What both computations make sure of holds as well. -/
theorem ensures {P : α → Prop} {Q : β → Prop} (h : Follows R x y) (hx : Ensures x P)
    (hy : Ensures y Q) : Follows (fun a b => R a b ∧ P a ∧ Q b) x y := by
  cases h with
  | ok h => exact .ok ⟨h, hx.of_ok _ rfl, hy.of_ok _ rfl⟩
  | error e => exact .error e
  | deep x h => exact .deep x h

theorem ite {c : Prop} [Decidable c] {x' : Except RunError α} {y' : Except RunError β}
    (h : Follows R x y) (h' : Follows R x' y') :
    Follows R (if c then x else x') (if c then y else y') := by
  split
  · exact h
  · exact h'

end Follows

/-- The setting in which plain arguments are run like all others. -/
def Setting.evaluating (s : Setting) : Setting :=
  { s with shortcuts := { s.shortcuts with literals := false } }

theorem Tag.perform_evaluating (s : Setting) (source : String) (c : Call) (tag : Tag) :
    tag.perform s.evaluating source c = tag.perform s source c := by
  cases tag <;> rfl

/-! ## Passages that begin -/

namespace Machine

section Pushes

variable {s : Setting}

/-- Begins passages, each on top of the one before. -/
def pushes (m : Machine s) (os : List Opening) : Except RunError (Machine s) :=
  os.foldlM (fun m o => m.push o.passage o.owns o.pre o.post) m

theorem runApart_eq_pushes (m : Machine s) (ps : List Passage) :
    m.runApart ps = m.pushes (ps.map (⟨·, true, [], []⟩)).reverse := by
  rw [← List.map_reverse, pushes, List.foldlM_map]
  rfl

theorem exists_push_of_le {m : Machine s} (h : m.frames.length + 1 ≤ s.maxDepth) (o : Opening) :
    ∃ n, m.push o.passage o.owns o.pre o.post = .ok n ∧ n.frames.length = m.frames.length + 1 ∧
      n.blocks = m.blocks ∧ n.position = m.position :=
  ⟨_, push_eq_ok h _ _ _ _, rfl, rfl, rfl⟩

theorem exists_push_of_lt {m : Machine s} (h : s.maxDepth < m.frames.length + 1) (o : Opening) :
    ∃ e : RunError, m.push o.passage o.owns o.pre o.post = .error e ∧ e.IsDeep :=
  ⟨_, push_eq_error h _ _ _ _, _, _, _, rfl⟩

/-- The passages can be begun if the frames are not too many with them. -/
theorem pushes_of_le {os : List Opening} {m : Machine s}
    (h : m.frames.length + os.length ≤ s.maxDepth) :
    ∃ n, m.pushes os = .ok n ∧ n.blocks = m.blocks ∧ n.position = m.position := by
  induction os generalizing m with
  | nil => exact ⟨m, rfl, rfl, rfl⟩
  | cons o os ih =>
    rw [List.length_cons] at h
    have hle : m.frames.length + 1 ≤ s.maxDepth := by omega
    obtain ⟨n, hn, hlength, hblocks, hposition⟩ := exists_push_of_le hle o
    obtain ⟨n', hn', hblocks', hposition'⟩ := ih (m := n) (by omega)
    refine ⟨n', ?_, hblocks'.trans hblocks, hposition'.trans hposition⟩
    rw [pushes, List.foldlM_cons, hn]
    exact hn'

/-- They are too deep otherwise. -/
theorem pushes_of_lt {os : List Opening} {m : Machine s}
    (h : s.maxDepth < m.frames.length + os.length) :
    ∃ e : RunError, m.pushes os = .error e ∧ e.IsDeep := by
  induction os generalizing m with
  | nil => exact absurd m.frames_le (Nat.not_le.2 h)
  | cons o os ih =>
    rw [List.length_cons] at h
    by_cases hle : m.frames.length + 1 ≤ s.maxDepth
    · obtain ⟨n, hn, hlength, -⟩ := exists_push_of_le hle o
      obtain ⟨e, he, hdeep⟩ := ih (m := n) (by omega)
      refine ⟨e, ?_, hdeep⟩
      rw [pushes, List.foldlM_cons, hn]
      exact he
    · obtain ⟨e, he, hdeep⟩ := exists_push_of_lt (Nat.not_le.1 hle) o
      refine ⟨e, ?_, hdeep⟩
      rw [pushes, List.foldlM_cons, he]
      rfl

/-- What comes of it if the passages have outputs of their own. -/
theorem pushes_result {os : List Opening} {m n : Machine s} (h : m.pushes os.reverse = .ok n)
    (howns : ∀ o ∈ os, o.owns = true) :
    n.frames = Opening.frames m.nextId m.results.length os ++ m.frames ∧
      n.outputs = List.replicate os.length .initial ++ m.outputs ∧ n.results = m.results ∧
      n.registers = m.registers := by
  have hstage := (foldlM_push_stage id os.reverse m).of_ok n h
  rw [List.map_id] at hstage
  obtain ⟨hframes, -, hresults⟩ := m.stage.enterAll_reverse os
  refine ⟨(congrArg Stage.frames hstage).trans hframes,
    (congrArg Stage.outputs hstage).trans (m.stage.outputs_enterAll_own howns),
    (congrArg Stage.results hstage).trans hresults,
    (congrArg Stage.registers hstage).trans (Stage.registers_enterAll _ _)⟩

end Pushes

/-! ## Twins -/

variable {s : Setting} {m : Machine s} {m' : Machine s.evaluating}

/-- The machines differ in nothing but ids, apart from frames, outputs and results. -/
structure Agree (m : Machine s) (m' : Machine s.evaluating) : Prop where
  registers : m.registers.Twin m'.registers
  blocks : m'.blocks = m.blocks
  position : m'.position = m.position

theorem Agree.moveTo_eq (h : m.Agree m') : m'.moveTo m.position = m' := by
  rw [← h.position]
  rfl

/-- The innermost frames do the same over strata that lie level, with results for the next action on
top of those from before. -/
structure Twin (f f' : Frame) (x x' : Strata) (outs outs' : List Output) (m : Machine s)
    (m' : Machine s.evaluating) : Prop where
  agree : m.Agree m'
  frame : f.Twin f'
  level : Level f f' x x'
  frames : m.frames = f :: x.frames
  frames' : m'.frames = f' :: x'.frames
  outputs : ∃ o, m.outputs = o :: x.outputs ∧ m'.outputs = o :: x'.outputs
  results : m.results = outs ++ x.results
  results' : m'.results = outs' ++ x'.results

namespace Twin

variable {f f' : Frame} {x x' : Strata} {outs outs' : List Output} {α : Type}

theorem output_eq (h : Twin f f' x x' outs outs' m m') : m'.output = m.output := by
  obtain ⟨o, ho, ho'⟩ := h.outputs
  rw [output, output, ho, ho', List.headD_cons, List.headD_cons]

theorem top?_eq (h : Twin f f' x x' outs outs' m m') : m.top? = some f ∧ m'.top? = some f' := by
  rw [top?, top?, h.frames, h.frames']
  exact ⟨rfl, rfl⟩

theorem patternName_eq (h : Twin f f' x x' outs outs' m m') : m'.patternName = m.patternName := by
  rw [patternName, patternName, h.top?_eq.1, h.top?_eq.2, Option.map_some, Option.map_some,
    h.frame.reader]

theorem patternCode_eq (h : Twin f f' x x' outs outs' m m') : m'.patternCode = m.patternCode := by
  rw [patternCode, patternCode, h.top?_eq.1, h.top?_eq.2, Option.map_some, Option.map_some,
    h.frame.reader]

theorem fault_eq (h : Twin f f' x x' outs outs' m m') (e : Fault) : m'.fault e = m.fault e := by
  rw [fault, fault, h.patternName_eq, h.agree.position]

/-- The second has at least as many frames. -/
theorem length_le (h : Twin f f' x x' outs outs' m m') : m.frames.length ≤ m'.frames.length := by
  rw [h.frames, h.frames']
  exact Nat.succ_le_succ h.level.length_le

theorem moveTo (h : Twin f f' x x' outs outs' m m') (p : Position) :
    Twin f f' x x' outs outs' (m.moveTo p) (m'.moveTo p) :=
  { h with agree := ⟨h.agree.registers, h.agree.blocks, rfl⟩ }

theorem change (h : Twin f f' x x' outs outs' m m') {q q' : Registers → Registers}
    (hq : (q m.registers).Twin (q' m'.registers)) :
    Twin f f' x x' outs outs' (m.change q) (m'.change q') :=
  { h with agree := ⟨hq, h.agree.blocks, h.agree.position⟩ }

theorem modifyTop (h : Twin f f' x x' outs outs' m m') (q q' : Frame → Frame)
    (hq : (q f).Twin (q' f')) (hkeeps : f.Continues (q f)) (hkeeps' : f'.Continues (q' f')) :
    Twin (q f) (q' f') x x' outs outs' (m.modifyTop q) (m'.modifyTop q') :=
  { agree := ⟨h.agree.registers, h.agree.blocks, h.agree.position⟩
    frame := hq
    level := h.level.continues hkeeps hkeeps'
    frames := congrArg (List.modifyHead q) h.frames
    frames' := congrArg (List.modifyHead q') h.frames'
    outputs := h.outputs
    results := h.results
    results' := h.results' }

theorem withReader (h : Twin f f' x x' outs outs' m m') (r : Reader) :
    Twin { f with reader := r } { f' with reader := r } x x' outs outs' (m.withReader r)
      (m'.withReader r) :=
  h.modifyTop (fun f => { f with reader := r }) (fun f => { f with reader := r })
    { h.frame with reader := rfl } ⟨rfl, rfl, rfl⟩ ⟨rfl, rfl, rfl⟩

theorem defer (h : Twin f f' x x' outs outs' m m') {a a' : Deferred} (ha : a.Twin a') :
    Twin { f with pre := a :: f.pre } { f' with pre := a' :: f'.pre } x x' outs outs' (m.defer a)
      (m'.defer a') :=
  h.modifyTop (fun f => { f with pre := a :: f.pre }) (fun f => { f with pre := a' :: f.pre })
    { h.frame with pre := .cons ha h.frame.pre } ⟨rfl, rfl, rfl⟩ ⟨rfl, rfl, rfl⟩

/-- The scenes are turned to scenes that are twins. -/
theorem turn (h : Twin f f' x x' outs outs' m m') {t t' : Scene} (ht : t.Twin t') :
    Twin f f' x x' outs outs'
      { m with outputs := t.output :: m.outputs.tail, registers := t.registers }
      { m' with outputs := t'.output :: m'.outputs.tail, registers := t'.registers } := by
  obtain ⟨o, ho, ho'⟩ := h.outputs
  refine { h with agree := ⟨ht.registers, h.agree.blocks, h.agree.position⟩, outputs := ?_ }
  exact ⟨t.output, by simp [ho], by simp [ho', ht.output]⟩

theorem act (h : Twin f f' x x' outs outs' m m') {a : Act α} (ha : a.Blind) :
    Follows (fun y y' => y.1 = y'.1 ∧ Twin f f' x x' outs outs' y.2 y'.2) (m.act a) (m'.act a) := by
  have hrun := ha.from_twins ⟨m.registers, m.output⟩ ⟨m'.registers, m'.output⟩
    ⟨h.agree.registers, h.output_eq.symm⟩
  rw [act_eq, act_eq]
  simp only [StateT.run]
  generalize a ⟨m.registers, m.output⟩ = y, a ⟨m'.registers, m'.output⟩ = y' at hrun
  cases hrun with
  | ok hok => exact .ok ⟨hok.1, h.turn hok.2⟩
  | error he =>
    subst he
    dsimp only
    rw [h.fault_eq]
    exact .error _

theorem perform (h : Twin f f' x x' outs outs' m m') {a : Act Unit} (ha : a.Blind) :
    Follows (Twin f f' x x' outs outs') (m.perform a) (m'.perform a) :=
  (h.act ha).bind fun _ _ hy => .pure hy.2

theorem scan (h : Twin f f' x x' outs outs' m m') (r : Scan α) :
    Follows (fun y y' => y.1 = y'.1 ∧ ∃ reader, Twin { f with reader := reader }
      { f' with reader := reader } x x' outs outs' y.2 y'.2) (m.scan r) (m'.scan r) := by
  simp only [Machine.scan, h.top?_eq.1, h.top?_eq.2, h.frame.reader]
  split
  · exact .error _
  · next reader _ => exact .ok ⟨rfl, reader, h.withReader reader⟩

/-- A passage begins that prints to the same output. -/
theorem push (h : Twin f f' x x' [] [] m m') (hidle : f.uses = 0) (p : Passage)
    {pre pre' post post' : List Deferred} (hpre : List.Forall₂ Deferred.Twin pre pre')
    (hpost : List.Forall₂ Deferred.Twin post post') :
    Follows (fun n n' => ∃ g g', g.pre = pre ∧ Twin g g' (x.share f) (x'.share f') [] [] n n')
      (m.push p false pre post) (m'.push p false pre' post') := by
  have hlength := h.length_le
  by_cases hdepth : m'.frames.length + 1 ≤ s.maxDepth
  · rw [push_eq_ok (by omega), push_eq_ok hdepth]
    refine .ok ⟨⟨m.nextId, .ofPassage p, false, m.results.length, pre, post⟩,
      ⟨m'.nextId, .ofPassage p, false, m'.results.length, pre', post'⟩, rfl, ?_⟩
    exact
      { agree := ⟨h.agree.registers, h.agree.blocks, h.agree.position⟩
        frame := ⟨rfl, rfl, hpre, hpost⟩
        level := .shared rfl rfl (congrArg _ h.results) (congrArg _ h.results') h.frame hidle
          h.level
        frames := congrArg (_ :: ·) h.frames
        frames' := congrArg (_ :: ·) h.frames'
        outputs := h.outputs
        results := h.results
        results' := h.results' }
  · rw [push_eq_error (m := m') (Nat.not_le.1 hdepth)]
    exact .deep _ ⟨_, _, _, rfl⟩

end Twin

/-- The machines are twins whose innermost frames fulfil a condition. -/
def Rest (P : Frame → Prop) (outs outs' : List Output) (m : Machine s) (m' : Machine s.evaluating) :
    Prop :=
  ∃ f f' x x', P f ∧ Twin f f' x x' outs outs' m m'

/-- The innermost frame goes on with a token. -/
abbrev Clear : List Output → List Output → Machine s → Machine s.evaluating → Prop :=
  Rest fun f => f.pre = []

/-- The innermost frame does not wait for results. -/
abbrev Idle : Machine s → Machine s.evaluating → Prop := Rest (fun f => f.uses = 0) [] []

namespace Rest

variable {P Q : Frame → Prop} {outs outs' : List Output} {α : Type}

theorem weaken (h : Rest P outs outs' m m') (hPQ : ∀ f, P f → Q f) : Rest Q outs outs' m m' := by
  obtain ⟨f, f', x, x', hP, htwin⟩ := h
  exact ⟨f, f', x, x', hPQ f hP, htwin⟩

theorem idle (h : Clear [] [] m m') : Idle m m' := h.weaken fun _ => Frame.uses_eq_zero

theorem agree (h : Rest P outs outs' m m') : m.Agree m' := by
  obtain ⟨_, _, _, _, -, htwin⟩ := h
  exact htwin.agree

theorem moveTo (h : Rest P outs outs' m m') (p : Position) :
    Rest P outs outs' (m.moveTo p) (m'.moveTo p) := by
  obtain ⟨f, f', x, x', hP, htwin⟩ := h
  exact ⟨f, f', x, x', hP, htwin.moveTo p⟩

theorem change (h : Rest P outs outs' m m') {q q' : Registers → Registers}
    (hq : (q m.registers).Twin (q' m'.registers)) :
    Rest P outs outs' (m.change q) (m'.change q') := by
  obtain ⟨f, f', x, x', hP, htwin⟩ := h
  exact ⟨f, f', x, x', hP, htwin.change hq⟩

/-- A change that sees no ids. -/
theorem changeBlind (h : Rest P outs outs' m m') {q : Registers → Registers}
    (hq : Registers.SparesTwins q) : Rest P outs outs' (m.change q) (m'.change q) :=
  h.change (h.agree.registers.change hq)

theorem act (h : Rest P outs outs' m m') {a : Act α} (ha : a.Blind) :
    Follows (fun y y' => y.1 = y'.1 ∧ Rest P outs outs' y.2 y'.2) (m.act a) (m'.act a) := by
  obtain ⟨f, f', x, x', hP, htwin⟩ := h
  exact (htwin.act ha).weaken fun _ _ hy => ⟨hy.1, f, f', x, x', hP, hy.2⟩

theorem perform (h : Rest P outs outs' m m') {a : Act Unit} (ha : a.Blind) :
    Follows (Rest P outs outs') (m.perform a) (m'.perform a) :=
  (h.act ha).bind fun _ _ hy => .pure hy.2

theorem scan (h : Clear outs outs' m m') (r : Scan α) :
    Follows (fun y y' => y.1 = y'.1 ∧ Clear outs outs' y.2 y'.2) (m.scan r) (m'.scan r) := by
  obtain ⟨f, f', x, x', hP, htwin⟩ := h
  refine (htwin.scan r).weaken fun _ _ hy => ?_
  obtain ⟨hsame, reader, hy⟩ := hy
  exact ⟨hsame, { f with reader := reader }, { f' with reader := reader }, x, x', hP, hy⟩

/-- An action that waits for nothing is put in front. -/
theorem defer (h : Clear [] [] m m') {a a' : Deferred} (ha : a.Twin a') (huses : a.uses = 0) :
    Idle (m.defer a) (m'.defer a') := by
  obtain ⟨f, f', x, x', -, htwin⟩ := h
  exact ⟨{ f with pre := a :: f.pre }, { f' with pre := a' :: f'.pre }, x, x', huses,
    htwin.defer ha⟩

theorem push (h : Idle m m') (p : Passage) {pre pre' post post' : List Deferred}
    (hpre : List.Forall₂ Deferred.Twin pre pre') (hpost : List.Forall₂ Deferred.Twin post post')
    (huses : Deferred.usesOf pre.head? = 0) :
    Follows Idle (m.push p false pre post) (m'.push p false pre' post') := by
  obtain ⟨f, f', x, x', hidle, htwin⟩ := h
  refine (htwin.push hidle p hpre hpost).weaken fun n n' hn => ?_
  obtain ⟨g, g', rfl, hn⟩ := hn
  exact ⟨g, g', _, _, huses, hn⟩

theorem pushAny (h : Idle m m') (p : Option Passage) {pre pre' post post' : List Deferred}
    (hpre : List.Forall₂ Deferred.Twin pre pre') (hpost : List.Forall₂ Deferred.Twin post post')
    (huses : Deferred.usesOf pre.head? = 0) :
    Follows Idle (m.pushAny p pre post) (m'.pushAny p pre' post') := by
  cases p with
  | none => exact .pure h
  | some p => exact h.push p hpre hpost huses

theorem run (h : Idle m m') (p : Passage) : Follows Idle (m.run p) (m'.run p) :=
  h.push p .nil .nil rfl

end Rest

/-! ## Leaving a block -/

/-- The machine is coherent with an action that is due, and its frames are neat. -/
structure Sane (due : Option Deferred) (m : Machine s) : Prop where
  coherent : m.stage.Coherent due
  neat : ∀ f ∈ m.frames, f.Neat

/-- The first item with a property is in one place only. -/
theorem eq_of_append_cons {α : Type} {P : α → Prop} {a a' : α} {l l' r r' : List α}
    (h : l ++ a :: r = l' ++ a' :: r') (ha : P a) (ha' : P a') (hl : ∀ b ∈ l, ¬P b)
    (hl' : ∀ b ∈ l', ¬P b) : l = l' ∧ a = a' ∧ r = r' := by
  induction l generalizing l' with
  | nil =>
    cases l' with
    | nil => exact ⟨rfl, List.cons.inj h⟩
    | cons b l' =>
      obtain ⟨rfl, -⟩ := List.cons.inj h
      exact absurd ha (hl' _ List.mem_cons_self)
  | cons b l ih =>
    cases l' with
    | nil =>
      obtain ⟨rfl, -⟩ := List.cons.inj h
      exact absurd ha' (hl _ List.mem_cons_self)
    | cons b' l' =>
      obtain ⟨rfl, hrest⟩ := List.cons.inj h
      obtain ⟨rfl, hsame⟩ := ih hrest (fun c hc => hl c (List.mem_cons_of_mem _ hc))
        fun c hc => hl' c (List.mem_cons_of_mem _ hc)
      exact ⟨rfl, hsame⟩

/-- The block of the innermost repeater is left down to the first frame that goes on with
repetitions, and what is undone for the frames above it stays in the block. -/
theorem Sane.leaves (h : m.Sane none) {r : Repeater} {others : List Repeater}
    (hr : m.registers.repeaters = r :: others) :
    ∃ dropped base kept, m.frames = dropped ++ base :: kept ∧ base.Repeats ∧
      (∀ f ∈ dropped, ¬f.Repeats) ∧
      (∀ a ∈ dropped.flatMap Frame.pending,
        a.StaysIn { m.registers with repeaters := r.finish :: others }) ∧
      m.leave.stage =
        { frames := base :: kept
          outputs := m.outputs.drop (dropped.countP (·.owns))
          results := match dropped.getLast? with
            | some f => m.results.drop (m.results.length - f.mark)
            | none => m.results
          registers := giveUp { m.registers with repeaters := r.finish :: others } dropped
          nextId := m.nextId } := by
  have hplaces : m.registers.places = r.place :: others.map Repeater.place := by
    rw [Registers.places, hr, List.map_cons]
  have hleaves := m.leave_stage
  generalize hleft : m.leave.stage = y at hleaves
  cases hleaves with
  | idle hnone => exact absurd (hnone.symm.trans hr) (by simp)
  | lost hr' hbase =>
    obtain ⟨rfl, rfl⟩ := List.cons.inj (hr.symm.trans hr')
    obtain ⟨g, hg, hpending⟩ := List.mem_flatMap.1 (h.coherent.unwinds.mem_iterate hplaces)
    obtain ⟨a, -, heq⟩ := List.mem_map.1 hpending
    exact absurd (congrArg Prod.fst heq) (hbase g hg)
  | @cut r' others' dropped kept base hr' hframes hbase hdropped =>
    obtain ⟨rfl, rfl⟩ := List.cons.inj (hr.symm.trans hr')
    have hmem : base ∈ m.frames := by
      rw [show m.frames = dropped ++ base :: kept from hframes]
      simp
    have hunwinds : m.registers.Unwinds (schedule dropped ++ schedule (base :: kept)) := by
      have hall := h.coherent.unwinds
      rw [hframes, Option.toList_none, List.map_nil, List.nil_append, schedule_append] at hall
      exact hall
    have habove : ∀ q ∈ schedule dropped, q.1 ≠ r.place.base := by
      intro q hq
      obtain ⟨g, hg, hpending⟩ := List.mem_flatMap.1 hq
      obtain ⟨a, -, rfl⟩ := List.mem_map.1 hpending
      exact hdropped g hg
    have hfits : ∀ g ∈ dropped, ∀ a ∈ g.pending, ∃ q : Registers, a.Fits q g.id ∧
        q.places = r.place :: others.map Repeater.place := fun g hg a ha =>
      hunwinds.fits_above hplaces habove (q := (g.id, a))
        (List.mem_flatMap.2 ⟨g, hg, List.mem_map_of_mem ha⟩)
    have hstays : ∀ g ∈ dropped, ∀ id, Deferred.iterate id ∉ g.pending := by
      intro g hg id hid
      obtain ⟨q, ⟨size, others', hq, -⟩, hq'⟩ := hfits g hg _ hid
      rw [hq'] at hq
      exact hdropped g hg (congrArg Repeater.Place.base (List.head_eq_of_cons_eq hq)).symm
    refine ⟨dropped, base, kept, hframes,
      ⟨r.id, h.coherent.pre_base (by simp) hr hmem hbase (h.neat base hmem)⟩, ?_, ?_, rfl⟩
    · rintro g hg ⟨id, hpre⟩
      exact hstays g hg id (by simp [Frame.pending, hpre])
    · intro a ha
      obtain ⟨g, hg, hpending⟩ := List.mem_flatMap.1 ha
      cases a with
      | iterate id => exact absurd hpending (hstays g hg id)
      | restore id =>
        obtain ⟨q, ⟨p, others', hq, rfl⟩, hq'⟩ := hfits g hg _ hpending
        rw [hq'] at hq
        obtain ⟨rfl, -⟩ := List.cons.inj hq
        have halike : m.registers.Alike { m.registers with repeaters := r.finish :: others } :=
          ⟨by simp [Registers.places, hr], rfl, rfl, rfl⟩
        exact halike.innermost (h.coherent.unwinds.innermost hplaces)
      | _ => trivial

theorem leave_keeps (m : Machine s) :
    m.leave.blocks = m.blocks ∧ m.leave.position = m.position := by
  unfold Machine.leave
  split
  · exact ⟨rfl, rfl⟩
  · dsimp only
    split <;> exact ⟨rfl, rfl⟩

/-- What is left of a machine whose strata are cut. -/
theorem Sane.leave_of_cut (h : m.Sane none) {f base : Frame} {x y : Strata} {o o₁ : ChannelStack}
    {dropped : List Frame} (hframes : m.frames = f :: x.frames) (hf : ¬f.Repeats)
    (houtputs : m.outputs = o :: x.outputs) (hresults : m.results = x.results)
    (hcut : Strata.Cut f o x dropped base o₁ y) {r : Repeater} {others : List Repeater}
    (hr : m.registers.repeaters = r :: others) :
    m.leave.frames = base :: y.frames ∧ m.leave.outputs = o₁ :: y.outputs ∧
      m.leave.results = y.results ∧
      m.leave.registers = ((f :: dropped).flatMap Frame.pending).foldl Registers.undo
        { m.registers with repeaters := r.finish :: others } ∧
      ∀ a ∈ (f :: dropped).flatMap Frame.pending,
        a.StaysIn { m.registers with repeaters := r.finish :: others } := by
  obtain ⟨dropped', base', kept, hframes', hbase, hdropped, hstays, hstage⟩ := h.leaves hr
  have hwhole : (f :: dropped) ++ base :: y.frames = dropped' ++ base' :: kept := by
    rw [← hframes', hframes, hcut.frames]
    rfl
  obtain ⟨rfl, rfl, rfl⟩ := eq_of_append_cons hwhole hcut.repeats hbase
    (List.forall_mem_cons.2 ⟨hf, hcut.above⟩) hdropped
  refine ⟨congrArg Stage.frames hstage, (congrArg Stage.outputs hstage).trans ?_,
    (congrArg Stage.results hstage).trans ?_, congrArg Stage.registers hstage, hstays⟩
  · dsimp only
    rw [houtputs]
    exact hcut.outputs
  · dsimp only
    rw [List.getLast?_eq_some_getLast (List.cons_ne_nil f dropped)]
    dsimp only
    rw [hresults]
    exact hcut.results

theorem leave_of_nil (h : m.registers.repeaters = []) : m.leave = m := by
  unfold Machine.leave
  rw [h]

/-- A block is left, if one is running. -/
theorem Rest.leave (h : Clear [] [] m m') (hm : m.Sane none) (hm' : m'.Sane none) :
    Idle m.leave m'.leave := by
  obtain ⟨f, f', x, x', hpre, htwin⟩ := h
  obtain ⟨o, ho, ho'⟩ := htwin.outputs
  have hclear : ¬f.Repeats := fun ⟨id, hid⟩ => by
    rw [hpre] at hid
    cases hid
  have hclear' : ¬f'.Repeats := fun hr => hclear (htwin.frame.repeats_iff.1 hr)
  have hall := htwin.agree.registers.repeaters
  generalize hr : m.registers.repeaters = l, hr' : m'.registers.repeaters = l' at hall
  cases hall with
  | nil =>
    rw [leave_of_nil hr, leave_of_nil hr']
    exact ⟨f, f', x, x', Frame.uses_eq_zero hpre, htwin⟩
  | @cons r r' others others' hfirst hothers =>
    obtain ⟨above, base₀, kept, hframes, hbase₀, habove, -⟩ := hm.leaves hr
    have hexists : ∃ g ∈ x.frames, g.Repeats := by
      refine ⟨base₀, ?_, hbase₀⟩
      have hmem : base₀ ∈ f :: x.frames := by
        rw [← htwin.frames, hframes]
        simp
      rcases List.mem_cons.1 hmem with rfl | hmem
      · exact absurd hbase₀ hclear
      · exact hmem
    obtain ⟨dropped, base, y, dropped', base', y', o₁, hcut, hcut', hbase, hlevel, hkin⟩ :=
      htwin.level.cut hexists o
    obtain ⟨hframes, houtputs, hresults, hregisters, hstays⟩ :=
      hm.leave_of_cut htwin.frames hclear ho htwin.results hcut hr
    obtain ⟨hframes', houtputs', hresults', hregisters', hstays'⟩ :=
      hm'.leave_of_cut htwin.frames' hclear' ho' htwin.results' hcut' hr'
    have hfinish : Registers.Twin { m.registers with repeaters := r.finish :: others }
        { m'.registers with repeaters := r'.finish :: others' } :=
      htwin.agree.registers.withRepeaters (.cons hfirst.finish hothers)
    have hundone := hfinish.undoAll (List.rel_append htwin.frame.kin hkin) hstays hstays'
    refine ⟨base, base', y, y', hcut.repeats.uses_eq_zero, ?_⟩
    exact
      { agree := ⟨hregisters ▸ hregisters' ▸ hundone,
          m'.leave_keeps.1.trans (htwin.agree.blocks.trans m.leave_keeps.1.symm),
          m'.leave_keeps.2.trans (htwin.agree.position.trans m.leave_keeps.2.symm)⟩
        frame := hbase
        level := hlevel
        frames := hframes
        frames' := hframes'
        outputs := ⟨o₁, houtputs, houtputs'⟩
        results := hresults
        results' := hresults' }

end Machine

end Wordsmith
