import Wordsmith.Machine.Ensures
import Wordsmith.Machine.Step
import Wordsmith.Machine.Turn
import Wordsmith.Reader.Extent

/-!
# Stages

A stage is what counts in a machine: the frames, the outputs, the results, the registers and the
next id, without the blocks that were read and the current place. Every operation of machines is
described here by what it makes of the stage.
-/

namespace Wordsmith

/-- A machine without the blocks that were read and the current place. -/
structure Stage where
  frames : List Frame
  outputs : List ChannelStack
  results : List Output
  registers : Registers
  nextId : Nat

/-- A passage that is about to begin, with actions before and after its tokens. -/
structure Opening where
  passage : Passage
  /-- Whether it prints to an output of its own. -/
  owns : Bool
  pre : List Deferred
  post : List Deferred

/-- The frame in which a passage begins. -/
def Opening.frame (o : Opening) (id mark : Nat) : Frame :=
  ⟨id, .ofPassage o.passage, o.owns, mark, o.pre, o.post⟩

namespace Opening

@[simp]
theorem owns_frame (o : Opening) (id mark : Nat) : (o.frame id mark).owns = o.owns := rfl

@[simp]
theorem pending_frame (o : Opening) (id mark : Nat) :
    (o.frame id mark).pending = o.pre ++ o.post := rfl

end Opening

namespace Stage

/-- The scene of the innermost frame. -/
def scene (x : Stage) : Scene := ⟨x.registers, x.outputs.headD .initial⟩

/-- The stage with another scene for the innermost frame. -/
def turn (x : Stage) (s : Scene) : Stage :=
  { x with registers := s.registers, outputs := s.output :: x.outputs.tail }

/-- Changes the registers. -/
def change (x : Stage) (f : Registers → Registers) : Stage :=
  { x with registers := f x.registers }

/-- Uses up the last results. -/
def use (x : Stage) (n : Nat) : Stage := { x with results := x.results.drop n }

/-- Puts an action in front of all that the innermost frame is going to do. -/
def defer (x : Stage) (action : Deferred) : Stage :=
  { x with frames := x.frames.modifyHead fun f => { f with pre := action :: f.pre } }

/-- Begins a passage in a new frame. -/
def enter (x : Stage) (o : Opening) : Stage where
  frames := o.frame x.nextId x.results.length :: x.frames
  outputs := if o.owns then .initial :: x.outputs else x.outputs
  results := x.results
  registers := x.registers
  nextId := x.nextId + 1

/-- Begins passages, each on top of the one before. -/
def enterAll (x : Stage) (os : List Opening) : Stage := os.foldl enter x

/-- The id of the innermost frame. -/
def top (x : Stage) : Nat := (x.frames.head?.map (·.id)).getD 0

/-- Puts a repeater for a block on its stack, with the innermost frame as its base. -/
def startBlock (x : Stage) (b : Block) (a : Attributes) : Stage :=
  let repeater := Repeater.start x.nextId x.top b a
  { x.change fun r => { r with repeaters := repeater :: r.repeaters } with
    nextId := x.nextId + 1 }.defer (.iterate x.nextId)

/-- Ends the innermost frame. -/
def pop (x : Stage) : Stage :=
  let owned := x.frames.head?.any (·.owns)
  { x with
    frames := x.frames.tail
    outputs := if owned then x.outputs.tail else x.outputs
    results := if owned then x.scene.output.output :: x.results else x.results }

@[simp]
theorem enterAll_nil (x : Stage) : x.enterAll [] = x := rfl

@[simp]
theorem enterAll_cons (x : Stage) (o : Opening) (os : List Opening) :
    x.enterAll (o :: os) = (x.enter o).enterAll os := rfl

@[simp]
theorem use_zero (x : Stage) : x.use 0 = x := rfl

theorem turn_change {x : Stage} (h : x.outputs ≠ []) (f : Registers → Registers) :
    x.turn ⟨f x.registers, x.scene.output⟩ = x.change f := by
  obtain ⟨o, os, ho⟩ := List.exists_cons_of_ne_nil h
  simp [turn, change, scene, ho]

theorem turn_scene {x : Stage} (h : x.outputs ≠ []) : x.turn x.scene = x :=
  turn_change h id

/-- Passages that print to the same output leave the scene as it is. -/
theorem scene_enterAll (x : Stage) {os : List Opening} (h : ∀ o ∈ os, o.owns = false) :
    (x.enterAll os).scene = x.scene := by
  induction os generalizing x with
  | nil => rfl
  | cons o os ih =>
    obtain ⟨ho, hos⟩ := List.forall_mem_cons.1 h
    rw [enterAll_cons, ih _ hos]
    simp [enter, scene, ho]

theorem turn_enterAll (x : Stage) (s : Scene) {os : List Opening} (h : ∀ o ∈ os, o.owns = false) :
    (x.enterAll os).turn s = (x.turn s).enterAll os := by
  induction os generalizing x with
  | nil => rfl
  | cons o os ih =>
    obtain ⟨ho, hos⟩ := List.forall_mem_cons.1 h
    rw [enterAll_cons, enterAll_cons, ih _ hos]
    congr 1
    simp [enter, turn, ho]

theorem enterAll_append (x : Stage) (os ps : List Opening) :
    x.enterAll (os ++ ps) = (x.enterAll os).enterAll ps := List.foldl_append ..

/-- The innermost repeater is finished, and the frames above the one that its block is in are
given up. -/
inductive Leaves (x : Stage) : Stage → Prop
  | idle (h : x.registers.repeaters = []) : Leaves x x
  | lost {r : Repeater} {others : List Repeater} (h : x.registers.repeaters = r :: others)
      (hbase : ∀ f ∈ x.frames, f.id ≠ r.base) :
      Leaves x (x.change fun q => { q with repeaters := r.finish :: others })
  | cut {r : Repeater} {others : List Repeater} {dropped kept : List Frame} {base : Frame}
      (h : x.registers.repeaters = r :: others) (hframes : x.frames = dropped ++ base :: kept)
      (hbase : base.id = r.base) (hdropped : ∀ f ∈ dropped, f.id ≠ r.base) :
      Leaves x
        { frames := base :: kept
          outputs := x.outputs.drop (dropped.countP (·.owns))
          results := match dropped.getLast? with
            | some f => x.results.drop (x.results.length - f.mark)
            | none => x.results
          registers :=
            Machine.giveUp { x.registers with repeaters := r.finish :: others } dropped
          nextId := x.nextId }

end Stage

/-! ## Operations of machines -/

namespace Machine

variable {s : Setting} {α : Type} {m : Machine s}

/-- The stage of a machine. -/
def stage (m : Machine s) : Stage := ⟨m.frames, m.outputs, m.results, m.registers, m.nextId⟩

theorem change_stage (h : m.outputs ≠ []) (f : Registers → Registers) :
    (m.change f).stage = m.stage.turn ⟨f m.registers, m.stage.scene.output⟩ := by
  obtain ⟨o, os, ho⟩ := List.exists_cons_of_ne_nil h
  simp [stage, change, Stage.turn, Stage.scene, ho]

theorem act_stage (m : Machine s) (a : Act α) :
    Ensures (m.act a) fun r => ∃ t, a m.stage.scene = .ok (r.1, t) ∧
      r.2.stage = m.stage.turn t := by
  obtain ⟨frames, frames_le, outputs, results, registers, blocks, position, nextId⟩ := m
  cases outputs with
  | nil =>
    refine ⟨fun r hr => ?_⟩
    simp only [act] at hr
    split at hr
    · cases hr
    · next h =>
      cases hr
      exact ⟨_, h, rfl⟩
  | cons output others =>
    refine ⟨fun r hr => ?_⟩
    simp only [act] at hr
    split at hr
    · cases hr
    · next h =>
      cases hr
      exact ⟨_, h, rfl⟩

theorem act_turns {a : Act α} (ha : a.Turns) (m : Machine s) :
    Ensures (m.act a) fun r => ∃ t, m.stage.scene.Turns t ∧ r.2.stage = m.stage.turn t :=
  (m.act_stage a).weaken fun _ ⟨t, ht, hr⟩ => ⟨t, ha.of_ok _ _ _ ht, hr⟩

theorem perform_turns {a : Act Unit} (ha : a.Turns) (m : Machine s) :
    Ensures (m.perform a) fun m' => ∃ t, m.stage.scene.Turns t ∧ m'.stage = m.stage.turn t :=
  (act_turns ha m).bind fun _ h => .pure h

/-- A scan moves the reader of the innermost frame on. -/
theorem scan_stage {f : Frame} {below : List Frame} (h : m.frames = f :: below) {r : Scan α}
    {P : α → Prop} (hr : Scan.Yields f.reader.remaining r P) :
    Ensures (m.scan r) fun x => ∃ reader, reader.remaining ≤ f.reader.remaining ∧
      x.2.stage = { m.stage with frames := { f with reader := reader } :: below } := by
  refine ⟨fun x hx => ?_⟩
  simp only [scan, top?, h, List.head?_cons] at hx
  split at hx
  · cases hx
  · next reader hread =>
    cases hx
    refine ⟨reader, (hr.from_reader _ _ _ (Nat.le_refl _) hread).1, ?_⟩
    simp [stage, modifyTop, h]

theorem push_stage (m : Machine s) (p : Passage) (owns : Bool) (pre post : List Deferred) :
    Ensures (m.push p owns pre post) fun m' => m'.stage = m.stage.enter ⟨p, owns, pre, post⟩ := by
  refine ⟨fun m' hm => ?_⟩
  simp only [push] at hm
  split at hm
  · cases hm
  · cases hm
    rfl

theorem pushAny_stage (m : Machine s) (p : Option Passage) (pre post : List Deferred) :
    Ensures (m.pushAny p pre post) fun m' =>
      m'.stage = m.stage.enterAll (p.toList.map (⟨·, false, pre, post⟩)) := by
  cases p with
  | none => exact .pure rfl
  | some p => exact m.push_stage p false pre post

/-- Passages that are pushed one after the other. -/
theorem foldlM_push_stage {β : Type} (opening : β → Opening) (l : List β) (m : Machine s) :
    Ensures (l.foldlM (fun m b => m.push (opening b).passage (opening b).owns (opening b).pre
      (opening b).post) m) fun m' => m'.stage = m.stage.enterAll (l.map opening) := by
  induction l generalizing m with
  | nil => exact .pure rfl
  | cons b l ih =>
    refine (m.push_stage ..).bind fun m₁ h₁ => (ih m₁).weaken fun m' h => ?_
    rw [h, h₁]
    rfl

theorem runApart_stage (m : Machine s) (ps : List Passage) :
    Ensures (m.runApart ps) fun m' =>
      m'.stage = m.stage.enterAll (ps.reverse.map (⟨·, true, [], []⟩)) :=
  foldlM_push_stage (⟨·, true, [], []⟩) ps.reverse m

theorem takeResult_stage (m : Machine s) : m.takeResult.2.stage = m.stage.use 1 := by
  simp [stage, takeResult, Stage.use]

theorem takeResults_stage (m : Machine s) (n : Nat) :
    (m.takeResults n).2.stage = m.stage.use n := rfl

theorem compilePrinted_stage (m : Machine s) (name : String) :
    Ensures (m.compilePrinted name) fun r => r.2.stage = m.stage.use 1 := by
  refine ⟨fun r hr => ?_⟩
  simp only [compilePrinted] at hr
  split at hr
  · cases hr
    exact m.takeResult_stage
  · cases hr

theorem leave_stage (m : Machine s) : m.stage.Leaves m.leave.stage := by
  cases hr : m.registers.repeaters with
  | nil =>
    have : m.leave = m := by simp [leave, hr]
    rw [this]
    exact .idle hr
  | cons r others =>
    cases hn : m.frames.findIdx? (·.id == r.base) with
    | none =>
      have : m.leave.stage =
          m.stage.change fun q => { q with repeaters := r.finish :: others } := by
        simp [leave, hr, hn, stage, Stage.change]
      rw [this]
      refine .lost hr fun f hf => ?_
      simpa using List.findIdx?_eq_none_iff.1 hn f hf
    | some n =>
      obtain ⟨hlt, hbase, hbefore⟩ := List.findIdx?_eq_some_iff_getElem.1 hn
      have hkept : m.frames.drop n = m.frames[n] :: m.frames.drop (n + 1) :=
        List.drop_eq_getElem_cons hlt
      have hframes : m.frames = m.frames.take n ++ m.frames[n] :: m.frames.drop (n + 1) := by
        rw [← hkept, List.take_append_drop]
      have hdropped : ∀ f ∈ m.frames.take n, f.id ≠ r.base := by
        intro f hf
        obtain ⟨i, hi, rfl⟩ := List.mem_take_iff_getElem.1 hf
        simpa using hbefore i (by omega)
      have hcut := Stage.Leaves.cut (x := m.stage) hr hframes (by simpa using hbase) hdropped
      rw [← hkept] at hcut
      simp only [leave, hr, hn]
      exact hcut

end Machine

end Wordsmith
