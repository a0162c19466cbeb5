import Wordsmith.Proofs.Literals.Machines

/-!
# Actions with and without plain arguments

An action that two machines take on level strata is the same operation on both. What comes of it
rests again, or waits for frames to be run, for which the second may have more, or is over.

Main results: `Machine.Rest.take`, for actions that wait for nothing, `Machine.Rest.takeOpened`, for
actions all of whose slots are done, and `Machine.Rest.postpone`, for actions that are put off.
-/

namespace Wordsmith

/-! ## Arguments of a call -/

theorem Passage.exists_read_of_not_isPlain {p : Passage} (hp : Slot.isPlain p = false) :
    (Reader.ofPassage p).read? ≠ none := by
  have hne : p.tokens ≠ [] := by
    intro hnil
    simp [Slot.isPlain, hnil] at hp
  have hlength : 0 < p.tokens.length := List.length_pos_iff.2 hne
  simp only [tokens, Array.length_toList, Array.size_extract] at hlength
  have hstart : p.start < p.pattern.tokens.size := by omega
  have hstop : p.start < p.stop := by omega
  simp [Reader.read?, Reader.peek?, Reader.ofPassage, token?, hstart, hstop]

namespace Slot

variable (takesCode : Nat → Bool)

/-- What is prepared without plain arguments being known opens what is prepared otherwise. -/
theorem prepare_opens (literals : Bool) (i : Nat) (ps : List Passage) :
    List.Forall₂ Opens (prepare literals takesCode i ps).1 (prepare false takesCode i ps).1 := by
  induction ps generalizing i with
  | nil => exact .nil
  | cons p ps ih =>
    simp only [prepare, Bool.false_and, Bool.false_eq_true, if_false]
    split
    · exact .cons (.code p) (ih (i + 1))
    · split
      · exact .cons (.literal _) (ih (i + 1))
      · exact .cons .evaluated (ih (i + 1))

/-- The passages that are evaluated, as they are begun. -/
def openings (ps : List Passage) : List Opening := ps.map (⟨·, true, [], []⟩)

/-- For plain arguments, only what is prepared without them being known has frames. -/
theorem prepare_todo (literals : Bool) (i : Nat) (ps : List Passage) (id id' mark mark' : Nat) :
    Todo (prepare literals takesCode i ps).1
      (Opening.frames id mark (openings (prepare literals takesCode i ps).2))
      (Opening.frames id' mark' (openings (prepare false takesCode i ps).2)) := by
  induction ps generalizing i with
  | nil => exact .nil
  | cons p ps ih =>
    simp only [prepare, Bool.false_and, Bool.false_eq_true, if_false]
    split
    · exact .code p (ih (i + 1))
    · split
      · next hplain =>
        exact .literal (Bool.and_eq_true_iff.1 hplain).2 _ mark' (ih (i + 1))
      · exact .evaluated ⟨rfl, rfl, .nil, .nil⟩ (Opening.isFresh_idle p true _ _) rfl (ih (i + 1))

/-- Only where plain arguments are known there are literal ones. -/
theorem literals_of_mem_prepare {literals : Bool} {i : Nat} {ps : List Passage} {text : String}
    (h : .literal text ∈ (prepare literals takesCode i ps).1) : literals = true := by
  induction ps generalizing i with
  | nil => cases h
  | cons p ps ih =>
    simp only [prepare] at h
    split at h
    · exact ih (List.mem_of_ne_of_mem (by simp) h)
    · split at h
      · next hplain => exact (Bool.and_eq_true_iff.1 hplain).1
      · exact ih (List.mem_of_ne_of_mem (by simp) h)

/-- Where plain arguments are known, the passages that are evaluated are not plain. -/
theorem not_isPlain_of_mem_prepare (i : Nat) (ps : List Passage) :
    ∀ p ∈ (prepare true takesCode i ps).2, isPlain p = false := by
  induction ps generalizing i with
  | nil => exact nofun
  | cons p ps ih =>
    simp only [prepare, Bool.true_and]
    split
    · exact ih (i + 1)
    · split
      · exact ih (i + 1)
      · next hplain => exact List.forall_mem_cons.2 ⟨by simpa using hplain, ih (i + 1)⟩

/-- If there are literal arguments, the passages that are evaluated begin with a token. -/
theorem prepare_starts (literals : Bool) (i : Nat) (ps : List Passage) (id mark : Nat)
    (text : String) (htext : .literal text ∈ (prepare literals takesCode i ps).1) :
    ∀ f ∈ Opening.frames id mark (openings (prepare literals takesCode i ps).2), f.Reads := by
  obtain rfl := literals_of_mem_prepare takesCode htext
  intro f hf
  obtain ⟨o, ho, j, rfl⟩ := Opening.mem_frames hf
  obtain ⟨p, hp, rfl⟩ := List.mem_map.1 ho
  exact ⟨rfl, Passage.exists_read_of_not_isPlain (not_isPlain_of_mem_prepare takesCode i ps p hp)⟩

/-- Passages each of which has its own result. -/
theorem todo_frames {os : List Opening} (hos : ∀ o ∈ os, o.IsFresh ∧ o.owns = true)
    (id id' mark mark' : Nat) :
    Todo (List.replicate os.length .evaluated) (Opening.frames id mark os)
      (Opening.frames id' mark' os) := by
  induction os with
  | nil => exact .nil
  | cons o os ih =>
    obtain ⟨⟨hfresh, howns⟩, hos⟩ := List.forall_mem_cons.1 hos
    refine .evaluated ⟨rfl, rfl, ?_, ?_⟩ (hfresh _ _) howns (ih hos)
    · exact List.forall₂_same.2 fun a _ => .refl a
    · exact List.forall₂_same.2 fun a _ => .refl a

/-- If the second has no frames, only code is left. -/
theorem Todo.done {slots : List Slot} {fs fs' : List Frame} (h : Todo slots fs fs')
    (hnone : fs' = []) : fs = [] ∧ Done slots.reverse [] [] := by
  have hcode : fs = [] ∧ ∀ x ∈ slots, ∃ p, x = .code p := by
    induction h with
    | nil => exact ⟨rfl, nofun⟩
    | evaluated | literal => cases hnone
    | code p _ ih =>
      obtain ⟨hfs, hrest⟩ := ih hnone
      exact ⟨hfs, List.forall_mem_cons.2 ⟨⟨p, rfl⟩, hrest⟩⟩
  refine ⟨hcode.1, ?_⟩
  have hreverse : ∀ x ∈ slots.reverse, ∃ p, x = Slot.code p := fun x hx =>
    hcode.2 x (List.mem_reverse.1 hx)
  generalize slots.reverse = l at hreverse
  induction l with
  | nil => exact .nil
  | cons x l ih =>
    obtain ⟨⟨p, rfl⟩, hrest⟩ := List.forall_mem_cons.1 hreverse
    exact .code p (ih hrest)

end Slot

namespace Machine

variable {s : Setting} {m : Machine s} {m' : Machine s.evaluating} {outs outs' : List Output}

/-! ## What comes of a step -/

/-- The machines wait for frames to be run, for which the slots are still to be done. -/
structure Pends (f f' : Frame) (x x' : Strata) (o : ChannelStack) (done todo : List Slot)
    (outs outs' : List Output) (later later' : List Frame) (m : Machine s)
    (m' : Machine s.evaluating) : Prop where
  agree : m.Agree m'
  waits : f.Waits (done.reverse ++ todo) f'
  progress : Slot.Progress done todo outs outs' later later'
  level : Level f f' x x'
  strata : (⟨m.frames, m.outputs, m.results⟩ : Strata) = x.await f o later outs
  strata' : (⟨m'.frames, m'.outputs, m'.results⟩ : Strata) = x'.await f' o later' outs'

/-- The machines wait, with some slots still to be done. -/
def Awaits (todo : List Slot) (m : Machine s) (m' : Machine s.evaluating) : Prop :=
  ∃ f f' x x' o done outs outs' later later',
    Pends f f' x x' o done todo outs outs' later later' m m'

/-- The machines rest, or wait, or are over with the same results. -/
inductive Stands (m : Machine s) (m' : Machine s.evaluating) : Prop
  | idle (h : Idle m m')
  | awaits {todo : List Slot} (h : Awaits todo m m')
  | ended (hframes : m.frames = []) (hframes' : m'.frames = []) (hresults : m'.results = m.results)
      (hregisters : m.registers.Twin m'.registers)

section

variable {x : Except RunError (Machine s)} {y : Except RunError (Machine s.evaluating)}

theorem follows_of_idle (h : Follows Idle x y) : Follows Stands x y := h.weaken fun _ _ => .idle

theorem follows_of_awaits {todo : List Slot} (h : Follows (Awaits todo) x y) :
    Follows Stands x y := h.weaken fun _ _ => .awaits

end

/-! ## Sane machines -/

namespace Sane

variable {due : Option Deferred} {α : Type}

theorem moveTo (h : m.Sane due) (p : Position) : (m.moveTo p).Sane due := ⟨h.coherent, h.neat⟩

theorem outputs_ne_nil (h : m.Sane due) (hframes : m.frames ≠ []) : m.outputs ≠ [] :=
  h.coherent.outputs_ne_nil hframes

/-- What a frame gives up is due. -/
theorem give (h : m.Sane none) {f : Frame} {below : List Frame} (hframes : m.frames = f :: below)
    (q : Frame → Frame) (hgives : f.Gives due (q f)) : (m.modifyTop q).Sane due := by
  have hstage : (m.modifyTop q).stage = { m.stage with frames := q f :: below } := by
    simp [stage, modifyTop, hframes]
  refine ⟨hstage ▸ h.coherent.give hframes hgives, ?_⟩
  intro g hg
  rw [frames_modifyTop hframes] at hg
  rcases List.mem_cons.1 hg with rfl | hg
  · exact (hgives.neat (h.neat f (hframes ▸ List.mem_cons_self))).1
  · exact h.neat g (hframes ▸ List.mem_cons_of_mem f hg)

theorem release {a : Deferred} (h : m.Sane (some a)) (ha : a.IsNeutral) : m.Sane none :=
  ⟨h.coherent.release (by rintro b ⟨⟩; exact ha), h.neat⟩

theorem takeResults (h : m.Sane due) (n : Nat) : (m.takeResults n).2.Sane due :=
  ⟨h.coherent.use n, h.neat⟩

/-- The reader of the innermost frame is of no consequence. -/
theorem withReader (h : m.Sane none) (r : Reader) : (m.withReader r).Sane none := by
  cases hframes : m.frames with
  | nil =>
    have hsame : m.withReader r = m := by
      obtain ⟨frames, hle, outputs, results, registers, blocks, position, nextId⟩ := m
      obtain rfl : frames = [] := hframes
      rfl
    rwa [hsame]
  | cons f below =>
    obtain ⟨⟨hunwinds, hids, hlt, hplaces, houtputs, hroot⟩, hneat⟩ := h
    have hstage : (m.withReader r).stage =
        { m.stage with frames := { f with reader := r } :: below } := by
      simp [stage, Machine.withReader, modifyTop, hframes]
    have hx : m.stage.frames = f :: below := hframes
    rw [hx] at hunwinds hids hlt houtputs hroot
    refine ⟨?_, ?_⟩
    · rw [hstage]
      refine ⟨hunwinds, hids, ?_, hplaces, houtputs, ?_⟩
      · exact List.forall_mem_cons.2 (List.forall_mem_cons.1 hlt)
      · cases below with
        | nil => simpa using hroot
        | cons => simpa using hroot
    · intro g hg
      rw [frames_withReader hframes] at hg
      rcases List.mem_cons.1 hg with rfl | hg
      · exact ⟨(hneat f (hframes ▸ List.mem_cons_self)).pre,
          (hneat f (hframes ▸ List.mem_cons_self)).post⟩
      · exact hneat g (hframes ▸ List.mem_cons_of_mem f hg)

theorem scan (h : m.Sane none) (r : Scan α) :
    Ensures (m.scan r) fun y => y.2.Sane none ∧ y.2.registers = m.registers := by
  refine ⟨fun y hy => ?_⟩
  simp only [Machine.scan] at hy
  split at hy
  · cases hy
  · split at hy
    · cases hy
    · next reader _ =>
      cases hy
      exact ⟨h.withReader reader, rfl⟩

/-- A tag that leaves a block has done nothing else. -/
theorem act_leave (h : m.Sane none) (hframes : m.frames ≠ []) (source : String) (c : Call)
    (tag : Tag) :
    Ensures (m.act (tag.perform s source c)) fun r => r.1 = .leave → r.2.Sane none := by
  refine (m.act_stage _).weaken fun r ⟨t, ht, hstage⟩ hleave => ?_
  have hconducts := (tag.conducts_perform s source c).of_ok _ _ _ ht
  rw [hleave] at hconducts
  have hsame : r.2.stage = m.stage := by
    rw [hstage, show t = m.stage.scene from hconducts]
    exact Stage.turn_scene (h.outputs_ne_nil hframes)
  have hframes' : r.2.frames = m.frames := congrArg Stage.frames hsame
  exact ⟨hsame ▸ h.coherent, fun g hg => h.neat g (hframes' ▸ hg)⟩

end Sane

theorem Rest.frames_ne_nil {P : Frame → Prop} (h : Rest P outs outs' m m') :
    m.frames ≠ [] ∧ m'.frames ≠ [] := by
  obtain ⟨_, _, _, _, -, htwin⟩ := h
  rw [htwin.frames, htwin.frames']
  exact ⟨List.cons_ne_nil _ _, List.cons_ne_nil _ _⟩

namespace Rest

variable {P : Frame → Prop}

theorem output_eq (h : Rest P outs outs' m m') : m'.output = m.output := by
  obtain ⟨_, _, _, _, -, htwin⟩ := h
  exact htwin.output_eq

theorem patternName_eq (h : Rest P outs outs' m m') : m'.patternName = m.patternName := by
  obtain ⟨_, _, _, _, -, htwin⟩ := h
  exact htwin.patternName_eq

theorem patternCode_eq (h : Rest P outs outs' m m') : m'.patternCode = m.patternCode := by
  obtain ⟨_, _, _, _, -, htwin⟩ := h
  exact htwin.patternCode_eq

theorem fault_eq (h : Rest P outs outs' m m') (e : Fault) : m'.fault e = m.fault e := by
  obtain ⟨_, _, _, _, -, htwin⟩ := h
  exact htwin.fault_eq e

/-! ## Blocks -/

theorem readBlock (h : Clear [] [] m m') :
    Follows (fun y y' => y.1 = y'.1 ∧ Clear [] [] y.2 y'.2) m.readBlock m'.readBlock := by
  obtain ⟨f, f', x, x', hpre, htwin⟩ := h
  have hknown : m'.known? (f.reader.passage.pattern, f.reader.index - 1) =
      m.known? (f.reader.passage.pattern, f.reader.index - 1) := by
    rw [known?, known?, htwin.agree.blocks]
    rfl
  simp only [Machine.readBlock, htwin.top?_eq.1, htwin.top?_eq.2, htwin.frame.reader, hknown]
  split
  · next known _ =>
    refine .pure ⟨rfl, { f with reader := f.reader.jump known.stop },
      { f' with reader := f'.reader.jump known.stop }, x, x', hpre, ?_⟩
    refine htwin.modifyTop (fun f => { f with reader := f.reader.jump known.stop })
      (fun f => { f with reader := f.reader.jump known.stop }) ?_ ⟨rfl, rfl, rfl⟩ ⟨rfl, rfl, rfl⟩
    exact { htwin.frame with reader := congrArg (Reader.jump · known.stop) htwin.frame.reader }
  · refine (scan ⟨f, f', x, x', hpre, htwin⟩ _).bind fun y y' hy => ?_
    obtain ⟨⟨block, stop⟩, n⟩ := y
    obtain ⟨y', n'⟩ := y'
    obtain ⟨rfl, g, g', z, z', hg, hn⟩ := hy
    refine .pure ⟨rfl, g, g', z, z', hg, ?_⟩
    exact { hn with agree := ⟨hn.agree.registers, congrArg (_ :: ·) hn.agree.blocks,
      hn.agree.position⟩ }

theorem enterBlock (h : Clear [] [] m m') (b : Block) :
    Follows Idle (m.enterBlock b) (m'.enterBlock b) := by
  have hattributes := h.agree.registers.rest_eq (f := Registers.attributes) fun _ _ _ => rfl
  unfold Machine.enterBlock
  dsimp only
  rw [hattributes]
  have htaken : Clear [] [] (m.change fun r =>
      { r with attributes := m.registers.attributes.afterTake })
      (m'.change fun r => { r with attributes := m.registers.attributes.afterTake }) :=
    h.changeBlind fun _ _ _ => rfl
  refine (htaken.act (blind_isEntered b m.registers.attributes)).bind fun y y' hy => ?_
  obtain ⟨entered, n⟩ := y
  obtain ⟨entered', n'⟩ := y'
  obtain ⟨rfl, hn⟩ := hy
  dsimp only at hn ⊢
  split
  · obtain ⟨f, f', x, x', hpre, htwin⟩ := hn
    have hcounted : Clear [] [] { n with nextId := n.nextId + 1 }
        { n' with nextId := n'.nextId + 1 } := by
      refine ⟨f, f', x, x', hpre, { htwin with agree := ?_ }⟩
      exact ⟨htwin.agree.registers, htwin.agree.blocks, htwin.agree.position⟩
    have hstarted := htwin.agree.registers.withRepeaters (.cons
      (.intro n'.nextId ((n'.top?.map (·.id)).getD 0) : Repeater.Twin
        (.start n.nextId ((n.top?.map (·.id)).getD 0) b m.registers.attributes) _)
      htwin.agree.registers.repeaters)
    exact .pure ((hcounted.change hstarted).defer (.iterate _ _) rfl)
  · exact .pure hn.idle

theorem beginRepetition (h : Idle m m') {r r' : Repeater} (hr : r.Twin r') :
    Follows Idle (m.beginRepetition r) (m'.beginRepetition r') := by
  cases hr with
  | intro id base =>
    unfold Machine.beginRepetition
    dsimp only
    refine (h.pushAny _ (.cons (.suppress _ _) .nil) (.cons (.restore _ _) .nil) rfl).bind
      fun n₁ n₁' h₁ => ?_
    refine (h₁.pushAny _ .nil (.cons (.advance _ _) .nil) rfl).bind fun n₂ n₂' h₂ => ?_
    refine (h₂.act (blind_chooseItem _ _)).bind fun y y' hy => ?_
    obtain ⟨i, n₃⟩ := y
    obtain ⟨i', n₃'⟩ := y'
    obtain ⟨rfl, h₃⟩ := hy
    refine (h₃.pushAny _ .nil ?_ rfl).bind fun n₄ n₄' h₄ => h₄.pushAny _ .nil .nil rfl
    split
    · exact .nil
    · exact .cons (.advance _ _) .nil

theorem iterate (h : Clear [] [] m m') {i j : Nat} (hm : m.Sane (some (.iterate i)))
    (hm' : m'.Sane (some (.iterate j))) : Follows Idle (m.iterate i) (m'.iterate j) := by
  obtain ⟨⟨size, others, hplaces, hothers⟩, -⟩ := hm.coherent.unwinds
  obtain ⟨⟨size', others', hplaces', hothers'⟩, -⟩ := hm'.coherent.unwinds
  have hinner : m.registers.Innermost i := ⟨_, _, hplaces, rfl, hothers⟩
  have hinner' : m'.registers.Innermost j := ⟨_, _, hplaces', rfl, hothers'⟩
  have hrepeater := h.agree.registers.repeater?
  unfold Machine.iterate
  rw [hinner.findRepeater?_eq, hinner'.findRepeater?_eq]
  generalize m.registers.repeater? = y, m'.registers.repeater? = y' at hrepeater
  cases hrepeater with
  | none => exact .pure h.idle
  | some hr =>
    dsimp only
    rw [hr.isFinished_eq]
    split
    · refine .pure (h.change ?_).idle
      rw [hinner.removeRepeater_eq, hinner'.removeRepeater_eq]
      exact h.agree.registers.tail
    · exact (h.defer (.iterate i j) rfl).beginRepetition hr

/-! ## Calls -/

theorem follow (h : Clear [] [] m m') (next : Next)
    (hleave : next = .leave → m.Sane none ∧ m'.Sane none) :
    Follows Idle (m.follow next) (m'.follow next) := by
  cases next with
  | stay => exact .pure h.idle
  | run p => exact h.idle.run p
  | runThen code sequel =>
    exact (h.defer (.refl (.finish sequel)) rfl).pushAny code .nil .nil rfl
  | leave => exact .pure (h.leave (hleave rfl).1 (hleave rfl).2)

theorem callTag (h : Clear [] [] m m') (hm : m.Sane none) (hm' : m'.Sane none) (tag : Tag)
    (name : Token) (arguments : List Argument) :
    Follows Idle (m.callTag tag name arguments) (m'.callTag tag name arguments) := by
  have hmoved := h.moveTo name.position
  have hleave := (hm.moveTo name.position).act_leave hmoved.frames_ne_nil.1
    (m.moveTo name.position).patternCode ⟨name.text, arguments⟩ tag
  have hleave' := (hm'.moveTo name.position).act_leave hmoved.frames_ne_nil.2
    (m.moveTo name.position).patternCode ⟨name.text, arguments⟩ tag
  unfold Machine.callTag
  dsimp only
  rw [hmoved.patternCode_eq]
  rw [Tag.perform_evaluating] at hleave' ⊢
  have hacts := hmoved.act (tag.blind_perform s (m.moveTo name.position).patternCode
    ⟨name.text, arguments⟩)
  generalize (m.moveTo name.position).act _ = y, (m'.moveTo name.position).act _ = y' at *
  cases hacts with
  | @ok a b hok =>
    obtain ⟨next, n⟩ := a
    obtain ⟨next', n'⟩ := b
    obtain ⟨rfl, hn⟩ := hok
    exact hn.follow next fun hnext => ⟨hleave.of_ok _ rfl hnext, hleave'.of_ok _ rfl hnext⟩
  | error e => exact .error e
  | deep _ he => exact .deep _ he

theorem callSubroutine (h : Clear [] [] m m') (called : Subroutine) (name : Token)
    (arguments : List Argument) :
    Follows Idle (m.callSubroutine called name arguments)
      (m'.callSubroutine called name arguments) := by
  unfold Machine.callSubroutine
  dsimp only
  refine Rest.run (Rest.defer ?_ (.refl .dropArguments) rfl) called.body
  exact (h.moveTo name.position).changeBlind fun _ _ _ => rfl

/-! ## Passages that are run apart -/

/-- An action is put off until passages have been run, for which the second may have more. -/
theorem postpone (h : Clear [] [] m m') {slots : List Slot} {a a' : Deferred}
    (hopens : a.Opens slots a') {os os' : List Opening} (howns : ∀ o ∈ os, o.owns = true)
    (howns' : ∀ o ∈ os', o.owns = true)
    (htodo : ∀ id id' mark mark',
      Slot.Todo slots (Opening.frames id mark os) (Opening.frames id' mark' os'))
    (hstarts : ∀ id mark text, .literal text ∈ slots →
      ∀ f ∈ Opening.frames id mark os, f.Reads) :
    Follows (Awaits slots) ((m.defer a).pushes os.reverse) ((m'.defer a').pushes os'.reverse) := by
  obtain ⟨f, f', x, x', hpre, htwin⟩ := h
  obtain ⟨o, ho, ho'⟩ := htwin.outputs
  have hpre' := htwin.frame.pre_eq_nil hpre
  have hframes : (m.defer a).frames = { f with pre := a :: f.pre } :: x.frames :=
    frames_modifyTop htwin.frames _
  have hframes' : (m'.defer a').frames = { f' with pre := a' :: f'.pre } :: x'.frames :=
    frames_modifyTop htwin.frames' _
  have hmore : os.length ≤ os'.length := by
    simpa using (htodo 0 0 0 0).length_le
  have hheight : (m.defer a).frames.length ≤ (m'.defer a').frames.length := by
    rw [hframes, hframes']
    exact Nat.succ_le_succ htwin.level.length_le
  by_cases hdepth : (m'.defer a').frames.length + os'.length ≤ s.maxDepth
  · have hdepth₁ : (m.defer a).frames.length + os.reverse.length ≤ s.maxDepth := by
      rw [List.length_reverse]
      omega
    have hdepth' : (m'.defer a').frames.length + os'.reverse.length ≤ s.evaluating.maxDepth := by
      rw [List.length_reverse]
      exact hdepth
    obtain ⟨n, hn, hblocks, hposition⟩ := pushes_of_le hdepth₁
    obtain ⟨n', hn', hblocks', hposition'⟩ := pushes_of_le hdepth'
    obtain ⟨hpushed, houtputs, hresults, hregisters⟩ := pushes_result hn howns
    obtain ⟨hpushed', houtputs', hresults', hregisters'⟩ := pushes_result hn' howns'
    rw [hn, hn']
    refine .ok ⟨{ f with pre := a :: f.pre }, { f' with pre := a' :: f'.pre }, x, x', o, [], [], [],
      Opening.frames (m.defer a).nextId (m.defer a).results.length os,
      Opening.frames (m'.defer a').nextId (m'.defer a').results.length os', ?_⟩
    exact
      { agree := ⟨hregisters ▸ hregisters' ▸ htwin.agree.registers,
          hblocks'.trans (htwin.agree.blocks.trans hblocks.symm),
          hposition'.trans (htwin.agree.position.trans hposition.symm)⟩
        waits := ⟨htwin.frame.reader, htwin.frame.owns,
          ⟨a, a', by rw [hpre], by rw [hpre'], hopens⟩, htwin.frame.post⟩
        progress := ⟨.nil, htodo _ _ _ _, hstarts _ _⟩
        level := htwin.level.continues ⟨rfl, rfl, rfl⟩ ⟨rfl, rfl, rfl⟩
        strata := by
          rw [hpushed, houtputs, hresults, hframes]
          simp only [Strata.await, Opening.length_frames]
          rw [← htwin.results, ← ho]
          rfl
        strata' := by
          rw [hpushed', houtputs', hresults', hframes']
          simp only [Strata.await, Opening.length_frames]
          rw [← htwin.results', ← ho']
          rfl }
  · have hdeep : s.evaluating.maxDepth < (m'.defer a').frames.length + os'.reverse.length := by
      rw [List.length_reverse]
      exact Nat.not_le.1 hdepth
    obtain ⟨e, he, hdeep⟩ := pushes_of_lt hdeep
    rw [he]
    exact .deep _ hdeep

/-- An action that is the same for both is put off until the same passages have been run. -/
theorem postponeSame (h : Clear [] [] m m') {a : Deferred} (ha : a.TakesPrinted)
    {os : List Opening} (hos : ∀ o ∈ os, o.IsFresh ∧ o.owns = true) (huses : a.uses = os.length) :
    Follows Stands ((m.defer a).pushes os.reverse) ((m'.defer a).pushes os.reverse) := by
  have hopens : a.Opens (List.replicate os.length .evaluated) a := huses ▸ .same ha
  refine follows_of_awaits (h.postpone hopens (fun o ho => (hos o ho).2)
    (fun o ho => (hos o ho).2) (Slot.todo_frames hos) fun id mark text htext => ?_)
  cases List.eq_of_mem_replicate htext

theorem runApart (h : Clear [] [] m m') {a : Deferred} (ha : a.TakesPrinted) (huses : a.uses = 1)
    (p : Passage) : Follows Stands ((m.defer a).runApart [p]) ((m'.defer a).runApart [p]) := by
  rw [runApart_eq_pushes, runApart_eq_pushes]
  exact h.postponeSame ha (Opening.isFresh_map_idle [p] true) huses

/-! ## Results -/

theorem takeResults (h : Rest P outs outs' m m') :
    (m.takeResults outs.length).1 = (outs.map (·.main)).reverse ∧
      (m'.takeResults outs'.length).1 = (outs'.map (·.main)).reverse ∧
      Rest P [] [] (m.takeResults outs.length).2 (m'.takeResults outs'.length).2 := by
  obtain ⟨f, f', x, x', hP, htwin⟩ := h
  refine ⟨?_, ?_, f, f', x, x', hP, { htwin with agree := ?_, results := ?_, results' := ?_ }⟩
  · simp [Machine.takeResults, htwin.results]
  · simp [Machine.takeResults, htwin.results']
  · exact ⟨htwin.agree.registers, htwin.agree.blocks, htwin.agree.position⟩
  · simp [Machine.takeResults, htwin.results]
  · simp [Machine.takeResults, htwin.results']

theorem takeResult {o : Output} (h : Rest P [o] [o] m m') :
    m.takeResult.1 = o.main ∧ m'.takeResult.1 = o.main ∧
      Rest P [] [] m.takeResult.2 m'.takeResult.2 := by
  obtain ⟨f, f', x, x', hP, htwin⟩ := h
  refine ⟨?_, ?_, f, f', x, x', hP, { htwin with agree := ?_, results := ?_, results' := ?_ }⟩
  · simp [Machine.takeResult, htwin.results]
  · simp [Machine.takeResult, htwin.results']
  · exact ⟨htwin.agree.registers, htwin.agree.blocks, htwin.agree.position⟩
  · simp [Machine.takeResult, htwin.results]
  · simp [Machine.takeResult, htwin.results']

theorem compilePrinted {o : Output} (h : Clear [o] [o] m m') (name : String) :
    Follows (fun y y' => y.1 = y'.1 ∧ Clear [] [] y.2 y'.2) (m.compilePrinted name)
      (m'.compilePrinted name) := by
  obtain ⟨htext, htext', hrest⟩ := h.takeResult
  simp only [Machine.compilePrinted, htext, htext', hrest.patternName_eq]
  split
  · exact .pure ⟨rfl, hrest⟩
  · exact .throw _

theorem define (h : Clear [] [] m m') (made : Subroutine) :
    Clear [] [] (m.define made) (m'.define made) := h.changeBlind fun _ _ _ => rfl

theorem evaluate {o : Output} (h : Clear [o] [o] m m') (isSilent : Bool) :
    Follows (Clear [] []) (m.evaluate isSilent) (m'.evaluate isSilent) := by
  obtain ⟨htext, htext', hrest⟩ := h.takeResult
  simp only [Machine.evaluate, htext, htext']
  refine hrest.perform ?_
  split
  · split
    · exact .pure
    · exact Act.blind_printValue _
  · exact .throw

theorem replace {o : Output} (h : Clear [o] [o] m m') (regex : Regex) (code : Passage) :
    Follows Stands (m.replace regex code) (m'.replace regex code) := by
  obtain ⟨htext, htext', hrest⟩ := h.takeResult
  simp only [Machine.replace, htext, htext']
  generalize hfound : regex.allMatches o.main = found
  have hpushes : ∀ {s : Setting} (n : Machine s),
      found.reverse.foldlM (fun m x => m.push code true [.enterMatch x] [.leaveMatch]) n =
        n.pushes (found.map fun x =>
          (⟨code, true, [.enterMatch x], [.leaveMatch]⟩ : Opening)).reverse := by
    intro s n
    rw [← List.map_reverse, pushes, List.foldlM_map]
  cases found with
  | nil =>
    exact follows_of_idle ((hrest.perform (Act.blind_print _)).weaken fun _ _ => Rest.idle)
  | cons x found =>
    dsimp only
    rw [hpushes, hpushes]
    refine hrest.postponeSame (show Deferred.TakesPrinted (.join _ _) from trivial) ?_
      (by simp [Deferred.uses])
    have hasks : Deferred.Asks true _ ((x :: found).map fun x =>
        (⟨code, true, [.enterMatch x], [.leaveMatch]⟩ : Opening)) :=
      .matches hfound (List.cons_ne_nil _ _)
    exact hasks.isFresh

/-! ## Actions -/

theorem finish (h : Clear [] [] m m') (q : Sequel) :
    Follows Idle (m.finish q) (m'.finish q) := by
  cases q with
  | merge => exact .pure (h.changeBlind (q := (·.mergeBranch)) fun _ _ _ => rfl).idle
  | dropComparison =>
    exact .pure (h.changeBlind (q := fun r => { r with comparisons := r.comparisons.tail })
      fun _ _ _ => rfl).idle
  | ifNothing size code =>
    simp only [Machine.finish, h.output_eq]
    exact .ite (h.idle.run code) (.pure h.idle)
  | ifAnything size code =>
    simp only [Machine.finish, h.output_eq]
    exact .ite (.pure h.idle) (h.idle.run code)

/-- The innermost repeater is changed. -/
theorem changeInnermost (h : Clear [] [] m m') {i j : Nat} (hi : m.registers.Innermost i)
    (hj : m'.registers.Innermost j) {q : Repeater → Repeater}
    (hq : ∀ x y : Repeater, x.Twin y → (q x).Twin (q y)) :
    Idle (m.change (·.modifyRepeater i q)) (m'.change (·.modifyRepeater j q)) := by
  refine (h.change ?_).idle
  rw [hi.modifyRepeater_eq, hj.modifyRepeater_eq]
  exact h.agree.registers.modifyHead hq

section Calls

variable {slots slots' : List Slot} (h : Clear outs outs' m m')
  (hcount : slots.countP (·.isEvaluated) = outs.length)
  (hcount' : slots'.countP (·.isEvaluated) = outs'.length)
  (hfill : Slot.fill slots (outs.map (·.main)).reverse =
    Slot.fill slots' (outs'.map (·.main)).reverse)

include h hcount hcount' hfill

/-- A tag is called that has the same arguments for both. -/
theorem takeTag (hm : m.Sane none) (hm' : m'.Sane none) (tag : Tag) (name : Token) :
    Follows Idle (m.take (.callTag tag name slots)) (m'.take (.callTag tag name slots')) := by
  obtain ⟨htexts, htexts', hrest⟩ := h.takeResults
  simp only [Machine.take, hcount, hcount', htexts, htexts', hfill]
  exact hrest.callTag (hm.takeResults _) (hm'.takeResults _) tag name _

/-- A subroutine is called that has the same arguments for both. -/
theorem takeSubroutine (called : Subroutine) (name : Token) :
    Follows Idle (m.take (.callSubroutine called name slots))
      (m'.take (.callSubroutine called name slots')) := by
  obtain ⟨htexts, htexts', hrest⟩ := h.takeResults
  simp only [Machine.take, hcount, hcount', htexts, htexts', hfill]
  exact hrest.callSubroutine called name _

end Calls

theorem takeJoin (h : Clear outs outs m m') (text : String) {spans : List (Nat × Nat)}
    (hcount : spans.length = outs.length) :
    Follows Idle (m.take (.join text spans)) (m'.take (.join text spans)) := by
  obtain ⟨htexts, htexts', hrest⟩ := h.takeResults
  simp only [Machine.take, hcount, htexts, htexts']
  exact (hrest.perform (Act.blind_print _)).weaken fun _ _ => Rest.idle

/-- An action that waits for nothing is taken. -/
theorem take (h : Clear [] [] m m') {a a' : Deferred} (ha : a.Twin a') (huses : a.uses = 0)
    (hm : m.Sane (some a)) (hm' : m'.Sane (some a')) : Follows Idle (m.take a) (m'.take a') := by
  have innermost : ∀ {s : Setting} {n : Machine s} {a : Deferred} {id : Nat}, n.Sane (some a) →
      (∃ p others, n.registers.places = p :: others ∧ p.id = id) → n.registers.Innermost id := by
    rintro s n a id hn ⟨p, others, hplaces, rfl⟩
    exact hn.coherent.unwinds.innermost hplaces
  cases ha with
  | iterate => exact h.iterate hm hm'
  | advance =>
    exact .pure (h.changeInnermost (innermost hm hm.coherent.unwinds.1)
      (innermost hm' hm'.coherent.unwinds.1) fun _ _ => Repeater.Twin.advance)
  | suppress =>
    exact .pure (h.changeInnermost (innermost hm hm.coherent.unwinds.1)
      (innermost hm' hm'.coherent.unwinds.1) fun _ _ => Repeater.Twin.suppress)
  | restore =>
    exact .pure (h.changeInnermost (innermost hm hm.coherent.unwinds.1)
      (innermost hm' hm'.coherent.unwinds.1) fun _ _ => Repeater.Twin.restore)
  | same hnone =>
    cases a with
    | iterate | advance | suppress | restore => exact absurd trivial hnone
    | callTag tag name slots =>
      have hneutral := Deferred.isNeutral_callTag tag name slots
      exact h.takeTag huses huses rfl (hm.release hneutral) (hm'.release hneutral) tag name
    | callSubroutine called name slots => exact h.takeSubroutine huses huses rfl called name
    | dropArguments =>
      exact .pure (h.changeBlind (q := fun r => { r with arguments := r.arguments.tail })
        fun _ _ _ => rfl).idle
    | finish q => exact h.finish q
    | enterMatch x =>
      exact .pure (h.changeBlind (q := fun r => { r with matched := x :: r.matched })
        fun _ _ _ => rfl).idle
    | leaveMatch =>
      exact .pure (h.changeBlind (q := fun r => { r with matched := r.matched.tail })
        fun _ _ _ => rfl).idle
    | join text spans => exact h.takeJoin text huses
    | define | runPrinted | evaluate | replace => cases huses

/-- An action is taken all of whose slots are done. -/
theorem takeOpened (h : Clear outs outs' m m') {slots : List Slot} {a a' : Deferred}
    (hopens : a.Opens slots a') (hdone : Slot.Done slots.reverse outs outs') (hm : m.Sane none)
    (hm' : m'.Sane none) : Follows Stands (m.take a) (m'.take a') := by
  have hcount : slots.countP (·.isEvaluated) = outs.length := by
    rw [hdone.length_eq, List.countP_reverse]
  cases hopens with
  | callTag tag name hslots =>
    have hcount' := hdone.length_eq_opened (List.forall₂_reverse_iff.2 hslots)
    rw [List.countP_reverse] at hcount'
    exact follows_of_idle (h.takeTag hcount hcount'.symm (hdone.fill hslots) hm hm' tag name)
  | callSubroutine called name hslots =>
    have hcount' := hdone.length_eq_opened (List.forall₂_reverse_iff.2 hslots)
    rw [List.countP_reverse] at hcount'
    exact follows_of_idle (h.takeSubroutine hcount hcount'.symm (hdone.fill hslots) called name)
  | same ha =>
    have hall : ∀ x ∈ (List.replicate a.uses Slot.evaluated).reverse, x = .evaluated := fun x hx =>
      List.eq_of_mem_replicate (List.mem_reverse.1 hx)
    obtain rfl := hdone.eq_of_evaluated hall
    have huses : a.uses = outs'.length := by
      rw [hdone.length_eq, List.countP_reverse, List.countP_replicate]
      rfl
    have single : a.uses = 1 → ∃ o, outs' = [o] := fun hone =>
      List.length_eq_one_iff.1 (huses.symm.trans hone)
    cases a with
    | define name parameters position =>
      obtain ⟨o, rfl⟩ := single rfl
      refine follows_of_idle (((h.moveTo position).compilePrinted name).bind fun y y' hy => ?_)
      obtain ⟨p, n⟩ := y
      obtain ⟨p', n'⟩ := y'
      obtain ⟨rfl, hn⟩ := hy
      exact .pure (hn.define _).idle
    | runPrinted position =>
      obtain ⟨o, rfl⟩ := single rfl
      refine follows_of_idle (((h.moveTo position).compilePrinted "meta").bind fun y y' hy => ?_)
      obtain ⟨p, n⟩ := y
      obtain ⟨p', n'⟩ := y'
      obtain ⟨rfl, hn⟩ := hy
      exact hn.idle.run p.passage
    | evaluate isSilent position =>
      obtain ⟨o, rfl⟩ := single rfl
      exact follows_of_idle (((h.moveTo position).evaluate isSilent).weaken fun _ _ => Rest.idle)
    | replace regex code position =>
      obtain ⟨o, rfl⟩ := single rfl
      exact (h.moveTo position).replace regex code
    | join text spans => exact follows_of_idle (h.takeJoin text huses)
    | _ => exact ha.elim

end Rest

end Machine

end Wordsmith
