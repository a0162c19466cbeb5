import Wordsmith.Proofs.Likeness.Machines
import Wordsmith.Proofs.Reach

/-!
# Steps one by one

What a step does is told by the innermost frame: an action that waits comes first, then the next
token, then the actions behind the tokens, and at last the frame goes. Here each of these steps is
an equation, for runs that are followed step by step.

An output to which nothing but plain text was printed has one channel with one chunk, which is that
text. As long as no case mode is set, no article is due and no limit is in force, printing puts text
behind it.

Main results: `step_take`, `step_read`, `step_pop`, and `perform_print`.
-/

namespace Wordsmith

/-! ## Printing plain text -/

/-- The channel is the main channel with one chunk, which is a text, with no article in it, and
changes no letters. -/
structure Channel.Holds (c : Channel) (text : String) : Prop where
  name : c.name = ChannelStack.mainName
  visibility : c.visibility = .public
  chunks : c.chunks = #[text]
  current : c.current = 0
  articles : c.articles = []
  mode : c.cursor.mode = .none

namespace Channel.Holds

variable {c : Channel} {text : String}

theorem apply {k : CaseCursor} (hk : k.mode = .none) (more : String) :
    (k.apply more).1 = more ∧ (k.apply more).2.mode = .none := by
  have hconvert : k.convert more.toList = (more.toList, k) := by
    simp only [CaseCursor.convert, hk]
  simp only [CaseCursor.apply, hconvert, String.ofList_toList, true_and]
  exact hk

theorem write (h : c.Holds text) (more : String) : (c.write more).Holds (text ++ more) := by
  unfold Channel.write
  split
  · next hempty =>
    rw [String.isEmpty_iff.1 hempty, String.append_empty]
    exact h
  · next hne =>
    obtain ⟨htext, hmode⟩ := apply h.mode more
    have happend : (c.commit (c.prepare more)) =
        { c with chunks := #[text ++ more], cursor := (c.cursor.apply more).2,
                 length := c.length + more.length } := by
      simp [commit, prepare, appendTo, refreshArticle, articleForm?, h.articles, h.current,
        h.chunks, htext, hne]
    rw [happend]
    exact ⟨h.name, h.visibility, rfl, h.current, h.articles, hmode⟩

end Channel.Holds

/-- The output has no channel but the main channel, which holds a text. -/
def ChannelStack.Holds (o : ChannelStack) (text : String) : Prop :=
  ∃ c : Channel, o = ⟨#[c], [0]⟩ ∧ c.Holds text

namespace ChannelStack.Holds

variable {o : ChannelStack} {text : String}

theorem initial : ChannelStack.initial.Holds "" := ⟨_, rfl, rfl, rfl, rfl, rfl, rfl, rfl⟩

theorem output_eq (h : o.Holds text) : o.output = ⟨[(mainName, text)]⟩ := by
  obtain ⟨c, rfl, hc⟩ := h
  simp [output, Channel.value, hc.name, hc.chunks]

theorem main (h : o.Holds text) : o.output.main = text := by
  rw [h.output_eq]
  rfl

/-- Without a limit, a write puts its text behind what is there. -/
theorem write (h : o.Holds text) (more : String) {b : Budget} (hb : b.limit = none) :
    ∃ o' b', o.write more b = .ok (o', b') ∧ o'.Holds (text ++ more) ∧ b'.limit = none := by
  unfold ChannelStack.write
  split
  · next hempty =>
    refine ⟨o, b, rfl, ?_, hb⟩
    rw [String.isEmpty_iff.1 hempty, String.append_empty]
    exact h
  · obtain ⟨c, rfl, hc⟩ := h
    have hactive : active ⟨#[c], [0]⟩ = [0] := by
      simp [active, reached, visibilityAt, hc.visibility]
    simp only [Budget.spend, hb, modifyActive, hactive]
    exact ⟨_, _, rfl, ⟨c.write more, rfl, hc.write more⟩, rfl⟩

end ChannelStack.Holds

namespace Act

variable {α β : Type}

theorem run_read_bind (f : Registers → α) (k : α → Act β) (scene : Scene) :
    (read f >>= k).run scene = (k (f scene.registers)).run scene := rfl

theorem run_change_bind (f : Registers → Registers) (k : Unit → Act β) (scene : Scene) :
    (change f >>= k).run scene = (k ()).run ⟨f scene.registers, scene.output⟩ := rfl

theorem run_draw_bind (f : Generator → α × Generator) (k : α → Act β) (scene : Scene) :
    (draw f >>= k).run scene = (k (f scene.registers.generator).1).run
      ⟨{ scene.registers with generator := (f scene.registers.generator).2 }, scene.output⟩ := rfl

end Act

namespace Machine

variable {s : Setting} {m : Machine s} {f : Frame} {below : List Frame}

theorem step_take (hframes : m.frames = f :: below) {action : Deferred} {pre : List Deferred}
    (hpre : f.pre = action :: pre) :
    m.step = (m.modifyTop fun f => { f with pre := pre }).take action := by
  simp only [step, hframes, hpre]

theorem step_read (hframes : m.frames = f :: below) (hpre : f.pre = []) {t : Token} {r : Reader}
    (hread : f.reader.read? = some (t, r)) :
    m.step = ((m.moveTo t.position).withReader r).runToken t := by
  simp only [step, hframes, hpre, hread]
  rfl

theorem step_pop (hframes : m.frames = f :: below) (hpre : f.pre = [])
    (hread : f.reader.read? = none) (hpost : f.post = []) : m.step = .ok m.pop := by
  simp only [step, hframes, hpre, hread, hpost]
  rfl

theorem step_end (hframes : m.frames = f :: below) (hpre : f.pre = [])
    (hread : f.reader.read? = none) {action : Deferred} {post : List Deferred}
    (hpost : f.post = action :: post) :
    m.step = (m.modifyTop fun f => { f with post := post }).take action := by
  simp only [step, hframes, hpre, hread, hpost]

theorem runApart_singleton (p : Passage) : m.runApart [p] = m.push p true [] [] := bind_pure _

/-- An act is known by what it makes of the scene. -/
theorem act_eq {α : Type} (m : Machine s) (a : Act α) : m.act a =
    match a.run ⟨m.registers, m.output⟩ with
    | .error e => .error (m.fault e)
    | .ok (x, scene) => .ok (x,
      { m with outputs := scene.output :: m.outputs.tail, registers := scene.registers }) := by
  obtain ⟨frames, hle, outputs, results, registers, blocks, position, nextId⟩ := m
  cases outputs with
  | nil =>
    simp only [act, output, List.headD_nil]
    rcases a.run ⟨registers, .initial⟩ with _ | ⟨_, _, _⟩ <;> rfl
  | cons o others =>
    simp only [act, output, List.headD_cons]
    rcases a.run ⟨registers, o⟩ with _ | ⟨_, _, _⟩ <;> rfl

theorem act_congr {α : Type} {a b : Act α}
    (h : a.run ⟨m.registers, m.output⟩ = b.run ⟨m.registers, m.output⟩) : m.act a = m.act b := by
  rw [act_eq, act_eq, h]

/-- The machine after an act, from the scene after it. -/
theorem act_of_run {α : Type} {a : Act α} {x : α} {scene : Scene}
    (h : a.run ⟨m.registers, m.output⟩ = .ok (x, scene)) : m.act a = .ok (x,
      { m with outputs := scene.output :: m.outputs.tail, registers := scene.registers }) := by
  rw [act_eq, h]

/-- What is said behind an act does not count for the machine. -/
theorem act_of_perform {α : Type} {a : Act Unit} {m' : Machine s} (h : m.perform a = .ok m')
    (x : α) : m.act (a >>= fun _ => pure x) = .ok (x, m') := by
  rw [perform, act_eq] at h
  cases hrun : a.run ⟨m.registers, m.output⟩ with
  | error => simp [hrun, Bind.bind, Except.bind] at h
  | ok r =>
    rw [hrun] at h
    cases h
    refine act_of_run ?_
    rw [StateT.run_bind, hrun]
    rfl

/-- The machine with plain text behind what it has printed to its output. -/
theorem exists_perform_print {text : String} (hb : m.registers.budget.limit = none)
    (ho : m.output.Holds text) (more : String) : ∃ o b, m.perform (Act.print more) = .ok
      { m with outputs := o :: m.outputs.tail, registers := { m.registers with budget := b } } ∧
        o.Holds (text ++ more) ∧ b.limit = none := by
  obtain ⟨o, b, hwrite, ho', hb'⟩ := ho.write more hb
  refine ⟨o, b, ?_, ho', hb'⟩
  have hprint : (Act.print more).run ⟨m.registers, m.output⟩ =
      .ok ((), ⟨{ m.registers with budget := b }, o⟩) := by
    simp only [StateT.run, Act.print, Act.spend, hwrite]
  rw [perform, act_of_run hprint]
  rfl

/-- A tag is called, and the run goes on as it says. -/
theorem callTag_of_act {tag : Tag} {name : Token} {arguments : List Argument} {next : Next}
    {m₁ : Machine s} (h : (m.moveTo name.position).act (tag.perform s
      (m.moveTo name.position).patternCode ⟨name.text, arguments⟩) = .ok (next, m₁)) :
    m.callTag tag name arguments = m₁.follow next := by
  rw [callTag, h]
  rfl

/-- The call of a tag whose arguments that were run are over. -/
def call (m : Machine s) (name : Token) (slots : List Slot) : Call :=
  ⟨name.text, Slot.fill slots (m.takeResults (slots.countP (·.isEvaluated))).1⟩

/-- The machine after a tag was called, with what it made of the scene. -/
def afterCall (m : Machine s) (name : Token) (slots : List Slot) (scene : Scene) : Machine s :=
  { (m.takeResults (slots.countP (·.isEvaluated))).2.moveTo name.position with
    outputs := scene.output :: m.outputs.tail
    registers := scene.registers }

/-- A tag is called in the scene of the machine, and the run goes on as it says. -/
theorem take_callTag (m : Machine s) (tag : Tag) (name : Token) (slots : List Slot) :
    m.take (.callTag tag name slots) =
      match (tag.perform s m.patternCode (m.call name slots)).run ⟨m.registers, m.output⟩ with
      | .error e => .error ((m.moveTo name.position).fault e)
      | .ok (next, scene) => (m.afterCall name slots scene).follow next := by
  have hcall : m.take (.callTag tag name slots) = Bind.bind
      (((m.takeResults (slots.countP (·.isEvaluated))).2.moveTo name.position).act
        (tag.perform s m.patternCode (m.call name slots))) fun made => made.2.follow made.1 := rfl
  rw [hcall, act_eq]
  have hscene : (tag.perform s m.patternCode (m.call name slots)).run
      ⟨((m.takeResults (slots.countP (·.isEvaluated))).2.moveTo name.position).registers,
        ((m.takeResults (slots.countP (·.isEvaluated))).2.moveTo name.position).output⟩ =
      (tag.perform s m.patternCode (m.call name slots)).run ⟨m.registers, m.output⟩ := rfl
  rw [hscene]
  cases (tag.perform s m.patternCode (m.call name slots)).run ⟨m.registers, m.output⟩ <;> rfl

/-- A tag that has a signature for its arguments is called once they have been run. -/
theorem runTag_of_find {name : Token} {arguments : List Passage} {entry : TagEntry}
    {called : Signature} (hfind : TagEntry.find? name.text = some entry)
    (hcalled : entry.signature? arguments.length = some called) :
    m.runTag name arguments = (m.moveTo name.position).takeAfter
      (.callTag called.tag name
        (Slot.prepare s.shortcuts.literals called.takesCode 0 arguments).1)
      (Slot.prepare s.shortcuts.literals called.takesCode 0 arguments).2 := by
  simp only [runTag, hfind, hcalled]

/-- A subroutine that takes as many arguments is called once they have been run. -/
theorem runCall_of_get {name : Token} {arguments : List Passage} {called : Subroutine}
    (hget : m.registers.subroutines.get? name.text = some called)
    (harity : called.arity = arguments.length) :
    m.runCall name arguments = (m.moveTo name.position).takeAfter
      (.callSubroutine called name
        (Slot.prepare s.shortcuts.literals called.takesCode 0 arguments).1)
      (Slot.prepare s.shortcuts.literals called.takesCode 0 arguments).2 := by
  have hget' : (m.moveTo name.position).registers.subroutines.get? name.text = some called := hget
  simp only [runCall, hget', harity, if_true]

theorem runToken_bracket (hframes : m.frames ≠ []) {t : Token} (ht : t.kind = .leftSquare)
    {r r' : Reader} {b : Bracket} (hb : Bracket.read Bracket.readReplacement r = (.ok b, r')) :
    (m.withReader r).runToken t = (m.withReader r').runBracket t b := by
  simp only [runToken, ht, scan_withReader hframes, hb]
  rfl

theorem runToken_constant {t : Token} (ht : t.kind = .constant) :
    m.runToken t = m.perform (Act.print (constantText t.text)) := by
  simp only [runToken, ht]

theorem runToken_plain {t : Token} (ht : t.kind = .text ∨ t.kind = .whitespace) :
    m.runToken t = m.perform (Act.print t.text) := by
  rcases ht with ht | ht <;> simp only [runToken, ht]

end Machine

/-! ## Tags whose arguments are code -/

/-- Code is not run for an argument. -/
theorem Slot.prepare_code (literals : Bool) {takesCode : Nat → Bool} {ps : List Passage} {i : Nat}
    (h : ∀ j < ps.length, takesCode (i + j) = true) :
    prepare literals takesCode i ps = (ps.map .code, []) := by
  induction ps generalizing i with
  | nil => rfl
  | cons p ps ih =>
    have hrest := ih (i := i + 1) fun j hj => by
      rw [Nat.add_right_comm]
      exact h (j + 1) (Nat.succ_lt_succ hj)
    have hfirst : takesCode i = true := h 0 (Nat.succ_pos _)
    simp only [prepare, hrest, hfirst, if_true, List.map_cons]

theorem Slot.fill_code (ps : List Passage) (texts : List String) :
    fill (ps.map .code) texts = ps.map .code := by
  induction ps with
  | nil => rfl
  | cons p ps ih => rw [List.map_cons, fill, ih, List.map_cons]

theorem TagEntry.find?_congr {name name' : String}
    (h : Text.asciiLower name = Text.asciiLower name') : find? name = find? name' := by
  simp only [find?, h]

/-- The frame is about to read a tag's name and arguments in square brackets, behind which its
reader stands then. -/
structure Frame.Faces (f : Frame) (name : Token) (arguments : List Passage) (behind : Reader) :
    Prop where
  pre : f.pre = []
  reads : ∃ t r, f.reader.read? = some (t, r) ∧ t.kind = .leftSquare ∧
    Bracket.read Bracket.readReplacement r = (.ok (.tag name arguments), behind)

/-- The tag that the frame is about to read, if it is: its name, its arguments and the reader behind
them. -/
def Frame.facing? (f : Frame) : Option (Token × List Passage × Reader) :=
  match f.pre, f.reader.read? with
  | [], some (t, r) =>
    match t.kind, Bracket.read Bracket.readReplacement r with
    | .leftSquare, (.ok (.tag name arguments), behind) => some (name, arguments, behind)
    | _, _ => none
  | _, _ => none

theorem Frame.faces_of_facing? {f : Frame} {name : Token} {arguments : List Passage}
    {behind : Reader} (h : f.facing? = some (name, arguments, behind)) :
    f.Faces name arguments behind := by
  unfold facing? at h
  split at h
  · next t r hpre hread =>
    split at h
    · next ht hbracket =>
      cases h
      exact ⟨hpre, t, r, hread, ht, hbracket⟩
    · cases h
  · cases h

namespace Machine

variable {s : Setting} {m : Machine s} {f : Frame} {below : List Frame} {name : Token}
  {arguments : List Passage} {r : Reader}

theorem frames_modifyTop (hframes : m.frames = f :: below) (g : Frame → Frame) :
    (m.modifyTop g).frames = g f :: below := congrArg (List.modifyHead g) hframes

theorem frames_withReader (hframes : m.frames = f :: below) (r : Reader) :
    (m.withReader r).frames = { f with reader := r } :: below := frames_modifyTop hframes _

/-- The next tag is run. -/
theorem step_tag (hframes : m.frames = f :: below) (h : f.Faces name arguments r) :
    m.step = (m.withReader r).runTag name arguments := by
  obtain ⟨hpre, t, r₁, hread, ht, hbracket⟩ := h
  have hne : (m.moveTo t.position).frames ≠ [] := List.ne_nil_of_mem (hframes ▸ List.mem_cons_self)
  exact (step_read hframes hpre hread).trans (runToken_bracket hne ht hbracket)

/-- A tag that takes code and nothing else is called at once. -/
theorem runTag_code {entry : TagEntry} {called : Signature}
    (hfind : TagEntry.find? name.text = some entry)
    (hcalled : entry.signature? arguments.length = some called)
    (hcode : ∀ i < arguments.length, called.takesCode i = true) :
    m.runTag name arguments =
      (m.moveTo name.position).callTag called.tag name (arguments.map .code) := by
  have hprepare : Slot.prepare s.shortcuts.literals called.takesCode 0 arguments =
      (arguments.map .code, []) :=
    Slot.prepare_code _ fun i hi => (Nat.zero_add i).symm ▸ hcode i hi
  have hcount : (arguments.map Slot.code).countP (·.isEvaluated) = 0 := by
    simp [List.countP_eq_zero, Slot.isEvaluated]
  simp only [runTag_of_find hfind hcalled, hprepare, takeAfter, take, hcount, Slot.fill_code]
  rfl

/-- With certain frames left, the code is run just if a condition holds. -/
def RunsIf (frames : List Frame) (code : Passage) (b : Prop) [Decidable b] (m : Machine s) : Prop :=
  ∃ m₁ : Machine s, m₁.frames = frames ∧ m.step = if b then m₁.run code else .ok m₁

end Machine

end Wordsmith
