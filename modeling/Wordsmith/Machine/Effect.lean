import Wordsmith.Machine.Stage

/-!
# What a step does

A step takes something off the innermost frame, an action or a token, and then has one of a dozen
effects on the stage, which are listed here once and for all. What all steps keep is shown by going
through this list.

Main result: `step_stage`, every step is one of those listed.
-/

namespace Wordsmith

/-! ## What is taken off a frame -/

/-- A call whose arguments need not be run. -/
def Deferred.IsReady : Deferred → Prop
  | callTag _ _ slots | callSubroutine _ _ slots => slots.countP (·.isEvaluated) = 0
  | _ => False

/-- A frame gives up an action or a token. A token may turn out to be an action that is due at
once; other tokens give no action. -/
inductive Frame.Gives (f : Frame) : Option Deferred → Frame → Prop
  | pre {action : Deferred} {pre : List Deferred} (h : f.pre = action :: pre) :
      f.Gives (some action) { f with pre := pre }
  | token {reader : Reader} (hpre : f.pre = []) (h : reader.remaining < f.reader.remaining) :
      f.Gives none { f with reader := reader }
  | call {reader : Reader} {action : Deferred} (hpre : f.pre = [])
      (h : reader.remaining < f.reader.remaining) (hready : action.IsReady) :
      f.Gives (some action) { f with reader := reader }
  | post {action : Deferred} {post : List Deferred} (hpre : f.pre = [])
      (hread : f.reader.read? = none) (h : f.post = action :: post) :
      f.Gives (some action) { f with post := post }

/-! ## Effects -/

/-- The action only uses results, takes turns in its scene and runs code. -/
def Deferred.IsPlain : Deferred → Prop
  | callTag .. | define .. | finish (.ifNothing ..) | finish (.ifAnything ..) | runPrinted .. |
    evaluate .. | replace .. | join .. => True
  | _ => False

/-- The action takes back what was put on a stack. A repeater is only removed when all repetitions
are over. -/
def Deferred.Undoes (r : Registers) : Deferred → Prop
  | dropArguments | finish .merge | finish .dropComparison | restore _ | enterMatch _ |
    leaveMatch => True
  | iterate id => ∃ x, r.findRepeater? id = some x ∧ x.isFinished = true
  | _ => False

/-- The number of results that an action uses up, if there is one. -/
def Deferred.usesOf (due : Option Deferred) : Nat := due.elim 0 uses

/-- An action that waits for passages to be run. -/
inductive Deferred.Awaits (literals : Bool) : Deferred → List Passage → Prop
  | callTag {tag : Tag} {name : Token} {takesCode : Nat → Bool} {arguments : List Passage} :
      Awaits literals (.callTag tag name (Slot.prepare literals takesCode 0 arguments).1)
        (Slot.prepare literals takesCode 0 arguments).2
  | callSubroutine {called : Subroutine} {name : Token} {takesCode : Nat → Bool}
      {arguments : List Passage} :
      Awaits literals (.callSubroutine called name (Slot.prepare literals takesCode 0 arguments).1)
        (Slot.prepare literals takesCode 0 arguments).2
  | define {name : String} {parameters : List Parameter} {position : Position} {body : Passage} :
      Awaits literals (.define name parameters position) [body]
  | runPrinted {position : Position} {body : Passage} :
      Awaits literals (.runPrinted position) [body]
  | evaluate {isSilent : Bool} {position : Position} {body : Passage} :
      Awaits literals (.evaluate isSilent position) [body]
  | replace {regex : Regex} {code : Passage} {position : Position} {input : Passage} :
      Awaits literals (.replace regex code position) [input]

/-- What is begun for a repetition, the outermost passage first: the separator, the text after, the
item and the text before. The last of them that belongs to the repetition ends it. -/
def Repeater.openings (r : Repeater) (item : Option Passage) : List Opening :=
  let separator := if r.index + 1 < r.count then r.attributes.separator else none
  let after := r.attributes.after
  separator.toList.map (⟨·, false, [.suppress r.id], [.restore r.id]⟩) ++
    after.toList.map (⟨·, false, [], [.advance r.id]⟩) ++
    item.toList.map (⟨·, false, [], if after.isSome then [] else [.advance r.id]⟩) ++
    r.attributes.before.toList.map (⟨·, false, [], []⟩)

namespace Stage

/-- What becomes of a stage, given the action that is due. -/
inductive Effect (literals : Bool) (x : Stage) : Option Deferred → Stage → Prop
  /-- Turns in the scene. -/
  | act {due : Option Deferred} {s : Scene} (hdue : ∀ a ∈ due, a.IsPlain)
      (h : x.scene.Turns s) : Effect literals x due ((x.use (Deferred.usesOf due)).turn s)
  /-- Turns in the scene, and then code that prints to the same output. -/
  | run {due : Option Deferred} {s : Scene} {p : Passage} (hdue : ∀ a ∈ due, a.IsPlain)
      (h : x.scene.Turns s) :
      Effect literals x due (((x.use (Deferred.usesOf due)).turn s).enter ⟨p, false, [], []⟩)
  /-- A tag that still does something behind its code. -/
  | runThen {tag : Tag} {name : Token} {slots : List Slot} {s : Scene} {q : Sequel}
      {code : Option Passage} (hq : q ≠ .dropComparison) (h : x.scene.Turns s) :
      Effect literals x (some (.callTag tag name slots))
        ((((x.use (slots.countP (·.isEvaluated))).turn s).defer (.finish q)).enterAll
          (code.toList.map (⟨·, false, [], []⟩)))
  /-- The tag that compares. -/
  | compare {tag : Tag} {name : Token} {slots : List Slot} {c : Comparison}
      {code : Option Passage} :
      Effect literals x (some (.callTag tag name slots))
        ((((x.use (slots.countP (·.isEvaluated))).change fun r =>
          { r with comparisons := c :: r.comparisons }).defer (.finish .dropComparison)).enterAll
            (code.toList.map (⟨·, false, [], []⟩)))
  /-- The call of a subroutine. -/
  | call {called : Subroutine} {name : Token} {slots : List Slot} {table : Named Argument} :
      Effect literals x (some (.callSubroutine called name slots))
        ((((x.use (slots.countP (·.isEvaluated))).change fun r =>
          { r with arguments := table :: r.arguments }).defer .dropArguments).enter
            ⟨called.body, false, [], []⟩)
  /-- The tag that leaves a block. -/
  | leave {tag : Tag} {name : Token} {slots : List Slot} {y : Stage}
      (h : (x.use (slots.countP (·.isEvaluated))).Leaves y) :
      Effect literals x (some (.callTag tag name slots)) y
  /-- An action that takes something back. -/
  | undo {action : Deferred} (h : action.Undoes x.registers) :
      Effect literals x (some action) (x.change (·.undo action))
  | advance {id : Nat} :
      Effect literals x (some (.advance id)) (x.change (·.modifyRepeater id (·.advance)))
  | suppress {id : Nat} :
      Effect literals x (some (.suppress id)) (x.change (·.modifyRepeater id (·.suppress)))
  /-- There is no repeater to go on with. -/
  | gone {id : Nat} (h : x.registers.findRepeater? id = none) :
      Effect literals x (some (.iterate id)) x
  /-- A repetition begins. -/
  | iterate {r : Repeater} {s : Scene} {item : Option Passage}
      (hfind : x.registers.findRepeater? r.id = some r) (hrun : r.isFinished = false)
      (h : x.scene.Turns s) (hitem : 0 < r.block.size → item.isSome) :
      Effect literals x (some (.iterate r.id))
        (((x.turn s).defer (.iterate r.id)).enterAll (r.openings item))
  /-- A block is entered. -/
  | block {b : Block} {a : Attributes} {s : Scene} (hsize : 0 < b.size) (h : x.scene.Turns s) :
      Effect literals x none ((x.turn s).startBlock b a)
  /-- An action waits for passages. -/
  | await {action : Deferred} {ps : List Passage} (h : action.Awaits literals ps) (hps : ps ≠ []) :
      Effect literals x none ((x.defer action).enterAll (ps.reverse.map (⟨·, true, [], []⟩)))
  /-- Code is run for every match. -/
  | matches {regex : Regex} {code : Passage} {position : Position} {text : String}
      {found : List Regex.Match} (htext : (x.results.head?.map (·.main)).getD "" = text)
      (hall : regex.allMatches text = found) (hfound : found ≠ []) :
      Effect literals x (some (.replace regex code position))
        (((x.use 1).defer (.join text (found.map fun m => (m.start, m.stop)))).enterAll
          (found.reverse.map fun m => ⟨code, true, [.enterMatch m], [.leaveMatch]⟩))

/-- What one step does. -/
inductive Step (literals : Bool) (x : Stage) : Stage → Prop
  | go {f f' : Frame} {below : List Frame} {due : Option Deferred} {y : Stage}
      (hframes : x.frames = f :: below) (hf : f.Gives due f')
      (h : Effect literals { x with frames := f' :: below } due y) : Step literals x y
  | pop {f : Frame} {below : List Frame} (hframes : x.frames = f :: below) (hpre : f.pre = [])
      (hread : f.reader.read? = none) (hpost : f.post = []) : Step literals x x.pop

end Stage

/-! ## Acts of steps -/

namespace Machine

open Act

variable {s : Setting} {α : Type} {m : Machine s}

theorem turns_isEntered (b : Block) (a : Attributes) : (isEntered b a).Turns := by
  unfold isEntered
  exact .ite .pure (.ite ((turns_draw _).bind fun _ => .pure) .pure)

/-- A block without items is not entered. -/
theorem isEntered_makes (b : Block) (a : Attributes) :
    (isEntered b a).Makes fun s entered t => s.Turns t ∧ (entered = true → 0 < b.size) := by
  refine ⟨fun s entered t h => ⟨(turns_isEntered b a).of_ok s entered t h, ?_⟩⟩
  intro hentered
  by_cases hb : b.size = 0
  · simp only [isEntered, hb, true_or, if_true] at h
    cases h
    cases hentered
  · exact Nat.pos_of_ne_zero hb

theorem drawItem_makes (b : Block) :
    (drawItem b).Makes fun s i t => s.Turns t ∧ (0 < b.size → i < b.size) := by
  unfold drawItem
  split
  · refine ⟨fun s i t h => ?_⟩
    cases h
    exact ⟨.single (.memory ⟨rfl, rfl, rfl, rfl, rfl⟩), fun hb => Generator.lessThan_lt _ hb⟩
  · split
    · next ws hws =>
      refine ⟨fun s i t h => ?_⟩
      cases h
      refine ⟨.single (.memory ⟨rfl, rfl, rfl, rfl, rfl⟩), fun _ => ?_⟩
      exact b.length_weights ▸ Weights.choose_lt hws s.registers.generator
    · exact .throw

/-- An item that is chosen is one of the block. -/
theorem chooseItem_makes (b : Block) (order : Option String) :
    (chooseItem b order).Makes fun s i t => s.Turns t ∧ (0 < b.size → i < b.size) := by
  cases order with
  | none => exact drawItem_makes b
  | some name =>
    refine Makes.after (turns_order _) (fun dealt => ?_)
      fun _ _ _ _ hst ⟨htu, hi⟩ => ⟨hst.trans htu, hi⟩
    cases dealt with
    | none => exact drawItem_makes b
    | some i => exact .pure fun s => ⟨.refl s, fun hb => by omega⟩

theorem turns_printFound (s : Setting) (found : Except QueryError String) :
    (printFound s found).Turns := by
  cases found with
  | ok word => exact turns_print word
  | error e => exact .ite .throw (turns_print _)

theorem turns_query (s : Setting) (text : String) : (query s text).Turns := by
  unfold query
  split
  · exact .throw
  · next q _ =>
    refine turns_get.bind fun scene => ?_
    exact .bind (turns_change _ fun _ => ⟨rfl, rfl, rfl, rfl, rfl⟩) fun _ => turns_printFound s _

theorem turns_printArticles (n : Nat) : (printArticles n).Turns := by
  induction n with
  | zero => exact .pure
  | succ n ih => exact turns_printArticle.bind fun _ => ih

theorem turns_escape (literal : String) : (escape literal).Turns := by
  unfold escape
  split
  · exact .throw
  · exact turns_printArticles _
  · exact (turns_draw _).bind fun _ => turns_print _
  · exact turns_print _

/-! ## Effects of actions -/

theorem finish_effect (h : m.outputs ≠ []) (q : Sequel) :
    Ensures (m.finish q) fun m' =>
      m.stage.Effect s.shortcuts.literals (some (.finish q)) m'.stage := by
  have idle : ∀ {due : Option Deferred}, (∀ a ∈ due, a.IsPlain) → Deferred.usesOf due = 0 →
      m.stage.Effect s.shortcuts.literals due m.stage := by
    intro due hdue huses
    have heffect : m.stage.Effect s.shortcuts.literals due _ := .act hdue (.refl m.stage.scene)
    rwa [huses, Stage.use_zero, Stage.turn_scene h] at heffect
  have code : ∀ {due : Option Deferred} (p : Passage), (∀ a ∈ due, a.IsPlain) →
      Deferred.usesOf due = 0 → Ensures (m.run p) fun m' =>
        m.stage.Effect s.shortcuts.literals due m'.stage := by
    intro due p hdue huses
    refine (m.push_stage p false [] []).weaken fun m' hm => ?_
    have heffect : m.stage.Effect s.shortcuts.literals due _ :=
      .run (p := p) hdue (.refl m.stage.scene)
    rwa [huses, Stage.use_zero, Stage.turn_scene h, ← hm] at heffect
  cases q with
  | merge => exact .pure (.undo trivial)
  | dropComparison => exact .pure (.undo trivial)
  | ifNothing size p =>
    refine .ite (fun _ => code p ?_ rfl) fun _ => .pure (idle ?_ rfl) <;>
    · rintro a ⟨⟩
      trivial
  | ifAnything size p =>
    refine .ite (fun _ => .pure (idle ?_ rfl)) fun _ => code p ?_ rfl <;>
    · rintro a ⟨⟩
      trivial

/-- A tag is called, with the results for its slots used up. -/
theorem callTag_effect {x : Stage} (h : x.outputs ≠ []) (tag : Tag) (name : Token)
    (slots : List Slot) (hm : m.stage = x.use (slots.countP (·.isEvaluated)))
    (arguments : List Argument) :
    Ensures (m.callTag tag name arguments) fun m' =>
      x.Effect s.shortcuts.literals (some (.callTag tag name slots)) m'.stage := by
  have plain : ∀ a ∈ some (Deferred.callTag tag name slots), a.IsPlain := by
    rintro a ⟨⟩
    trivial
  refine (Machine.act_stage (m.moveTo name.position) _).bind fun (next, m₁) ⟨t, ht, hm₁⟩ => ?_
  have hconducts := (tag.conducts_perform s _ _).of_ok _ _ _ ht
  have hscene : (m.moveTo name.position).stage.scene = x.scene := by
    show m.stage.scene = x.scene
    rw [hm]
    rfl
  have hstage : m₁.stage = (x.use (slots.countP (·.isEvaluated))).turn t := by
    rw [hm₁, ← hm]
    rfl
  rw [hscene] at hconducts
  cases next with
  | stay =>
    refine .pure ?_
    rw [hstage]
    exact .act plain hconducts
  | run p =>
    refine (m₁.push_stage p false [] []).weaken fun m' hm' => ?_
    rw [hm', hstage]
    exact .run plain hconducts
  | runThen code q =>
    refine ((m₁.defer (.finish q)).pushAny_stage code [] []).weaken fun m' hm' => ?_
    have hdefer : (m₁.defer (.finish q)).stage = m₁.stage.defer (.finish q) := rfl
    rw [hm', hdefer]
    cases q with
    | dropComparison =>
      obtain ⟨c, rfl⟩ := hconducts
      have hchange : m₁.stage = (x.use (slots.countP (·.isEvaluated))).change
          fun r => { r with comparisons := c :: r.comparisons } :=
        hstage.trans (Stage.turn_change (x := x.use _) h
          fun r => { r with comparisons := c :: r.comparisons })
      rw [hchange]
      exact .compare
    | _ =>
      rw [hstage]
      exact .runThen (by simp) hconducts
  | leave =>
    refine .pure (.leave ?_)
    have hidle : m₁.stage = x.use (slots.countP (·.isEvaluated)) := by
      rw [hstage, show t = x.scene from hconducts]
      exact Stage.turn_scene (x := x.use _) h
    exact hidle ▸ m₁.leave_stage

theorem callSubroutine_effect (called : Subroutine) (name : Token) (slots : List Slot) :
    Ensures (m.take (.callSubroutine called name slots)) fun m' =>
      m.stage.Effect s.shortcuts.literals (some (.callSubroutine called name slots)) m'.stage := by
  refine (push_stage ..).weaken fun m' hm => ?_
  rw [hm]
  exact .call

theorem define_effect (h : m.outputs ≠ []) (name : String) (parameters : List Parameter)
    (position : Position) :
    Ensures (m.take (.define name parameters position)) fun m' =>
      m.stage.Effect s.shortcuts.literals (some (.define name parameters position)) m'.stage := by
  refine (compilePrinted_stage _ _).bind fun (p, m₁) hm₁ => .pure ?_
  let remember (r : Registers) : Registers :=
    { r with subroutines := r.subroutines.insert name ⟨name, parameters, p.passage⟩ }
  have hchange : (m₁.define ⟨name, parameters, p.passage⟩).stage =
      (m.stage.use 1).change remember := by
    rw [show m.stage.use 1 = m₁.stage from hm₁.symm]
    rfl
  rw [hchange, ← Stage.turn_change (x := m.stage.use 1) h remember]
  refine .act ?_ (.single (.memory ⟨rfl, rfl, rfl, rfl, rfl⟩))
  rintro a ⟨⟩
  trivial

theorem runPrinted_effect (h : m.outputs ≠ []) (position : Position) :
    Ensures (m.take (.runPrinted position)) fun m' =>
      m.stage.Effect s.shortcuts.literals (some (.runPrinted position)) m'.stage := by
  refine (compilePrinted_stage _ _).bind fun (p, m₁) hm₁ => ?_
  refine (push_stage ..).weaken fun m' hm => ?_
  have hstage : m₁.stage = (m.stage.use 1).turn m.stage.scene := by
    rw [hm₁]
    exact (Stage.turn_scene (x := m.stage.use 1) h).symm
  rw [hm, hstage]
  refine .run ?_ (.refl _)
  rintro a ⟨⟩
  trivial

/-- An action that uses up results and prints something. -/
theorem perform_effect {x : Stage} {a : Act Unit} (ha : a.Turns) {action : Deferred}
    (haction : action.IsPlain) (hm : m.stage = x.use action.uses) :
    Ensures (m.perform a) fun m' =>
      x.Effect s.shortcuts.literals (some action) m'.stage := by
  refine (perform_turns ha m).weaken fun m' ⟨t, ht, hm'⟩ => ?_
  rw [hm', hm]
  refine .act ?_ (by rw [hm] at ht; exact ht)
  rintro a ⟨⟩
  exact haction

theorem evaluate_effect (isSilent : Bool) (position : Position) :
    Ensures (m.take (.evaluate isSilent position)) fun m' =>
      m.stage.Effect s.shortcuts.literals (some (.evaluate isSilent position)) m'.stage := by
  refine perform_effect ?_ (by trivial) (takeResult_stage (m.moveTo position))
  split
  · cases isSilent with
    | true => exact .pure
    | false => exact turns_printValue _
  · exact .throw

theorem replace_effect (regex : Regex) (code : Passage) (position : Position) :
    Ensures (m.take (.replace regex code position)) fun m' =>
      m.stage.Effect s.shortcuts.literals (some (.replace regex code position)) m'.stage := by
  show Ensures ((m.moveTo position).replace regex code) _
  unfold replace
  dsimp only
  split
  · exact perform_effect (turns_print _) trivial (takeResult_stage (m.moveTo position))
  · next hfound =>
    refine (foldlM_push_stage (fun x => ⟨code, true, [.enterMatch x], [.leaveMatch]⟩) _ _).weaken
      fun m' hm => ?_
    have hdefer : ∀ action, ((m.moveTo position).takeResult.2.defer action).stage =
        (m.stage.use 1).defer action := by
      intro action
      exact congrArg (·.defer action) (takeResult_stage (m.moveTo position))
    rw [hm, hdefer]
    exact .matches rfl rfl hfound

theorem beginRepetition_stage (m : Machine s) (r : Repeater) :
    Ensures (m.beginRepetition r) fun m' => ∃ t item, m.stage.scene.Turns t ∧
      (0 < r.block.size → item.isSome) ∧
        m'.stage = (m.stage.turn t).enterAll (r.openings item) := by
  refine (pushAny_stage ..).bind fun m₁ h₁ => (pushAny_stage ..).bind fun m₂ h₂ => ?_
  rw [h₁, ← Stage.enterAll_append] at h₂
  refine (act_stage m₂ _).bind fun (i, m₃) ⟨t, ht, h₃⟩ => ?_
  refine (pushAny_stage ..).bind fun m₄ h₄ => (pushAny_stage ..).weaken fun m' h => ?_
  have shared : ∀ o ∈ (if r.index + 1 < r.count then r.attributes.separator else none).toList.map
      (⟨·, false, [.suppress r.id], [.restore r.id]⟩ : Passage → Opening) ++
      r.attributes.after.toList.map (⟨·, false, [], [.advance r.id]⟩), o.owns = false := by
    intro o ho
    rcases List.mem_append.1 ho with ho | ho <;>
    · obtain ⟨p, -, rfl⟩ := List.mem_map.1 ho
      rfl
  obtain ⟨hturns, hi⟩ := (chooseItem_makes _ _).of_ok _ _ _ ht
  rw [h₂, Stage.scene_enterAll _ shared] at hturns
  refine ⟨t, r.block.items[i]?.map (·.code), hturns, fun hsize => ?_, ?_⟩
  · have hlt : i < r.block.items.size := hi hsize
    simp [Array.getElem?_eq_getElem hlt]
  · have hm₃ : m₃.stage = _ := h₃
    rw [h, h₄, hm₃, h₂, Stage.turn_enterAll _ _ shared]
    simp only [Repeater.openings, Stage.enterAll_append]

theorem iterate_effect (m : Machine s) (id : Nat) :
    Ensures (m.iterate id) fun m' =>
      m.stage.Effect s.shortcuts.literals (some (.iterate id)) m'.stage := by
  unfold iterate
  split
  · next hfind => exact .pure (.gone hfind)
  · next r hfind =>
    have hid : r.id = id := by simpa using List.find?_some hfind
    subst hid
    refine .ite (fun hfinished => ?_) fun hrun => ?_
    · exact .pure (.undo ⟨r, hfind, hfinished⟩)
    · refine (beginRepetition_stage _ r).weaken fun m' ⟨t, item, ht, hitem, hm⟩ => ?_
      rw [hm]
      exact .iterate hfind (by simpa using hrun) ht hitem

/-- Every action has one of the effects listed. -/
theorem take_effect (h : m.outputs ≠ []) (action : Deferred) :
    Ensures (m.take action) fun m' =>
      m.stage.Effect s.shortcuts.literals (some action) m'.stage := by
  cases action with
  | callTag tag name slots => exact callTag_effect h tag name slots (takeResults_stage m _) _
  | callSubroutine called name slots => exact callSubroutine_effect called name slots
  | dropArguments => exact .pure (.undo trivial)
  | define name parameters position => exact define_effect h name parameters position
  | iterate id => exact m.iterate_effect id
  | advance => exact .pure .advance
  | suppress => exact .pure .suppress
  | restore => exact .pure (.undo trivial)
  | finish q => exact finish_effect h q
  | runPrinted position => exact runPrinted_effect h position
  | evaluate isSilent position => exact evaluate_effect isSilent position
  | replace regex code position => exact replace_effect regex code position
  | join text spans =>
    exact perform_effect (turns_print _) trivial (takeResults_stage m spans.length)
  | enterMatch => exact .pure (.undo trivial)
  | leaveMatch => exact .pure (.undo trivial)

/-! ## Effects of tokens -/

/-- What a token makes of a machine once its own tokens are read: there is no action due but perhaps
a call that is ready. -/
def Handles (m m' : Machine s) : Prop :=
  ∃ due : Option Deferred, (∀ a ∈ due, a.IsReady) ∧
    m.stage.Effect s.shortcuts.literals due m'.stage

theorem handles_of_effect {m' : Machine s} (h : m.stage.Effect s.shortcuts.literals none m'.stage) :
    m.Handles m' := ⟨none, by simp, h⟩

theorem perform_handles {a : Act Unit} (ha : a.Turns) : Ensures (m.perform a) m.Handles := by
  refine (perform_turns ha m).weaken fun m' ⟨t, ht, hm⟩ => handles_of_effect ?_
  rw [hm]
  exact .act (by simp) ht

theorem runApart_handles {action : Deferred} {ps : List Passage}
    (h : action.Awaits s.shortcuts.literals ps) (hps : ps ≠ []) :
    Ensures ((m.defer action).runApart ps) m.Handles := by
  refine (runApart_stage _ ps).weaken fun m' hm => handles_of_effect ?_
  rw [hm]
  exact .await h hps

theorem takeAfter_handles (h : m.outputs ≠ []) {action : Deferred} {ps : List Passage}
    (haction : action.Awaits s.shortcuts.literals ps) (hready : ps = [] → action.IsReady) :
    Ensures (m.takeAfter action ps) m.Handles := by
  cases ps with
  | nil =>
    refine (take_effect h action).weaken fun m' hm => ⟨some action, ?_, hm⟩
    rintro a ⟨⟩
    exact hready rfl
  | cons p ps => exact runApart_handles haction (by simp)

theorem runTag_handles (h : m.outputs ≠ []) (name : Token) (arguments : List Passage) :
    Ensures (m.runTag name arguments) m.Handles := by
  unfold runTag
  dsimp only
  split
  · exact .throw
  · split
    · exact .throw
    · refine takeAfter_handles (m := m.moveTo name.position) h .callTag fun hnone => ?_
      show List.countP _ _ = 0
      rw [Slot.countP_prepare, hnone]
      rfl

theorem runCall_handles (h : m.outputs ≠ []) (name : Token) (arguments : List Passage) :
    Ensures (m.runCall name arguments) m.Handles := by
  unfold runCall
  dsimp only
  split
  · exact .throw
  · refine .ite (fun _ => ?_) fun _ => .throw
    refine takeAfter_handles (m := m.moveTo name.position) h .callSubroutine fun hnone => ?_
    show List.countP _ _ = 0
    rw [Slot.countP_prepare, hnone]
    rfl

theorem runReplacer_handles (m : Machine s) (literal : Token) (arguments : List Passage) :
    Ensures (m.runReplacer literal arguments) m.Handles := by
  unfold runReplacer
  dsimp only
  split
  · exact .throw
  · split
    · exact runApart_handles (m := m.moveTo literal.position) .replace (by simp)
    · exact .throw

theorem runBracket_handles (h : m.outputs ≠ []) (opener : Token) (b : Bracket) :
    Ensures (m.runBracket opener b) m.Handles := by
  cases b with
  | definition isMeta name parameters body =>
    refine .ite (fun _ => runApart_handles .define (by simp)) fun _ => .pure (handles_of_effect ?_)
    let remember (r : Registers) : Registers :=
      { r with subroutines := r.subroutines.insert name ⟨name, parameters, body⟩ }
    have hchange : (m.define ⟨name, parameters, body⟩).stage = m.stage.change remember := rfl
    rw [hchange, ← Stage.turn_change (x := m.stage) h remember]
    exact .act (by simp) (.single (.memory ⟨rfl, rfl, rfl, rfl, rfl⟩))
  | call name arguments => exact runCall_handles h name arguments
  | metapattern body => exact runApart_handles .runPrinted (by simp)
  | replacer literal arguments => exact m.runReplacer_handles literal arguments
  | tag name arguments => exact runTag_handles h name arguments

theorem enterBlock_handles (h : m.outputs ≠ []) (b : Block) :
    Ensures (m.enterBlock b) m.Handles := by
  let take (r : Registers) : Registers := { r with attributes := m.registers.attributes.afterTake }
  have htake : m.stage.scene.Turn ⟨take m.registers, m.stage.scene.output⟩ :=
    .memory ⟨rfl, rfl, rfl, rfl, rfl⟩
  have hchange : (m.change take).stage =
      m.stage.turn ⟨take m.registers, m.stage.scene.output⟩ := change_stage h take
  refine (act_stage (m.change take) _).bind fun (entered, m₁) ⟨t, ht, hm₁⟩ => ?_
  obtain ⟨hturns, hsize⟩ := (isEntered_makes b _).of_ok _ _ _ ht
  rw [hchange] at hturns hm₁
  have hm : m₁.stage = m.stage.turn t := hm₁
  have hall : m.stage.scene.Turns t := (Scene.Turns.single htake).trans hturns
  refine .ite (fun hentered => .pure (handles_of_effect ?_)) fun _ => .pure (handles_of_effect ?_)
  · have hblock : m.stage.Effect s.shortcuts.literals none _ :=
      .block (a := m.registers.attributes) (hsize hentered) hall
    rw [← hm] at hblock
    exact hblock
  · rw [hm]
    exact .act (by simp) hall

theorem readBlock_stage {f : Frame} {below : List Frame} (h : m.frames = f :: below) :
    Ensures m.readBlock fun x => ∃ reader, reader.remaining ≤ f.reader.remaining ∧
      x.2.stage = { m.stage with frames := { f with reader := reader } :: below } := by
  unfold readBlock
  simp only [top?, h, List.head?_cons]
  split
  · next known _ =>
    refine .pure ⟨f.reader.jump known.stop, Reader.jump_remaining_le .., ?_⟩
    simp [stage, modifyTop, h]
  · have hscan {items : List Passage} : Scan.Yields f.reader.remaining
        (do return (Block.ofPassages items, (← get).index)) fun _ => True :=
      .bind .get fun _ _ => .pure trivial
    exact (scan_stage h (Block.yields_readItems.bind fun _ _ => hscan)).bind fun _ h => .pure h

/-- What a token makes of a machine whose innermost frame is `f`: the frame gives up the tokens that
belong to it, and perhaps there is a call that is ready. -/
def Reads (m : Machine s) (f : Frame) (below : List Frame) (m' : Machine s) : Prop :=
  ∃ (reader : Reader) (due : Option Deferred), reader.remaining ≤ f.reader.remaining ∧
    (∀ a ∈ due, a.IsReady) ∧
    Stage.Effect s.shortcuts.literals
      { m.stage with frames := { f with reader := reader } :: below } due m'.stage

/-- Every token has one of the effects listed. -/
theorem runToken_effect {f : Frame} {below : List Frame} (h : m.frames = f :: below)
    (houtputs : m.outputs ≠ []) (t : Token) :
    Ensures (m.runToken t) (m.Reads f below) := by
  have same : ∀ {m' : Machine s}, m.Handles m' → m.Reads f below m' := by
    intro m' ⟨due, hready, heffect⟩
    have hstage : { m.stage with frames := { f with reader := f.reader } :: below } = m.stage := by
      simp [stage, h]
    exact ⟨f.reader, due, Nat.le_refl _, hready, hstage ▸ heffect⟩
  have passed : ∀ {m₁ m' : Machine s} {reader : Reader},
      reader.remaining ≤ f.reader.remaining →
      m₁.stage = { m.stage with frames := { f with reader := reader } :: below } →
      m₁.Handles m' → m.Reads f below m' := by
    intro m₁ m' reader hreader hm₁ ⟨due, hready, heffect⟩
    exact ⟨reader, due, hreader, hready, hm₁ ▸ heffect⟩
  have kept : ∀ {m₁ : Machine s} {frames : List Frame},
      m₁.stage = { m.stage with frames := frames } → m₁.outputs ≠ [] := by
    intro m₁ frames hm₁
    rwa [show m₁.outputs = m.outputs from congrArg Stage.outputs hm₁]
  unfold runToken
  split
  · refine (readBlock_stage h).bind fun x hx => ?_
    obtain ⟨b, m₁⟩ := x
    obtain ⟨reader, hreader, hm₁⟩ := hx
    exact (enterBlock_handles (kept hm₁) b).weaken fun m' => passed hreader hm₁
  · refine (scan_stage h (Bracket.yields_read Bracket.yields_readReplacement)).bind fun x hx => ?_
    obtain ⟨b, m₁⟩ := x
    obtain ⟨reader, hreader, hm₁⟩ := hx
    exact (runBracket_handles (kept hm₁) t b).weaken fun m' => passed hreader hm₁
  · refine (scan_stage h Scan.yields_expression).bind fun x hx => ?_
    obtain ⟨⟨isSilent, code⟩, m₁⟩ := x
    obtain ⟨reader, hreader, hm₁⟩ := hx
    exact (runApart_handles .evaluate (by simp)).weaken fun m' => passed hreader hm₁
  · refine (scan_stage h Scan.yields_query).bind fun x hx => ?_
    obtain ⟨code, m₁⟩ := x
    obtain ⟨reader, hreader, hm₁⟩ := hx
    exact (perform_handles (turns_query s code.text)).weaken fun m' => passed hreader hm₁
  · exact (perform_handles (turns_escape t.text)).weaken fun m' => same
  · exact (perform_handles (turns_print _)).weaken fun m' => same
  iterate 4 exact .throw
  · exact (perform_handles (turns_print _)).weaken fun m' => same

/-! ## Steps -/

/-- Every step is one of those listed. -/
theorem step_stage {f : Frame} {below : List Frame} (h : m.frames = f :: below)
    (houtputs : m.outputs ≠ []) :
    Ensures m.step fun m' => m.stage.Step s.shortcuts.literals m'.stage := by
  have changed : ∀ (m₁ : Machine s) (g : Frame → Frame), m₁.stage = m.stage →
      (m₁.modifyTop g).stage = { m.stage with frames := g f :: below } := by
    intro m₁ g hm₁
    have hframes : m₁.frames = f :: below := (congrArg Stage.frames hm₁).trans h
    rw [← hm₁]
    simp [stage, modifyTop, hframes]
  unfold step
  rw [h]
  dsimp only
  split
  · next action pre hpre =>
    refine (take_effect (m := m.modifyTop _) houtputs action).weaken fun m' hm' => ?_
    rw [changed m _ rfl] at hm'
    exact .go h (.pre hpre) hm'
  · next hpre =>
    split
    · next t reader hread =>
      have hless := Reader.read?_remaining_lt hread
      have hframes : ((m.moveTo t.position).modifyTop fun f => { f with reader := reader }).frames =
          { f with reader := reader } :: below :=
        congrArg Stage.frames (changed (m.moveTo t.position) _ rfl)
      refine (runToken_effect hframes houtputs t).weaken fun m' hreads => ?_
      obtain ⟨reader', due, hreader, hready, heffect⟩ := hreads
      have hless' : reader'.remaining < f.reader.remaining := Nat.lt_of_le_of_lt hreader hless
      rw [changed (m.moveTo t.position) _ rfl] at heffect
      cases due with
      | none => exact .go h (.token hpre hless') heffect
      | some action => exact .go h (.call hpre hless' (hready action rfl)) heffect
    · next hread =>
      split
      · next action post hpost =>
        refine (take_effect (m := m.modifyTop _) houtputs action).weaken fun m' hm' => ?_
        rw [changed m _ rfl] at hm'
        exact .go h (.post hpre hread hpost) hm'
      · next hpost => exact .pure (.pop h hpre hread hpost)

end Machine

end Wordsmith
