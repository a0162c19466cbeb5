import Wordsmith.Proofs.Caching
import Wordsmith.Proofs.Literals.Machines
import Wordsmith.Proofs.MatchStack
import Wordsmith.Proofs.Matches
import Wordsmith.Proofs.OutputTests
import Wordsmith.Proofs.Solvency
import Wordsmith.Proofs.Templates

/-!
# Replacing

A replacer runs its input in a frame with an output of its own. For each match in what that frame
printed, it puts a frame for its body on top, the last match first, so that the first match is run
first. When all bodies are over, their results are put in place of the matches, and the text is
printed.

Where the body is a template, this is the input with every match in it replaced by what the template
says for it, and nothing else is changed: not the results, not the matches that may wait from
replacers around this one, not the registers.

Main result: `Engine.replaces_matches`.
-/

namespace Wordsmith

/-! ## The limit -/

theorem Budget.limit_spend {b b' : Budget} {count : Nat} (h : b.spend count = .ok b') :
    b'.limit = b.limit := by
  rw [spend_eq h]

/-- No turn changes the limit. -/
theorem Scene.Turn.limit_eq {s t : Scene} (h : s.Turn t) :
    t.registers.budget.limit = s.registers.budget.limit := by
  cases h with
  | memory h => exact congrArg _ h.budget
  | mode | visit | close | mark | target | clear => rfl
  | print text hwrite =>
    unfold ChannelStack.write at hwrite
    split at hwrite
    · cases hwrite
      rfl
    · split at hwrite
      · cases hwrite
      · next hspend =>
        cases hwrite
        exact Budget.limit_spend hspend
  | article hwrite =>
    unfold ChannelStack.writeArticle at hwrite
    split at hwrite
    · cases hwrite
    · next hspend =>
      cases hwrite
      exact Budget.limit_spend hspend
  | send name value overwrite hwrite =>
    unfold ChannelStack.writeTarget at hwrite
    split at hwrite
    · cases hwrite
    · next hspend =>
      cases hwrite
      exact Budget.limit_spend hspend

namespace Stage

variable {x y : Stage} {due : Option Deferred} {literals : Bool} {limit : Option Nat}

/-- No more may be written than a limit, if there is one. -/
def IsLimited (limit : Option Nat) (x : Stage) : Prop := x.registers.budget.limit = limit

namespace IsLimited

theorem use (h : x.IsLimited limit) (n : Nat) : (x.use n).IsLimited limit := h

theorem defer (h : x.IsLimited limit) (action : Deferred) : (x.defer action).IsLimited limit := h

theorem turn (h : x.IsLimited limit) {t : Scene} (ht : x.scene.Turns t) :
    (x.turn t).IsLimited limit :=
  ht.keeps (P := fun s => s.registers.budget.limit = limit) (fun _ _ h hs => h.limit_eq.trans hs) h

theorem enter (h : x.IsLimited limit) (o : Opening) : (x.enter o).IsLimited limit := h

theorem enterAll (h : x.IsLimited limit) (os : List Opening) : (x.enterAll os).IsLimited limit := by
  induction os generalizing x with
  | nil => exact h
  | cons o os ih => exact ih (h.enter o)

theorem leaves (h : x.IsLimited limit) (hleaves : x.Leaves y) : y.IsLimited limit := by
  cases hleaves with
  | idle => exact h
  | lost => exact h
  | cut => exact (congrArg Budget.limit (budget_giveUp _ _)).trans h

theorem effect (h : x.IsLimited limit) (heffect : x.Effect literals due y) :
    y.IsLimited limit := by
  cases heffect with
  | act _ hturns => exact (h.use _).turn hturns
  | run _ hturns => exact ((h.use _).turn hturns).enter _
  | runThen _ hturns => exact (((h.use _).turn hturns).defer _).enterAll _
  | compare => exact enterAll (x := ((x.use _).change _).defer _) h _
  | call | advance | suppress | gone => exact h
  | leave hleaves => exact (h.use _).leaves hleaves
  | undo => exact (congrArg Budget.limit (budget_undo _ _)).trans h
  | iterate _ _ hturns => exact ((h.turn hturns).defer _).enterAll _
  | block _ hturns => exact h.turn hturns
  | await => exact (h.defer _).enterAll _
  | «matches» => exact ((h.use 1).defer _).enterAll _

theorem step (h : x.IsLimited limit) (hstep : x.Step literals y) : y.IsLimited limit := by
  cases hstep with
  | @go _ f' below _ _ _ _ heffect =>
    exact effect (x := { x with frames := f' :: below }) h heffect
  | pop => exact h

end IsLimited

end Stage

/-- The limit is that of the configuration, wherever a run is. -/
theorem Engine.Reaches.limit_eq {e : Engine} {p : Pattern} {g : Generator} {m : Machine e.setting}
    (h : e.Reaches p g m) : m.registers.budget.limit = e.config.charLimit :=
  h.keepsStage (P := Stage.IsLimited e.config.charLimit) rfl fun _ _ _ hstep hx => hx.step hstep

/-! ## Writing -/

/-- Without a limit, a text is written to every channel that a write reaches. -/
theorem ChannelStack.exists_write_unlimited {o : ChannelStack} {b : Budget} (hb : b.limit = none)
    (hactive : o.active.Nodup) (text : String) :
    ∃ b', o.write text b = .ok (o.modifyActive (·.write text), b') := by
  unfold ChannelStack.write
  split
  · next hempty =>
    have hself : ∀ c : Channel, c.write text = c := fun c => if_pos hempty
    exact ⟨b, by rw [modifyActive_self hactive hself]⟩
  · simp only [Budget.spend, hb]
    exact ⟨_, rfl⟩

/-- A text is put behind plain text. -/
theorem ChannelStack.Holds.modifyActive_write {o : ChannelStack} {before : String}
    (h : o.Holds before) (text : String) :
    (o.modifyActive (·.write text)).Holds (before ++ text) := by
  obtain ⟨c, rfl, hc⟩ := h
  have hactive : active ⟨#[c], [0]⟩ = [0] := by simp [active, reached, visibilityAt, hc.visibility]
  exact ⟨c.write text, by simp [modifyActive, hactive], hc.write text⟩

namespace Machine

variable {s : Setting} {m n : Machine s} {f : Frame} {below : List Frame} {text : String}

/-- From the first machine to the second, the text was written to the output, and the innermost
frame stands over the frames `below` as before; the results and the matches are the same. -/
structure Writes (m n : Machine s) (f : Frame) (below : List Frame) (text : String) : Prop where
  frames : n.frames = f :: below
  outputs : n.outputs = m.output.modifyActive (·.write text) :: m.outputs.tail
  results : n.results = m.results
  matched : n.registers.matched = m.registers.matched
  /-- Without a case mode, a channel takes the text as it is. -/
  unchanged : ∀ c ∈ m.output.ofActive id, c.cursor.mode = .none → (c.prepare text).text = text
  /-- Plain text is there as before, with the text behind it. -/
  holds : ∀ before, m.output.Holds before → n.output.Holds (before ++ text)

theorem writes_of_outputs (hframes : n.frames = f :: below)
    (houtputs : n.outputs = m.output.modifyActive (·.write text) :: m.outputs.tail)
    (hresults : n.results = m.results) (hmatched : n.registers.matched = m.registers.matched) :
    m.Writes n f below text := by
  refine ⟨hframes, houtputs, hresults, hmatched, fun c _ hmode => ?_, fun before hbefore => ?_⟩
  · exact (Channel.Holds.apply hmode text).1
  · have houtput : n.output = m.output.modifyActive (·.write text) :=
      congrArg (·.headD .initial) houtputs
    rw [houtput]
    exact hbefore.modifyActive_write text

theorem exists_perform_print_unlimited (hlimit : m.registers.budget.limit = none)
    (hactive : m.output.active.Nodup) (text : String) : ∃ b, m.perform (Act.print text) = .ok
      { m with outputs := m.output.modifyActive (·.write text) :: m.outputs.tail,
               registers := { m.registers with budget := b } } := by
  obtain ⟨b, hwrite⟩ := ChannelStack.exists_write_unlimited hlimit hactive text
  have hprint : (Act.print text).run ⟨m.registers, m.output⟩ =
      .ok ((), ⟨{ m.registers with budget := b }, m.output.modifyActive (·.write text)⟩) := by
    simp only [StateT.run, Act.print, Act.spend, hwrite]
  exact ⟨b, by rw [perform, act_of_run hprint]; rfl⟩

end Machine

/-! ## Replacers -/

/-- The frame is about to read a replacer, behind which its reader stands then. -/
structure Frame.FacesReplacer (f : Frame) (literal : Token) (input code : Passage)
    (behind : Reader) : Prop where
  pre : f.pre = []
  reads : ∃ t r, f.reader.read? = some (t, r) ∧ t.kind = .leftSquare ∧
    Bracket.read Bracket.readReplacement r = (.ok (.replacer literal [input, code]), behind)

/-- The replacer that the frame is about to read, if it is: its expression, its input, its body and
the reader behind it. -/
def Frame.facingReplacer? (f : Frame) : Option (Token × Passage × Passage × Reader) :=
  match f.pre, f.reader.read? with
  | [], some (t, r) =>
    match t.kind, Bracket.read Bracket.readReplacement r with
    | .leftSquare, (.ok (.replacer literal [input, code]), behind) =>
      some (literal, input, code, behind)
    | _, _ => none
  | _, _ => none

theorem Frame.facesReplacer_of_facing? {f : Frame} {literal : Token} {input code : Passage}
    {behind : Reader} (h : f.facingReplacer? = some (literal, input, code, behind)) :
    f.FacesReplacer literal input code behind := by
  unfold facingReplacer? at h
  split at h
  · next t r hpre hread =>
    split at h
    · next ht hbracket =>
      cases h
      exact ⟨hpre, t, r, hread, ht, hbracket⟩
    · cases h
  · cases h

namespace Machine

variable {s : Setting} {m n n₁ : Machine s} {f : Frame} {below : List Frame} {literal : Token}
  {input code : Passage} {behind : Reader} {regex : Regex} {parts : Template} {o : Output}
  {text : String}

/-- The input of a replacer is begun in a frame with an output of its own. -/
theorem exists_postpones_replacer (hframes : m.frames = f :: below)
    (h : f.FacesReplacer literal input code behind)
    (hregex : Regex.ofLiteral literal.text = .ok regex)
    (hroom : m.frames.length + 1 ≤ s.maxDepth) : ∃ m₁,
      m.Postpones m₁ (.replace regex code literal.position) [⟨input, true, [], []⟩]
        { f with reader := behind, pre := [.replace regex code literal.position] } below ∧
      m₁.registers = m.registers := by
  obtain ⟨hpre, t, r, hread, ht, hbracket⟩ := h
  let action : Deferred := .replace regex code literal.position
  let m₀ := ((m.withReader behind).moveTo literal.position).defer action
  have hframes₀ : m₀.frames = { f with reader := behind, pre := [action] } :: below := by
    show (m.frames.modifyHead _).modifyHead _ = _
    rw [hframes, List.modifyHead_cons, List.modifyHead_cons, hpre]
  have hroom₀ : m₀.frames.length + 1 ≤ s.maxDepth := by
    rw [hframes₀]
    rwa [hframes] at hroom
  have hstep : m.step = m₀.push input true [] [] := by
    have hne : (m.moveTo t.position).frames ≠ [] :=
      List.ne_nil_of_mem (hframes ▸ List.mem_cons_self)
    rw [step_read hframes hpre hread, runToken_bracket hne ht hbracket]
    simp only [runBracket, runReplacer, hregex, runApart_singleton]
    rfl
  rw [push_eq_ok hroom₀] at hstep
  refine ⟨_, ⟨hstep, .await .replace (List.cons_ne_nil _ _), rfl, ?_, rfl, f, hframes,
    ⟨rfl, rfl, rfl⟩, ?_⟩, rfl⟩
  · exact congrArg (_ :: ·) hframes₀
  · rw [Frame.uses_eq_zero hpre]
    rfl

/-- What is begun for each match. -/
def matchOpening (code : Passage) (x : Regex.Match) : Opening :=
  ⟨code, true, [.enterMatch x], [.leaveMatch]⟩

theorem forall₂_beginsMatch (code : Passage) (id mark : Nat) (xs : List Regex.Match) :
    List.Forall₂ (Frame.BeginsMatch code) (Opening.frames id mark (xs.map (matchOpening code)))
      xs := by
  induction xs with
  | nil => exact .nil
  | cons x xs ih => exact .cons ⟨rfl, rfl, rfl, rfl⟩ ih

/-- The frame `f` over the frames `below` is about to replace the matches in the last result. -/
structure AwaitsInput (n : Machine s) (f : Frame) (below : List Frame) (regex : Regex)
    (code : Passage) (position : Position) (o : Output) (results : List Output) : Prop where
  frames : n.frames = { f with pre := [.replace regex code position] } :: below
  pre : f.pre = []
  results : n.results = o :: results
  limit : n.registers.budget.limit = none
  active : n.output.active.Nodup
  blocks : ∀ e ∈ n.blocks, e.2.IsGenuine e.1

variable {position : Position} {results outs : List Output} {spans : List (Nat × Nat)}

namespace AwaitsInput

variable (h : n.AwaitsInput f below regex code position o results)

include h

/-- The input is taken off the results. If there is no match in it, it is printed. Otherwise the
body is begun once for each match, and the frame waits to join what they print. -/
theorem exists_step : ∃ n₀ : Machine s, n₀.frames = f :: below ∧ n₀.outputs = n.outputs ∧
    n₀.results = results ∧ n₀.registers = n.registers ∧ n₀.blocks = n.blocks ∧
    n.step = if regex.allMatches o.main = [] then n₀.perform (Act.print o.main)
      else (n₀.defer
        (.join o.main ((regex.allMatches o.main).map fun x => (x.start, x.stop)))).pushes
          ((regex.allMatches o.main).map (matchOpening code)).reverse := by
  let n₀ : Machine s :=
    { (n.modifyTop fun f => { f with pre := [] }).moveTo position with results := results }
  have hself : { f with pre := [] } = f := by rw [← h.pre]
  refine ⟨n₀, ?_, rfl, rfl, rfl, rfl, ?_⟩
  · exact (frames_modifyTop h.frames _).trans (congrArg (· :: below) hself)
  · have htaken : ((n.modifyTop fun f => { f with pre := [] }).moveTo position).takeResult =
        (o.main, n₀) := by
      show ((n.results.head?.map (·.main)).getD "", { n₀ with results := n.results.tail }) = _
      rw [h.results]
      rfl
    have hreplace : n.step =
        ((n.modifyTop fun f => { f with pre := [] }).moveTo position).replace regex code :=
      step_take h.frames rfl
    rw [hreplace, replace, htaken]
    dsimp only
    split
    · next hfound => rw [if_pos hfound]
    · next hfound =>
      rw [if_neg hfound, pushes, ← List.map_reverse, List.foldlM_map]
      rfl

/-- If there is no match, the input is printed. -/
theorem step_of_nil (hfound : regex.allMatches o.main = []) : ∃ n' b, n.step = .ok n' ∧
    n'.frames = f :: below ∧
    n'.outputs = n.output.modifyActive (·.write o.main) :: n.outputs.tail ∧ n'.results = results ∧
    n'.registers = { n.registers with budget := b } := by
  obtain ⟨n₀, hframes, houtputs, hresults, hregisters, -, hstep⟩ := h.exists_step
  have houtput : n₀.output = n.output := congrArg (·.headD .initial) houtputs
  obtain ⟨b, hprint⟩ := exists_perform_print_unlimited (m := n₀) (by rw [hregisters]; exact h.limit)
    (by rw [houtput]; exact h.active) o.main
  rw [if_pos hfound, hprint] at hstep
  refine ⟨_, b, hstep, hframes, ?_, hresults, ?_⟩
  · rw [houtput, houtputs]
  · rw [hregisters]

/-- If there are matches, the body is begun once for each, in frames that lie on the one in which
the results are going to be joined. -/
theorem step_of_ne_nil (hfound : regex.allMatches o.main ≠ [])
    (hroom : n.frames.length + (regex.allMatches o.main).length ≤ s.maxDepth) :
    ∃ n' id mark, n.step = .ok n' ∧
      n'.frames = Opening.frames id mark ((regex.allMatches o.main).map (matchOpening code)) ++
        { f with pre := [.join o.main
          ((regex.allMatches o.main).map fun x => (x.start, x.stop))] } :: below ∧
      n'.outputs = List.replicate (regex.allMatches o.main).length .initial ++ n.outputs ∧
      n'.results = results ∧ n'.registers = n.registers ∧ n'.blocks = n.blocks := by
  obtain ⟨n₀, hframes, houtputs, hresults, hregisters, hblocks, hstep⟩ := h.exists_step
  rw [if_neg hfound] at hstep
  generalize regex.allMatches o.main = found at hroom hstep ⊢
  let action : Deferred := .join o.main (found.map fun x => (x.start, x.stop))
  have hdeferred : (n₀.defer action).frames = { f with pre := [action] } :: below := by
    rw [← h.pre]
    exact frames_modifyTop hframes _
  have hroom' : (n₀.defer action).frames.length +
      (found.map (matchOpening code)).reverse.length ≤ s.maxDepth := by
    rw [hdeferred, List.length_reverse, List.length_map]
    rwa [h.frames] at hroom
  obtain ⟨n', hpushes, hblocks', -⟩ := pushes_of_le hroom'
  have howns : ∀ a ∈ found.map (matchOpening code), a.owns = true := by
    intro a ha
    obtain ⟨x, -, rfl⟩ := List.mem_map.1 ha
    rfl
  obtain ⟨hframes', houtputs', hresults', hregisters'⟩ := pushes_result hpushes howns
  rw [hdeferred] at hframes'
  rw [List.length_map] at houtputs'
  refine ⟨n', _, _, hstep.trans hpushes, hframes', ?_, hresults'.trans hresults,
    hregisters'.trans hregisters, hblocks'.trans hblocks⟩
  exact houtputs'.trans (congrArg _ houtputs)

end AwaitsInput

/-- Results that have been printed for matches are joined with what stands between these. -/
theorem exists_step_join (hframes : n.frames = { f with pre := [.join text spans] } :: below)
    (hpre : f.pre = []) (hlimit : n.registers.budget.limit = none) (hactive : n.output.active.Nodup)
    (hlength : spans.length = outs.length) (hresults : n.results = outs.reverse ++ results) :
    ∃ n' b, n.step = .ok n' ∧ n'.frames = f :: below ∧
      n'.outputs = n.output.modifyActive (·.write (Regex.splice text spans (outs.map (·.main)))) ::
        n.outputs.tail ∧
      n'.results = results ∧ n'.registers = { n.registers with budget := b } := by
  let n₀ : Machine s := { n.modifyTop fun f => { f with pre := [] } with results := results }
  have hself : { f with pre := [] } = f := by rw [← hpre]
  have htaken : (n.modifyTop fun f => { f with pre := [] }).takeResults spans.length =
      (outs.map (·.main), n₀) := by
    show (((n.results.take spans.length).map (·.main)).reverse,
      { n₀ with results := n.results.drop spans.length }) = _
    have hreversed : spans.length = outs.reverse.length := by rw [List.length_reverse, hlength]
    rw [hresults, hreversed, List.take_left, List.drop_left, List.map_reverse, List.reverse_reverse]
  have hjoin : n.step = n₀.perform (Act.print (Regex.splice text spans (outs.map (·.main)))) := by
    refine (step_take hframes rfl).trans ?_
    rw [take, htaken]
  obtain ⟨b, hprint⟩ := exists_perform_print_unlimited (m := n₀) hlimit hactive
    (Regex.splice text spans (outs.map (·.main)))
  exact ⟨_, b, hjoin.trans hprint,
    (frames_modifyTop hframes _).trans (congrArg (· :: below) hself), rfl, rfl, rfl⟩

/-- Where a template is run for every match, the input is printed with what the template says in
place of the matches. -/
theorem AwaitsInput.leads (h : n.AwaitsInput f below regex code position o results)
    (hparts : parts.Writes code.tokens)
    (hroom : n.frames.length + (regex.allMatches o.main).length ≤ s.maxDepth) :
    ∃ k n' b, Leads k n n' ∧ n'.frames = f :: below ∧
      n'.outputs = n.output.modifyActive (·.write (Regex.splice o.main
        ((regex.allMatches o.main).map fun x => (x.start, x.stop))
        ((regex.allMatches o.main).map fun x => parts.fill x.text))) :: n.outputs.tail ∧
      n'.results = results ∧ n'.registers = { n.registers with budget := b } := by
  have hne : n.frames ≠ [] := by simp [h.frames]
  by_cases hfound : regex.allMatches o.main = []
  · obtain ⟨n', b, hstep, hframes, houtputs, hresults, hregisters⟩ := h.step_of_nil hfound
    refine ⟨1, n', b, .single hne hstep, hframes, ?_, hresults, hregisters⟩
    have hsame : Regex.splice o.main [] [] = o.main := String.ofList_toList
    rw [hfound, houtputs, List.map_nil, List.map_nil, hsame]
  · obtain ⟨n₁, id, mark, hstep, hframes₁, houtputs₁, hresults₁, hregisters₁, hblocks₁⟩ :=
      h.step_of_ne_nil hfound hroom
    generalize regex.allMatches o.main = found at *
    -- Each match has its frame, and the frames are run one after the other.
    obtain ⟨n₂, hevaluates, b, hb, hregisters₂⟩ := exists_evaluates_bodies hparts
      (forall₂_beginsMatch code id mark found) hframes₁ houtputs₁
      (by rw [hregisters₁]; exact h.limit) (by rw [hblocks₁]; exact h.blocks)
    obtain ⟨k, hlead⟩ := hevaluates.leads
    have hframes₂ := hevaluates.frames
    have houtputs₂ := hevaluates.outputs
    have hresults₂ := hevaluates.results
    rw [hframes₁, List.drop_left' (by simp)] at hframes₂
    rw [houtputs₁, List.drop_left' (by simp)] at houtputs₂
    rw [hresults₁] at hresults₂
    have houtput₂ : n₂.output = n.output := congrArg (·.headD .initial) houtputs₂
    -- Then their results are joined.
    obtain ⟨n', b', hstep', hframes, houtputs, hresults, hregisters⟩ :=
      exists_step_join hframes₂ h.pre (by rw [hregisters₂]; exact hb)
        (by rw [houtput₂]; exact h.active) (by simp) hresults₂
    refine ⟨_, n', b', .step hne hstep (hlead.trans (.single (by simp [hframes₂]) hstep')), hframes,
      ?_, hresults, ?_⟩
    · rw [houtputs, houtput₂, houtputs₂, List.map_map]
      rfl
    · rw [hregisters, hregisters₂, hregisters₁]

end Machine

namespace Engine

open Machine

variable {e : Engine} {p : Pattern} {g : Generator} {m : Machine e.setting} {f : Frame}
  {below : List Frame} {literal : Token} {input code : Passage} {behind : Reader} {regex : Regex}
  {parts : Template}

theorem Reaches.blocks_isGenuine (hm : e.Reaches p g m) (he : e.Arises)
    (hframes : m.frames = f :: below) : ∀ known ∈ m.blocks, known.2.IsGenuine known.1 := by
  rcases hm.whole he with hlike | hnone
  · exact hlike.blocks
  · exact absurd (hnone.symm.trans hframes) (by simp)

/-- Wherever a run is, also inside of the body of another replacer: a replacer whose body is a
template runs its input in a frame with an output of its own. Whatever that printed is written with
every match in it replaced by what the template says for it and the rest unchanged; and this is what
was printed itself, if the template is just the match. The matches are as they were before, the
results too, and since the end of the input nothing in the registers has changed but how much was
written. -/
theorem replaces_matches (he : e.Arises) (hlimit : e.config.charLimit = none)
    (hm : e.Reaches p g m) (hframes : m.frames = f :: below)
    (hfaces : f.FacesReplacer literal input code behind)
    (hregex : Regex.ofLiteral literal.text = .ok regex) (hparts : parts.Writes code.tokens)
    (hroom : m.frames.length + 1 ≤ e.setting.maxDepth) :
    ∃ m₁, m.Postpones m₁ (.replace regex code literal.position) [⟨input, true, [], []⟩]
        { f with reader := behind, pre := [.replace regex code literal.position] } below ∧
      m₁.registers = m.registers ∧
      ∀ o n, m₁.Evaluates [o] n →
        m.frames.length + (regex.allMatches o.main).length ≤ e.setting.maxDepth →
        ∃ k n' b text, Leads k n n' ∧ m.Writes n' { f with reader := behind } below text ∧
          n'.registers = { n.registers with budget := b } ∧
          Regex.Replaces (fun x => parts.fill x.text) 0 (regex.allMatches o.main) o.main.toList
            text.toList ∧
          (parts = [.wholeMatch] → text = o.main) := by
  obtain ⟨m₁, hpost, hregisters₁⟩ := exists_postpones_replacer hframes hfaces hregex hroom
  refine ⟨m₁, hpost, hregisters₁, fun o n hevaluates hroom' => ?_⟩
  obtain ⟨j, hlead⟩ := hevaluates.leads
  have hm₁ : e.Reaches p g m₁ := hm.lead (.single (by simp [hframes]) hpost.step)
  have hn : e.Reaches p g n := hm₁.lead hlead
  have hframes₁ := hpost.frames
  have hframes₂ := hevaluates.frames
  have houtputs₂ := hevaluates.outputs
  rw [hframes₁] at hframes₂
  rw [hpost.outputs] at houtputs₂
  have houtput₂ : n.output = m.output := congrArg (·.headD .initial) houtputs₂
  have hresults₁ : m₁.results = m.results := by
    obtain ⟨f₀, hframes₀, -, hresults⟩ := hpost.before
    obtain ⟨rfl, -⟩ := List.cons.inj (hframes.symm.trans hframes₀)
    rw [hresults, Frame.uses_eq_zero hfaces.pre, List.drop_zero]
  have hmatched : n.registers.matched = m.registers.matched := by
    rw [hevaluates.matched hm₁.coherent, hregisters₁]
    -- The frame of the input has nothing pending.
    intro f₁ hf₁
    rw [hframes₁] at hf₁
    obtain rfl := List.mem_singleton.1 hf₁
    rfl
  have hawaits : n.AwaitsInput { f with reader := behind } below regex code literal.position o
      m.results :=
    ⟨hframes₂, hfaces.pre, hresults₁ ▸ hevaluates.results, hn.limit_eq.trans hlimit,
      hn.sound_output.active_nodup, hn.blocks_isGenuine he hframes₂⟩
  obtain ⟨k, n', b, hlead', hframes', houtputs', hresults', hregisters'⟩ := hawaits.leads hparts (by
    rw [hframes₂]
    rwa [hframes] at hroom')
  have hreplaces := Regex.replaces_splice (Regex.one_le_groups hregex) (fun x => parts.fill x.text)
    o.main
  refine ⟨k, n', b, _, hlead', writes_of_outputs hframes' ?_ hresults' ?_, hregisters', hreplaces,
    ?_⟩
  · rw [houtputs', houtput₂, houtputs₂]
    rfl
  · rw [hregisters']
    exact hmatched
  · rintro rfl
    exact String.toList_inj.1 (hreplaces.eq_self fun x _ => Template.fill_wholeMatch x.text)

/-- In the body of a replacer there is another one, which is run for a match `na`. Its input is that
match twice over, and its body puts a plus sign on either side of each letter `a`. -/
theorem replaces_matches_nested : ∃ (e : Engine) (p : Pattern) (g : Generator)
    (m : Machine e.setting) (f : Frame) (below : List Frame) (literal : Token)
    (input code : Passage) (behind : Reader), e.Arises ∧ e.config.charLimit = none ∧
      e.Reaches p g m ∧ m.frames = f :: below ∧ f.FacesReplacer literal input code behind ∧
      literal.text = "`a`" ∧ Template.Writes [.plain "+", .wholeMatch, .plain "+"] code.tokens ∧
      m.registers.matched.map (·.text) = ["na"] ∧ ∃ m₁ n k n', m.step = .ok m₁ ∧
        m₁.Evaluates [.ofText "nana"] n ∧ Leads k n n' ∧
          m.Writes n' { f with reader := behind } below "n+a+n+a+" := by
  let e : Engine := .build .standard .empty .empty
  let parts : Template := [.plain "+", .wholeMatch, .plain "+"]
  let source : String := "[`na`:banana;[`a`:[match][match];+[match]+]]"
  have hseen : (Pattern.compile "nested" source).toOption.bind (fun p =>
      ((e.start p (.ofSeed 42)).bind (Machine.after 5)).toOption.bind fun m =>
        m.frames.head?.bind fun f => f.facingReplacer?.map fun (literal, input, code, _) =>
          (m.frames.length, [input.tokens, code.tokens].map Template.ofTokens?,
            literal.text :: m.registers.matched.map (·.text))) =
      some (3, [some [.wholeMatch, .wholeMatch], some parts], ["`a`", "na"]) := by decide +kernel
  have hjoined : (Regex.ofLiteral "`a`").toOption.map (fun r => ((r.allMatches "nana").length,
      Regex.splice "nana" ((r.allMatches "nana").map fun x => (x.start, x.stop))
        ((r.allMatches "nana").map fun x => parts.fill x.text))) = some (2, "n+a+n+a+") := by
    decide +kernel
  obtain ⟨p, -, hrun⟩ := Option.bind_eq_some_iff.1 hseen
  obtain ⟨m, hafter, hm⟩ := Option.bind_eq_some_iff.1 hrun
  obtain ⟨f, hf, hmapped⟩ := Option.bind_eq_some_iff.1 hm
  obtain ⟨⟨literal, input, code, behind⟩, hfacing, heq⟩ := Option.map_eq_some_iff.1 hmapped
  simp only [Prod.mk.injEq, List.map_cons, List.map_nil, List.cons.injEq, and_true] at heq
  obtain ⟨hdepth, ⟨hinput, hcode⟩, hliteral, hmatched⟩ := heq
  obtain ⟨below, hframes⟩ := List.head?_eq_some_iff.1 hf
  obtain ⟨m', hreach, hsame⟩ := exists_reaches_of_after (f := id) (a := m) (by rw [hafter]; rfl)
  obtain rfl : m' = m := hsame
  obtain ⟨regex, hready, hjoined⟩ := Option.map_eq_some_iff.1 hjoined
  obtain ⟨x, others, hx, hna, -⟩ := List.map_eq_cons_iff.1 hmatched
  obtain ⟨hcount, hjoined⟩ := Prod.mk.inj hjoined
  have hregex : Regex.ofLiteral literal.text = .ok regex := by
    rw [hliteral]
    cases hresult : Regex.ofLiteral "`a`" with
    | error => simp [hresult, Except.toOption] at hready
    | ok r => simpa [hresult, Except.toOption] using hready
  have hfaces := Frame.facesReplacer_of_facing? hfacing
  have he : e.Arises := .build .standard .empty .empty
  have hparts := Template.writes_of_ofTokens? hcode
  obtain ⟨m₁, hpost, hregisters, hreplaces⟩ := replaces_matches he rfl hreach hframes hfaces hregex
    hparts (by rw [hdepth]; decide)
  have hm₁ : e.Reaches p (.ofSeed 42) m₁ := hreach.lead (.single (by simp [hframes]) hpost.step)
  obtain ⟨n, hn⟩ := exists_evaluates_template (x := x) (Template.writes_of_ofTokens? hinput)
    hpost.frames ⟨rfl, rfl, rfl, rfl⟩ hpost.outputs hm₁.limit_eq
    (hm₁.blocks_isGenuine he hpost.frames) (by rw [hregisters, hx]; rfl)
  have hnana : Template.fill [.wholeMatch, .wholeMatch] x.text = "nana" := by
    rw [hna]
    rfl
  rw [hnana] at hn
  obtain ⟨k, n', b, text, hlead, hwrites, -, hreplaced, -⟩ := hreplaces _ n hn (by
    show m'.frames.length + (regex.allMatches "nana").length ≤ 1000
    rw [hdepth, hcount]
    decide)
  have htext : text = "n+a+n+a+" := by
    rw [← hjoined]
    exact String.toList_inj.1
      (hreplaced.unique (Regex.replaces_splice (Regex.one_le_groups hregex) _ "nana"))
  rw [htext] at hwrites
  exact ⟨e, p, .ofSeed 42, m', f, below, literal, input, code, behind, he, rfl, hreach, hframes,
    hfaces, hliteral, hparts, hmatched, m₁, n, k, n', hpost.step, hn, hlead, hwrites⟩

end Engine

end Wordsmith
