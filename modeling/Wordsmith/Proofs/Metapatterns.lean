import Wordsmith.Proofs.Likeness.Runs
import Wordsmith.Proofs.Nesting
import Wordsmith.Proofs.Quoting
import Wordsmith.Proofs.Scanning
import Wordsmith.Proofs.Stepping

/-!
# Metapatterns

A metapattern runs what its body prints. If the body is a constant, this is what the constant stands
for, so a pattern that evaluates a quoted text does the same as the text itself. It takes one frame
more, that of the pattern around it, and it names places in another pattern; nothing else tells the
two runs apart. Whatever code an engine has come to know, its brackets nest, so it is of no
consequence which blocks each of the runs still remembers.

Main result: `Engine.evaluating_quoted`.
-/

namespace Wordsmith

open Machine Scan

theorem Bracket.reads_metapattern {question body closer : Token} {l : List Token}
    (hquestion : question.kind = .question) (hconstant : body.kind = .constant)
    (hcloser : closer.kind = .rightSquare) :
    Reads (read readReplacement) [question, body, closer] l
      fun b => ∃ p : Passage, b = .metapattern p ∧ p.Spells [body] := by
  have hspace : Reads Scan.space [] ([question, body, closer] ++ l) fun _ => True :=
    reads_space (by simp [Passage.isSpace, hquestion])
  refine hspace.bind fun _ _ => ?_
  have hdollar : Reads (take .dollar) [] ([question, body, closer] ++ l) (· = false) :=
    reads_take_other (by simp [hquestion])
  refine hdollar.bind fun _ h => ?_
  subst h
  have htake : Reads (take .question) [question] ([body, closer] ++ l) (· = true) :=
    reads_take hquestion
  refine htake.bind (l := [body, closer]) fun _ h => ?_
  subst h
  have hbody : Reads (Scan.body Subroutine.scope) ([body] ++ [closer]) l (·.Spells [body]) :=
    reads_body Subroutine.isBracket_scope rfl (.neutral (by rw [hconstant]; rfl) .nil) hcloser
  exact hbody.bind (l := []) fun p hp => .pure ⟨p, rfl, hp⟩

namespace Engine

variable {e : Engine}

/-! ## What engines come to know -/

/-- An engine that was built and has run patterns since, or had flags set. -/
inductive Arises : Engine → Prop
  | build (config : Config) (vocabulary : WordSource) (hooks : Named (List String → String)) :
    Arises (build config vocabulary hooks)
  | define {e : Engine} (h : Arises e) (flag : String) : Arises (e.define flag)
  | run {e : Engine} (h : Arises e) (p : Pattern) (g : Generator) : Arises (e.run p g).2

/-- What a run of code of a standard leaves is of the standard. -/
theorem Fulfils.run {S : Standard} (h : e.Fulfils S) {p : Pattern}
    (hp : S.reader (.ofPassage p.passage)) (g : Generator) : (e.run p g).2.Fulfils S := by
  have houtcome : (e.run p g).2.subroutines = (e.outcome p g).subroutines := rfl
  rw [Fulfils, houtcome]
  cases hstart : e.start p g with
  | error error =>
    rw [outcome_of_start_error hstart]
    exact h
  | ok m₀ =>
    obtain ⟨n, m, hlead, hdecides⟩ := exists_decides hstart
    have hreach : e.Reaches p g m := ⟨m₀, n, hstart, hlead⟩
    rw [hdecides.subroutines]
    rcases hreach.like h hp with hlike | hdone
    · exact hlike.registers.subroutines
    · exact hdone.registers.subroutines

/-- Brackets nest in all code that an engine knows, or it reaches to the end of its pattern. -/
theorem Arises.fulfils (h : e.Arises) : e.Fulfils .whole := by
  induction h with
  | build => exact .empty
  | define h flag ih =>
    unfold Engine.define
    split
    · exact ih
    · exact ih
  | run h p g ih => exact ih.run (Standard.whole.compiled trivial p) g

end Engine

/-! ## From the metapattern to its code -/

/-- The machine has printed a text and is going to run it. Its only frame is at the end of its
tokens, and nothing was printed to the output of that. -/
structure Machine.HasPrinted {s : Setting} (m : Machine s) (registers : Registers) (text : String) :
    Prop where
  frames : ∃ (r : Reader) (position : Position), r.passage.start ≤ r.index ∧ r.rest = [] ∧
    m.frames = [⟨1, r, true, 0, [.runPrinted position], []⟩]
  outputs : m.outputs = [.initial]
  results : ∃ o, m.results = [o] ∧ o.main = text
  registers : ∃ b : Budget, b.limit = none ∧ m.registers = { registers with budget := b }
  blocks : m.blocks = []
  nextId : m.nextId = 3

/-- A run of a pattern that evaluates a constant comes to a machine that has printed its text. -/
theorem Engine.leads_evaluating {e : Engine} {p : Pattern} {opener question body closer : Token}
    (hp : p.tokens.toList = [opener, question, body, closer]) (hopener : opener.kind = .leftSquare)
    (hquestion : question.kind = .question) (hconstant : body.kind = .constant)
    (hcloser : closer.kind = .rightSquare) (hdepth : 2 ≤ e.config.maxDepth)
    (hlimit : e.config.charLimit = none) (g : Generator) :
    ∃ m₀ m, e.start p g = .ok m₀ ∧ Leads 3 m₀ m ∧
      m.HasPrinted (e.registers g) (constantText body.text) := by
  have hlength₁ : 1 ≤ e.setting.maxDepth := Nat.le_of_succ_le hdepth
  have hstart : e.start p g = .ok ⟨[⟨1, .ofPassage p.passage, true, 0, [], []⟩], hlength₁,
      [.initial], [], e.registers g, [], .nowhere, 2⟩ :=
    push_eq_ok (m := initial e.setting (e.registers g)) hlength₁ p.passage true [] []
  -- The opener is read, and what stands between the brackets is begun.
  obtain ⟨hread, hrest⟩ := Reader.read?_of_rest (Nat.le_refl _)
    ((Reader.rest_ofPassage p.passage).trans (p.tokens_passage.trans hp))
  have hnext : (Reader.ofPassage p.passage).next.passage.start ≤
      (Reader.ofPassage p.passage).next.index := Nat.le_succ _
  obtain ⟨_, r, hbracket, ⟨q, rfl, hq⟩, -, hle, hend⟩ := (Bracket.reads_metapattern (l := [])
    hquestion hconstant hcloser).exists_reader hnext hrest
  let m₀ : Machine e.setting := ⟨[⟨1, .ofPassage p.passage, true, 0, [], []⟩], hlength₁,
    [.initial], [], e.registers g, [], .nowhere, 2⟩
  let outer : Frame := ⟨1, r, true, 0, [.runPrinted opener.position], []⟩
  let m₁ : Machine e.setting := ⟨[⟨2, .ofPassage q, true, 0, [], []⟩, outer], hdepth,
    [.initial, .initial], [], e.registers g, [], opener.position, 3⟩
  have hstep₁ : m₀.step = .ok m₁ := by
    rw [step_read (m := m₀) rfl rfl hread, runToken_bracket (List.cons_ne_nil _ _) hopener hbracket]
    exact (runApart_singleton q).trans (push_eq_ok (m := ((m₀.moveTo opener.position).withReader
      r).defer (.runPrinted opener.position)) hdepth q true [] [])
  -- The constant is printed.
  have htokens : q.tokens = [body] :=
    hq.tokens_eq (by simp [Passage.isSpace, hconstant]) (by simp [Passage.isSpace, hconstant])
  obtain ⟨hread₁, hend₁⟩ := Reader.read?_of_rest (Nat.le_refl _)
    ((Reader.rest_ofPassage q).trans htokens)
  have hle₁ : (Reader.ofPassage q).next.passage.start ≤ (Reader.ofPassage q).next.index :=
    Nat.le_succ _
  obtain ⟨o, b, hprint, ho, hb⟩ := exists_perform_print
    (m := (m₁.moveTo body.position).withReader (Reader.ofPassage q).next) hlimit .initial
    (constantText body.text)
  let m₂ : Machine e.setting := ⟨[⟨2, (Reader.ofPassage q).next, true, 0, [], []⟩, outer], hdepth,
    [o, .initial], [], { e.registers g with budget := b }, [], body.position, 3⟩
  have hstep₂ : m₁.step = .ok m₂ := by
    rw [step_read (m := m₁) rfl rfl hread₁, runToken_constant hconstant]
    exact hprint
  -- Its frame goes, and the text becomes a result.
  let m₃ : Machine e.setting := ⟨[outer], hlength₁, [.initial], [o.output],
    { e.registers g with budget := b }, [], body.position, 3⟩
  have hstep₃ : m₂.step = .ok m₃ :=
    step_pop (m := m₂) rfl rfl (Reader.read?_of_rest_nil hle₁ hend₁) rfl
  have hne : ∀ (f : Frame) (below : List Frame), f :: below ≠ [] := fun _ _ => nofun
  rw [String.empty_append] at ho
  exact ⟨m₀, m₃, hstart, .step (hne _ _) hstep₁ (.step (hne _ _) hstep₂ (.single (hne _ _) hstep₃)),
    ⟨r, _, hle, hend, rfl⟩, rfl, ⟨o.output, rfl, ho.main⟩, ⟨b, hb, rfl⟩, rfl, rfl⟩

namespace Machine

variable {s : Setting} {m : Machine s} {name text : String} {registers : Registers}

theorem compilePrinted_of_ok (name : String) (htext : m.takeResult.1 = text) {P : Pattern → Prop}
    (h : ∀ name, ∃ p, Pattern.compile name text = .ok p ∧ P p) :
    ∃ p, m.compilePrinted name = .ok (p, m.takeResult.2) ∧ P p := by
  obtain ⟨p, hp, hP⟩ := h s!"{m.takeResult.2.patternName}#{name}"
  refine ⟨p, ?_, hP⟩
  simp only [compilePrinted, htext, hp]
  rfl

theorem compilePrinted_of_error (htext : m.takeResult.1 = text) {e : LexError}
    (h : ∀ name, Pattern.compile name text = .error e) :
    m.compilePrinted name = .error (.lex e) := by
  simp only [compilePrinted, htext, h]
  rfl

theorem HasPrinted.frames_ne_nil (h : m.HasPrinted registers text) : m.frames ≠ [] := by
  obtain ⟨_, _, -, -, hframes⟩ := h.frames
  simp [hframes]

theorem HasPrinted.step_of_error (h : m.HasPrinted registers text) {e : LexError}
    (hcompile : ∀ name, Pattern.compile name text = .error e) : m.step = .error (.lex e) := by
  obtain ⟨r, position, -, -, hframes⟩ := h.frames
  obtain ⟨o, hresults, rfl⟩ := h.results
  have htext : ((m.modifyTop fun f => { f with pre := [] }).moveTo position).takeResult.1 =
      o.main := by
    simp [takeResult, moveTo, modifyTop, hresults]
  rw [step_take hframes rfl, take, compilePrinted_of_error htext hcompile]
  rfl

theorem HasPrinted.step_of_ok (h : m.HasPrinted registers text) (hdepth : 2 ≤ s.maxDepth)
    {P : Pattern → Prop} (hcompile : ∀ name, ∃ p, Pattern.compile name text = .ok p ∧ P p) :
    ∃ (r : Reader) (p : Pattern) (b : Budget) (position : Position), r.passage.start ≤ r.index ∧
      r.rest = [] ∧ P p ∧ b.limit = none ∧ m.step = .ok
        ⟨[⟨3, .ofPassage p.passage, false, 0, [], []⟩, ⟨1, r, true, 0, [], []⟩], hdepth, [.initial],
          [], { registers with budget := b }, [], position, 4⟩ := by
  obtain ⟨r, position, hle, hend, hframes⟩ := h.frames
  obtain ⟨o, hresults, rfl⟩ := h.results
  obtain ⟨b, hb, hregisters⟩ := h.registers
  have houtputs := h.outputs
  have hblocks := h.blocks
  have hnextId := h.nextId
  obtain ⟨frames, hframes_le, outputs, results, registers', blocks, place, nextId⟩ := m
  dsimp only at hframes hresults hregisters houtputs hblocks hnextId
  subst hframes hresults hregisters houtputs hblocks hnextId
  let m₁ : Machine s := ⟨[⟨1, r, true, 0, [], []⟩], hframes_le, [.initial], [o],
    { registers with budget := b }, [], position, 3⟩
  obtain ⟨p, hp, hP⟩ := compilePrinted_of_ok (m := m₁) "meta" rfl hcompile
  refine ⟨r, p, b, position, hle, hend, hP, hb, ?_⟩
  have htake : m₁.compilePrinted "meta" >>= (fun x => x.2.run x.1.passage) =
      m₁.takeResult.2.run p.passage := by
    rw [hp]
    rfl
  rw [step_take rfl rfl]
  exact htake.trans (push_eq_ok (m := m₁.takeResult.2) hdepth p.passage false [] [])

end Machine

/-! ## Runs around runs -/

/-- The frame of a pattern in which all has been read, as a footing. -/
def Footing.around (r : Reader) : Footing where
  frames := [⟨1, r, true, 0, [], []⟩]
  shift := 2
  id_lt _ hf := List.mem_singleton.1 hf ▸ Nat.lt_succ_self 1

namespace Engine

variable {S : Standard} {e e' : Engine} {p p' : Pattern} {g : Generator} {r : Reader}

/-- What two runs give, and the flags that they leave, are the same, but for places and limits in
errors. -/
def RunsAlike (x y : Except RunError Output × Engine) : Prop :=
  Matches RunError.Alike Eq x.1 y.1 ∧ x.2.flags = y.2.flags

/-- A run that does in a frame more what another one does gives the same. -/
theorem alike_around (hs : e.setting.Alike (Footing.around r).frames.length e'.setting)
    (hr : r.read? = none) {m₀ : Machine e.setting} {m₀' : Machine e'.setting}
    (hstart : e.start p g = .ok m₀) (hreach : e'.Reaches p' g m₀') (h : m₀.Like S (.around r) m₀') :
    RunsAlike (e.run p g) (e'.run p' g) := by
  have hrun : (e.run p g).1 = (e.outcome p g).result := rfl
  have hrun' : (e'.run p' g).1 = (e'.outcome p' g).result := rfl
  have hflags : (e.run p g).2.flags = (e.outcome p g).flags := rfl
  have hflags' : (e'.run p' g).2.flags = (e'.outcome p' g).flags := rfl
  rw [RunsAlike, hrun, hrun', hflags, hflags']
  obtain ⟨n, m, hlead, hdecides⟩ := exists_decides hstart
  obtain ⟨m', hlead', hends⟩ := h.leads hs hlead
  have hreach' := hreach.lead hlead'
  rw [hdecides.flags]
  rcases hends with hlike | hdone
  · -- The innermost frames are alike, so a step of both fails.
    rcases hdecides.ends with ⟨hframes, -⟩ | ⟨error, hframes, hstep, hresult⟩
    · exact absurd hframes hlike.frames_ne_nil
    · obtain ⟨error', hend', herror⟩ := hlike.ends_error hs (.inr ⟨error, hframes, hstep, rfl⟩)
      rw [hresult, outcome_of_ends hreach' hend']
      exact ⟨.error herror.alike, hlike.registers.flags⟩
  · -- The frame around is left, and what it owns is the result of the first run.
    have hpop : m'.step = .ok m'.pop := step_pop hdone.frames' rfl hr rfl
    have hend' : m'.pop.Ends (.ok m'.output.output) :=
      .inl ⟨by simp [pop, hdone.frames', Footing.around],
        by simp [pop, top?, hdone.frames', Footing.around]⟩
    have hresults : m.results = m'.output.output :: m'.results := hdone.results
    have hlead' : Leads 1 m' m'.pop := .single (by simp [hdone.frames', Footing.around]) hpop
    rw [outcome_of_ends (hreach'.lead hlead') hend']
    rcases hdecides.ends with ⟨-, hresult⟩ | ⟨_, hframes, -⟩
    · rw [hresult, hresults]
      exact ⟨.ok rfl, hdone.registers.flags⟩
    · exact absurd hdone.frames hframes

/-! ## Evaluation of quoted code -/

/-- The engine with another limit on the depth of the stack. -/
def withDepth (e : Engine) (depth : Nat) : Engine :=
  { e with config := { e.config with maxDepth := depth } }

section

variable {depth : Nat} {name code : String} {m' : Machine (e.withDepth (depth + 1)).setting}
  {q : Pattern}

/-- The run of a pattern that evaluates a quoted text comes to a machine that has printed it. -/
theorem exists_hasPrinted (hlimit : e.config.charLimit = none) (hdepth : 2 ≤ e.config.maxDepth)
    (hline : '\n' ∉ code.toList) (name : String) (g : Generator) :
    ∃ q m, Pattern.compile name (evaluating code) = .ok q ∧ e.Reaches q g m ∧
      m.HasPrinted (e.registers g) code := by
  obtain ⟨p₀, p₁, p₂, p₃, htokens⟩ := tokenize_evaluating hline
  obtain ⟨q, hq, htokens⟩ := Pattern.exists_compile htokens name
  obtain ⟨m₀, m, hstart, hlead, hprinted⟩ :=
    leads_evaluating htokens rfl rfl rfl rfl hdepth hlimit g
  rw [constantText_quoted] at hprinted
  exact ⟨q, m, hq, ⟨m₀, 3, hstart, hlead⟩, hprinted⟩

/-- What is printed and cannot be compiled fails as it does by itself. -/
theorem alike_of_error {error : LexError} (hcode : tokenize code = .error error)
    (hreach : (e.withDepth (depth + 1)).Reaches q g m')
    (hprinted : m'.HasPrinted ((e.withDepth (depth + 1)).registers g) code) :
    RunsAlike ((e.withDepth depth).runSource name code g) ((e.withDepth (depth + 1)).run q g) := by
  have hcompile := Pattern.compile_of_error hcode
  have houtcome := outcome_of_ends hreach
    (.inr ⟨_, hprinted.frames_ne_nil, hprinted.step_of_error hcompile, rfl⟩)
  have hresult : ((e.withDepth (depth + 1)).run q g).1 = .error (.lex error) :=
    congrArg Outcome.result houtcome
  have hflags : ((e.withDepth (depth + 1)).run q g).2.flags = m'.registers.flags :=
    congrArg Outcome.flags houtcome
  obtain ⟨b, -, hregisters⟩ := hprinted.registers
  rw [runSource_of_error (hcompile name), RunsAlike, hresult, hflags, hregisters]
  exact ⟨.error (.lex error), rfl⟩

/-- What is printed and can be compiled runs as it does by itself. -/
theorem alike_of_ok (h : e.Arises) (hlimit : e.config.charLimit = none) (hdepth : 1 ≤ depth)
    {tokens : List Token} (hcode : tokenize code = .ok tokens)
    (hreach : (e.withDepth (depth + 1)).Reaches q g m')
    (hprinted : m'.HasPrinted ((e.withDepth (depth + 1)).registers g) code) :
    RunsAlike ((e.withDepth depth).runSource name code g) ((e.withDepth (depth + 1)).run q g) := by
  obtain ⟨c, hc, -⟩ := Pattern.exists_compile hcode name
  have hcompile : ∀ name, ∃ p, Pattern.compile name code = .ok p ∧ c.passage.Alike p.passage :=
    fun name' => (hc ▸ Pattern.compile_alike name name' code).exists_ok rfl
  obtain ⟨r, p, b, position, hle, hend, halike, hb, hstep⟩ :=
    hprinted.step_of_ok (Nat.succ_le_succ hdepth) hcompile
  have hstart : (e.withDepth depth).start c g = .ok ⟨[⟨1, .ofPassage c.passage, true, 0, [], []⟩],
      hdepth, [.initial], [], e.registers g, [], .nowhere, 2⟩ :=
    push_eq_ok (m := initial (e.withDepth depth).setting (e.registers g)) hdepth c.passage true
      [] []
  rw [runSource_of_ok hc]
  refine alike_around (S := .whole) (r := r) ⟨rfl, rfl, rfl, rfl, rfl, rfl⟩
    (Reader.read?_of_rest_nil hle hend) hstart
    (hreach.lead (.single hprinted.frames_ne_nil hstep)) ?_
  have hregisters : (e.registers g).Like .whole 2 { e.registers g with budget := b } := by
    obtain ⟨_, spent⟩ := b
    subst hb
    have hbudget : (e.registers g).budget = ⟨none, 0⟩ := congrArg Budget.ofLimit hlimit
    exact { h.fulfils.registers g 2 with budget := hbudget ▸ .unlimited 0 spent }
  have hframe : Frame.Like .whole 2 ⟨1, .ofPassage c.passage, true, 0, [], []⟩
      ⟨3, .ofPassage p.passage, false, 0, [], []⟩ :=
    ⟨rfl, .ofPassage halike, Standard.whole.compiled trivial c, rfl, .nil, .nil⟩
  exact ⟨.root hframe rfl rfl, rfl, rfl, hregisters, nofun, nofun, rfl⟩

end

/-- A pattern that evaluates a quoted text does the same as the text, in a frame more. -/
theorem evaluating_quoted (h : e.Arises) (hlimit : e.config.charLimit = none) {depth : Nat}
    (hdepth : 1 ≤ depth) {code : String} (hline : '\n' ∉ code.toList) (name name' : String)
    (g : Generator) :
    RunsAlike ((e.withDepth depth).runSource name code g)
      ((e.withDepth (depth + 1)).runSource name' (evaluating code) g) := by
  obtain ⟨q, m, hq, hreach, hprinted⟩ := exists_hasPrinted (e := e.withDepth (depth + 1)) hlimit
    (Nat.succ_le_succ hdepth) hline name' g
  rw [runSource_of_ok hq]
  cases hcode : tokenize code with
  | error error => exact alike_of_error hcode hreach hprinted
  | ok tokens => exact alike_of_ok h hlimit hdepth hcode hreach hprinted

/-- A text in quotes is printed as it stands, and in two frames it can be quoted once more. -/
theorem evaluating_quoted_quotes : (Engine.build .standard .empty .empty).Arises ∧
    Config.standard.charLimit = none ∧ 1 ≤ 1 ∧ '\n' ∉ "\"a\"".toList ∧
    evaluating "\"a\"" = "[?\"\"\"a\"\"\"]" ∧
    RunsAlike (((Engine.build .standard .empty .empty).withDepth 1).runSource "direct" "\"a\""
        (.ofSeed 0))
      (((Engine.build .standard .empty .empty).withDepth 2).runSource "quoted"
        (evaluating "\"a\"") (.ofSeed 0)) :=
  ⟨.build .., rfl, Nat.le_refl 1, by decide, by decide, evaluating_quoted
    (.build .standard .empty .empty) rfl (Nat.le_refl 1) (by decide) "direct" "quoted" (.ofSeed 0)⟩

end Engine

end Wordsmith
