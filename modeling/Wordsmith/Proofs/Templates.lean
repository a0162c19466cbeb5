import Wordsmith.Proofs.Evaluation
import Wordsmith.Proofs.Programs.Running

/-!
# Templates

Code that is made of text and of the tag for the match is a template. Each of its parts is printed
in one step, the tag as the text of the match that is on top of the stack; so no frame is put on
top, and all that happens happens in the frame of the template. What it leaves is what it was given:
the match that is put on the stack in front of it is taken off behind it, and nothing is changed but
how much was written.

Main results: `Template.Writes.within`, what a template prints, and `exists_evaluates_bodies`, a
template that is run for one match after the other.
-/

namespace Wordsmith

open Machine

/-! ## What templates say -/

/-- A part of a template: a text, or the place of the match. -/
inductive TemplatePart where
  | plain (text : String)
  | wholeMatch
deriving DecidableEq

/-- What the part says for a match with a text. -/
def TemplatePart.fill (matched : String) : TemplatePart → String
  | plain text => text
  | wholeMatch => matched

/-- A text with places for a match in it. -/
abbrev Template := List TemplatePart

/-- The text with the match in all its places. -/
def Template.fill (parts : Template) (matched : String) : String :=
  String.join (parts.map (·.fill matched))

/-- The token has no meaning of its own. -/
def Token.IsVerbatim (t : Token) : Prop :=
  t.kind ∉ [.escape, .constant, .leftSquare, .rightSquare, .leftCurly, .rightCurly, .leftAngle,
    .rightAngle, .leftParen, .rightParen]

instance (t : Token) : Decidable t.IsVerbatim := inferInstanceAs (Decidable (_ ∉ _))

/-- The tokens write the template: what has no meaning of its own stands for its text, and the tag
for the match for its place. -/
inductive Template.Writes : Template → List Token → Prop
  | nil : Writes [] []
  | plain {t : Token} {parts : Template} {tokens : List Token} (ht : t.IsVerbatim)
      (h : Writes parts tokens) : Writes (.plain t.text :: parts) (t :: tokens)
  | wholeMatch {opener name closer : Token} {parts : Template} {tokens : List Token}
      (hopener : opener.kind = .leftSquare) (hname : name.kind = .text)
      (hspelled : Text.asciiLower name.text = "match") (hcloser : closer.kind = .rightSquare)
      (h : Writes parts tokens) : Writes (.wholeMatch :: parts) (opener :: name :: closer :: tokens)

/-- The template that the tokens write, if they write one. -/
def Template.ofTokens? : List Token → Option Template
  | [] => some []
  | t :: tokens =>
    if t.IsVerbatim then (ofTokens? tokens).map (.plain t.text :: ·)
    else match tokens with
      | name :: closer :: rest =>
        if t.kind = .leftSquare ∧ name.kind = .text ∧ Text.asciiLower name.text = "match" ∧
            closer.kind = .rightSquare then (ofTokens? rest).map (.wholeMatch :: ·)
        else none
      | _ => none

theorem Template.writes_of_ofTokens? {tokens : List Token} {parts : Template}
    (h : ofTokens? tokens = some parts) : Writes parts tokens := by
  fun_induction ofTokens? tokens generalizing parts with
  | case1 =>
    cases h
    exact .nil
  | case2 t tokens ht ih =>
    obtain ⟨parts, hparts, rfl⟩ := Option.map_eq_some_iff.1 h
    exact .plain ht (ih hparts)
  | case3 t _ name closer rest htag ih =>
    obtain ⟨hopener, hname, hspelled, hcloser⟩ := htag
    obtain ⟨parts, hparts, rfl⟩ := Option.map_eq_some_iff.1 h
    exact .wholeMatch hopener hname hspelled hcloser (ih hparts)
  | case4 => cases h
  | case5 => cases h

theorem Template.fill_cons (part : TemplatePart) (parts : Template) (matched : String) :
    fill (part :: parts) matched = part.fill matched ++ fill parts matched := String.join_cons

theorem Template.fill_wholeMatch (matched : String) : fill [.wholeMatch] matched = matched := by
  rw [fill_cons]
  exact String.append_empty

/-! ## Steps of a template -/

namespace Machine

variable {s : Setting} {m m₀ n : Machine s} {c : Surroundings} {text : String}
  {tokens rest : List Token} {t opener name closer : Token} {x : Regex.Match} {f : Frame}
  {below : List Frame}

theorem runToken_verbatim (ht : t.IsVerbatim) : m.runToken t = m.perform (Act.print t.text) := by
  unfold Token.IsVerbatim at ht
  unfold runToken
  revert ht
  cases t.kind <;> first | (intro; rfl) | (intro h; simp at h)

namespace At

theorem step_verbatim (h : m.At c text (t :: rest)) (hpre : c.frame.pre = []) (ht : t.IsVerbatim) :
    ∃ m', m.step = .ok m' ∧ m'.At c (text ++ t.text) rest := by
  obtain ⟨m₁, hm₁, hstep⟩ := h.step_read hpre
  obtain ⟨m₂, hprint, hm₂⟩ := hm₁.print t.text
  exact ⟨m₂, hstep.trans ((runToken_verbatim ht).trans hprint), hm₂⟩

/-- The tag for the match prints the one that is on top of the stack. -/
theorem step_wholeMatch (h : m.At c text (opener :: name :: closer :: rest))
    (hpre : c.frame.pre = []) (hopener : opener.kind = .leftSquare) (hname : name.kind = .text)
    (hspelled : Text.asciiLower name.text = "match") (hcloser : closer.kind = .rightSquare)
    (hx : c.registers.matched.head? = some x) :
    ∃ m', m.step = .ok m' ∧ m'.At c (text ++ x.text) rest := by
  have hreads : Scan.Reads (Bracket.read Bracket.readReplacement) [name, closer] rest
      fun b => ∃ ps, b = .tag name ps ∧ ps = [] :=
    Bracket.reads_tag_of_call hname (Bracket.reads_readCall_closer hcloser rfl)
  obtain ⟨m₁, b, hm₁, ⟨ps, rfl, rfl⟩, hstep⟩ :=
    h.step_bracket (k := [name, closer]) hpre hopener hreads
  have hfind : TagEntry.find? name.text = some ⟨"match", [⟨.wholeMatch, [], false⟩]⟩ := by
    have hlower : Text.asciiLower "match" = "match" := by decide +kernel
    have hentry : TagEntry.find? "match" = some ⟨"match", [⟨.wholeMatch, [], false⟩]⟩ := by
      decide +kernel
    exact (TagEntry.find?_congr (hspelled.trans hlower.symm)).trans hentry
  have hm₂ := (hm₁.moveTo name.position).moveTo name.position
  obtain ⟨m₃, hprint, hm₃⟩ := hm₂.print x.text
  have hmatched : ((m₁.moveTo name.position).moveTo name.position).registers.matched.head? =
      some x := by
    obtain ⟨_, -, hregisters⟩ := hm₂.registers
    rw [hregisters]
    exact hx
  have hact : ((m₁.moveTo name.position).moveTo name.position).act (Tag.wholeMatch.perform s
      ((m₁.moveTo name.position).moveTo name.position).patternCode ⟨name.text, []⟩) =
        .ok (.stay, m₃) := by
    refine (act_congr ?_).trans (act_of_perform hprint Next.stay)
    simp only [Tag.perform, Act.run_read_bind, hmatched]
  have hsignature : TagEntry.signature? ⟨"match", [⟨.wholeMatch, [], false⟩]⟩
      ([] : List Passage).length = some ⟨.wholeMatch, [], false⟩ := rfl
  have hcalled : m₁.runTag name [] = (m₁.moveTo name.position).callTag .wholeMatch name [] :=
    runTag_code hfind hsignature fun i hi => absurd hi (Nat.not_lt_zero i)
  exact ⟨m₃, hstep.trans (hcalled.trans (callTag_of_act hact)), hm₃⟩

end At

/-! ## Templates in their frames -/

/-- What lies around the tokens of the innermost frame of a machine while it runs with certain
registers and has actions left for its end. -/
def inside (m : Machine s) (f : Frame) (below : List Frame) (post : List Deferred)
    (registers : Registers) : Surroundings :=
  ⟨{ f with pre := [], post := post }, below, m.outputs.tail, m.results, registers⟩

variable {q : Registers} {action : Deferred} {post : List Deferred} {others : List ChannelStack}
  {code : Passage} {parts : Template}

namespace At

theorem isOver (h : n.At (m.inside f below post q) text tokens) : m.Over f below n := by
  obtain ⟨r, -, -, hframes⟩ := h.frames
  obtain ⟨o, -, houtputs⟩ := h.outputs
  refine ⟨⟨[], _, hframes, rfl, rfl, rfl⟩, ?_, ?_⟩
  · rw [houtputs]
    exact List.suffix_cons _ _
  · rw [h.results]
    exact List.suffix_refl _

/-- An action behind the tokens is taken. -/
theorem step_end (h : n.At (m.inside f below (action :: post) q) text []) :
    ∃ n' : Machine s, n'.At (m.inside f below post q) text [] ∧ n.step = n'.take action := by
  obtain ⟨r, hstart, hrest, hframes⟩ := h.frames
  have hstep := Machine.step_end hframes rfl (Reader.read?_of_rest_nil hstart hrest) rfl
  refine ⟨n.modifyTop fun f => { f with post := post }, ?_, hstep⟩
  refine ⟨⟨r, hstart, hrest, ?_⟩, h.outputs, h.results, h.registers, h.blocks⟩
  exact frames_modifyTop hframes _

/-- A frame that has printed a text and has nothing left to do leaves the text as a result. -/
theorem evaluates (h : n.At (m.inside f below [] q) text []) (hwithin : m.Within f below n)
    (hframes : m.frames = f :: below) (howns : f.owns = true)
    (houtputs : m.outputs = .initial :: others) : ∃ n' : Machine s,
      m.Evaluates [.ofText text] n' ∧ n'.registers = n.registers ∧ n'.blocks = n.blocks := by
  obtain ⟨r, hstart, hrest, hlast⟩ := h.frames
  obtain ⟨o, ho, hprinted⟩ := h.outputs
  obtain ⟨houtputs', hresults'⟩ := h.pop_of_owns howns
  have hothers : (m.inside f below [] q).others = others := congrArg List.tail houtputs
  have htext : o.output = .ofText text := ho.output_eq
  rw [hothers] at hprinted houtputs'
  rw [← htext] at hresults'
  refine ⟨n.pop, ?_, rfl, rfl⟩
  rw [← htext]
  exact .next .start hframes howns houtputs hwithin hlast (Reader.read?_of_rest_nil hstart hrest)
    rfl hprinted (h.step_pop rfl rfl) h.frames_pop houtputs' hresults'

end At

/-- A template is printed in its frame, with the match that is on top of the stack. -/
theorem within_template (h : parts.Writes tokens)
    (hn : n.At (m.inside f below post q) text tokens) (hwithin : m.Within f below n)
    (hx : q.matched.head? = some x) : ∃ n' : Machine s, m.Within f below n' ∧
      n'.At (m.inside f below post q) (text ++ parts.fill x.text) [] := by
  induction h generalizing n text with
  | nil =>
    refine ⟨n, hwithin, ?_⟩
    rwa [show Template.fill [] x.text = "" from rfl, String.append_empty]
  | plain ht _ ih =>
    obtain ⟨n₁, hstep, hn₁⟩ := hn.step_verbatim rfl ht
    obtain ⟨n', hwithin', hn'⟩ := ih hn₁ (.step hwithin hstep hn₁.isOver)
    rw [String.append_assoc] at hn'
    exact ⟨n', hwithin', by rwa [Template.fill_cons]⟩
  | wholeMatch hopener hname hspelled hcloser _ ih =>
    obtain ⟨n₁, hstep, hn₁⟩ := hn.step_wholeMatch rfl hopener hname hspelled hcloser hx
    obtain ⟨n', hwithin', hn'⟩ := ih hn₁ (.step hwithin hstep hn₁.isOver)
    rw [String.append_assoc] at hn'
    exact ⟨n', hwithin', by rwa [Template.fill_cons]⟩

end Machine

/-- The frame is about to run a passage for a match, which is put on the stack in front of it and
taken off behind it, and prints to an output of its own. -/
structure Frame.BeginsMatch (code : Passage) (f : Frame) (x : Regex.Match) : Prop where
  reader : f.reader = .ofPassage code
  owns : f.owns = true
  pre : f.pre = [.enterMatch x]
  post : f.post = [.leaveMatch]

namespace Machine

variable {s : Setting} {m : Machine s} {f : Frame} {fs below : List Frame} {code : Passage}
  {parts : Template} {x : Regex.Match} {xs : List Regex.Match} {others : List ChannelStack}

/-- A template that begins in the innermost frame is run, and leaves what it says for the match that
is on top of the stack. -/
theorem exists_evaluates_template (hparts : parts.Writes code.tokens)
    (hframes : m.frames = f :: below) (hf : f.Begins code)
    (houtputs : m.outputs = .initial :: others) (hlimit : m.registers.budget.limit = none)
    (hblocks : ∀ e ∈ m.blocks, e.2.IsGenuine e.1) (hx : m.registers.matched.head? = some x) :
    ∃ n, m.Evaluates [.ofText (parts.fill x.text)] n := by
  obtain ⟨id, reader, owns, mark, pre, post⟩ := f
  obtain ⟨rfl, rfl, rfl, rfl⟩ := hf
  let f : Frame := ⟨id, .ofPassage code, true, mark, [], []⟩
  have hm : m.At (m.inside f below [] m.registers) "" code.tokens := by
    refine ⟨⟨.ofPassage code, Nat.le_refl _, Reader.rest_ofPassage code, hframes⟩,
      ⟨.initial, .initial, ?_⟩, rfl, ⟨_, hlimit, rfl⟩, hblocks⟩
    rw [inside, houtputs, List.tail_cons]
  obtain ⟨m₁, hwithin, hm₁⟩ := within_template hparts hm (.start hframes) hx
  obtain ⟨n, hn, -⟩ := hm₁.evaluates hwithin hframes rfl houtputs
  rw [String.empty_append] at hn
  exact ⟨n, hn⟩

/-- A template is run for a match, and nothing but its result and what was written is left. -/
theorem exists_evaluates_body (hparts : parts.Writes code.tokens) (hframes : m.frames = f :: below)
    (hf : f.BeginsMatch code x) (houtputs : m.outputs = .initial :: others)
    (hlimit : m.registers.budget.limit = none) (hblocks : ∀ e ∈ m.blocks, e.2.IsGenuine e.1) :
    ∃ n : Machine s, m.Evaluates [.ofText (parts.fill x.text)] n ∧
      (∃ b : Budget, b.limit = none ∧ n.registers = { m.registers with budget := b }) ∧
        ∀ e ∈ n.blocks, e.2.IsGenuine e.1 := by
  obtain ⟨id, reader, owns, mark, pre, post⟩ := f
  obtain ⟨rfl, rfl, rfl, rfl⟩ := hf
  let f : Frame := ⟨id, .ofPassage code, true, mark, [.enterMatch x], [.leaveMatch]⟩
  let q : Registers := { m.registers with matched := x :: m.registers.matched }
  -- The match is put on the stack,
  obtain ⟨m₁, hstep, hm₁⟩ : ∃ m₁, m.step = .ok m₁ ∧
      m₁.At (m.inside f below [.leaveMatch] q) "" code.tokens := by
    have hread := frames_modifyTop hframes fun f => { f with pre := [] }
    refine ⟨_, step_take hframes rfl, ⟨.ofPassage code, Nat.le_refl _, Reader.rest_ofPassage code,
      hread⟩, ⟨.initial, .initial, ?_⟩, rfl, ⟨_, hlimit, rfl⟩, hblocks⟩
    exact houtputs.trans (congrArg (.initial :: ·) (congrArg List.tail houtputs).symm)
  have hbegun := Within.start hframes
  -- the template is printed,
  obtain ⟨m₂, hwithin, hm₂⟩ := within_template hparts hm₁ (hbegun.step hstep hm₁.isOver) rfl
  -- and the match is taken off.
  obtain ⟨m₃, hm₃, hstep₂⟩ := hm₂.step_end
  have hm₄ := hm₃.change (f := fun r => { r with matched := r.matched.tail }) fun _ _ => rfl
  obtain ⟨n, hn, hregisters, hblocks'⟩ := At.evaluates (q := m.registers) hm₄
    (hwithin.step hstep₂ (At.isOver (q := m.registers) hm₄)) hframes rfl houtputs
  rw [String.empty_append] at hn
  refine ⟨n, hn, ?_, ?_⟩
  · rw [hregisters]
    exact hm₄.registers
  · rw [hblocks']
    exact hm₄.blocks

/-- Frames on top that begin with one match each run the template for one match after the other. -/
theorem exists_evaluates_bodies (hparts : parts.Writes code.tokens)
    (hfs : List.Forall₂ (Frame.BeginsMatch code) fs xs) (hframes : m.frames = fs ++ below)
    (houtputs : m.outputs = List.replicate xs.length .initial ++ others)
    (hlimit : m.registers.budget.limit = none) (hblocks : ∀ e ∈ m.blocks, e.2.IsGenuine e.1) :
    ∃ n : Machine s, m.Evaluates (xs.map fun x => .ofText (parts.fill x.text)) n ∧
      ∃ b : Budget, b.limit = none ∧ n.registers = { m.registers with budget := b } := by
  induction hfs generalizing m with
  | nil => exact ⟨m, .start, _, hlimit, rfl⟩
  | @cons f x fs xs hf _ ih =>
    obtain ⟨m₁, hm₁, ⟨b, hb, hregisters⟩, hblocks₁⟩ :=
      exists_evaluates_body hparts hframes hf houtputs hlimit hblocks
    obtain ⟨n, hn, b', hb', hregisters'⟩ := ih (by rw [hm₁.frames, hframes]; rfl)
      (by rw [hm₁.outputs, houtputs]; rfl) (by rw [hregisters]; exact hb) hblocks₁
    refine ⟨n, hm₁.trans hn, b', hb', ?_⟩
    rw [hregisters', hregisters]

end Machine

end Wordsmith
