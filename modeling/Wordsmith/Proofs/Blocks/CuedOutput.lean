import Wordsmith.Proofs.Blocks.Cues
import Wordsmith.Proofs.Blocks.Output
import Wordsmith.Proofs.Suppression

/-!
# What blocks with cues print

A cue asks its question of the repeater of the block, runs its text or does nothing, and leaves the
registers as they are. So all cues of an item are asked about the same repetition, and the item
prints the texts of those that are for it. Only behind the item the repeater advances, which begins
the next repetition with the next index.

Main results: `Cue.printsIn`, a step for one cue, `Machine.At.leads_turn`, a step for one
repetition, and from them `CuedBlock.run_cues`.
-/

namespace Wordsmith

open Machine Text

/-! ## Tags that ask -/

/-- Texts are passed by their values, and what stands behind them as code. -/
theorem Slot.exists_passes {R : Named Subroutine} {A : List (Named Argument)}
    {takesCode : Nat → Bool} {texts : List String} {code : String} {ps : List Passage} {i : Nat}
    (htexts : ∀ j < texts.length, takesCode (i + j) = false)
    (hlast : takesCode (i + texts.length) = true)
    (hps : List.Forall₂ Passage.Writes ps ((texts ++ [code]).map .ofText)) :
    ∃ p : Passage, p.Writes (.ofText code) ∧
      Passes R A 0 takesCode i ps (texts.map (fun a => .text (trimmed a)) ++ [.code p]) := by
  induction texts generalizing i ps with
  | nil =>
    cases hps with
    | @cons p _ _ _ hp hnone =>
      cases hnone
      exact ⟨p, hp, .code hlast (.nil _)⟩
  | cons text texts ih =>
    cases hps with
    | cons hp hps =>
      obtain ⟨p, hp', hpasses⟩ := ih (i := i + 1)
        (fun j hj => by rw [Nat.add_right_comm]; exact htexts (j + 1) (Nat.succ_lt_succ hj))
        (by rw [Nat.add_right_comm]; exact hlast) hps
      exact ⟨p, hp', .text (htexts 0 (Nat.succ_pos _)) hp.isArgument hpasses⟩

/-- A tag that asks a question leaves everything as it is, and goes on with its code if the answer
is yes. The repeater answers, whatever was written so far. -/
theorem Machine.At.callTag_of_question {s : Setting} {m : Machine s} {c : Surroundings}
    {text : String} {tokens : List Token} (h : m.At c text tokens) {tag : Tag} {t : Token}
    {arguments : List Argument} {x : Question}
    (hx : Call.question? ⟨t.text, arguments⟩ tag = some x) {r : Repeater} {others : List Repeater}
    (hr : c.registers.repeaters = r :: others) {holds : Bool}
    (hholds : x.runs r.index? r.count = holds) :
    ∃ m' : Machine s, m'.Queues c [] text tokens ∧ m.callTag tag t arguments =
      m'.follow (if holds then Call.run ⟨t.text, arguments⟩ x.argument else .stay) := by
  obtain ⟨m', hact, hm'⟩ := (Queues.nil_iff.2 (h.moveTo t.position)).act (q := c.registers)
    (a := tag.perform s (m.moveTo t.position).patternCode ⟨t.text, arguments⟩)
    (x := if holds then Call.run ⟨t.text, arguments⟩ x.argument else .stay) fun b o => by
      have hperform : (tag.perform s (m.moveTo t.position).patternCode ⟨t.text, arguments⟩).run
          ⟨{ c.registers with budget := b }, o⟩ = _ := Tag.perform_of_question hx hr
      rwa [hholds] at hperform
  exact ⟨m', hm', callTag_of_act hact⟩

/-- A tag that asks a question of the repeater prints its last text if the answer is yes. -/
theorem WritesTag.printsIn {name code : String} {texts : List String} {k : List Token}
    {q : Registers} {r : Repeater} {others : List Repeater} {called : Signature} {holds : Bool}
    (hk : WritesTag name (texts ++ [code]) k) (hplain : ∀ a ∈ texts ++ [code], IsPlainText a)
    (hcalled : (TagEntry.find? name).bind (·.signature? (texts.length + 1)) = some called)
    (htexts : ∀ i < texts.length, called.takesCode i = false)
    (hlast : called.takesCode texts.length = true) (hr : q.repeaters = r :: others)
    (hquestion : ∀ p : Passage, ∃ x : Question, Call.question?
      ⟨name, texts.map (fun a => .text (trimmed a)) ++ [.code p]⟩ called.tag = some x ∧
        x.argument = texts.length ∧ x.runs r.index? r.count = holds) :
    PrintsIn q (texts.length + 1) k (if holds then trimmed code else "") := by
  refine ⟨fun {s} m c before rest hq hpre hdepth hm => ?_⟩
  subst hq
  obtain ⟨m₁, t, ps, rfl, hm₁, hps, hstep⟩ := hm.step_tag hpre hk hplain
  have hlength : ps.length = texts.length + 1 := by
    rw [hps.length_eq, List.length_map, List.length_append, List.length_singleton]
  have htexts : ∀ j < texts.length, called.takesCode (0 + j) = false := by simpa using htexts
  obtain ⟨p, hp, hpasses⟩ := Slot.exists_passes (R := c.registers.subroutines)
    (A := c.registers.arguments) htexts (by rwa [Nat.zero_add]) hps
  obtain ⟨x, hx, hargument, hholds⟩ := hquestion p
  obtain ⟨entry, hfind, hcalled⟩ := Option.bind_eq_some_iff.1 hcalled
  obtain ⟨m₂, hm₂, hcall⟩ := (hm₁.moveTo t.position).takeAfter_of_passes
    (fun m l => m.callTag called.tag t l) (.callTag called.tag t) (fun _ _ => rfl) rfl rfl
    (by omega) hpasses s.shortcuts.literals
  let call : Call := ⟨t.text, texts.map (fun a => .text (trimmed a)) ++ [.code p]⟩
  obtain ⟨m₃, hm₃, hfollow⟩ := hm₂.callTag_of_question hx hr hholds
  have hrun : ∀ m', m₃.follow (if holds then call.run x.argument else .stay) = .ok m' →
      ∃ n, Leads n m m' := by
    intro m' hm'
    obtain ⟨n, m₀, htake, hlead⟩ := hcall m' (hfollow.trans hm')
    have hrun : m₁.runTag t ps = .ok m₀ :=
      (runTag_of_find hfind (hlength ▸ hcalled)).trans htake
    exact ⟨n + 1, .step hm.frames_ne_nil (hstep.trans hrun) hlead⟩
  cases holds with
  | false =>
    obtain ⟨n, hlead⟩ := hrun m₃ rfl
    refine ⟨n, m₃, hlead, ?_⟩
    simpa using Queues.nil_iff.1 hm₃
  | true =>
    have hcode : call.run x.argument = .run p := by
      simp [call, Call.run, Call.code?, hargument]
    obtain ⟨m₄, hpush, hm₄⟩ := hm₃.push (by simp; omega) ⟨p, [], []⟩
    obtain ⟨n, hlead⟩ := hrun m₄ (by rw [if_pos rfl, hcode]; exact hpush)
    obtain ⟨n', m₅, hlead', hm₅⟩ := hm₄.leads_job .nil .nil hp.alwaysPrints
    exact ⟨n + n', m₅, hlead.trans hlead', Queues.nil_iff.1 hm₅⟩

/-! ## Cues -/

namespace Cue

/-- The tag of a cue with what it takes. -/
def signature : Cue → Signature
  | first => ⟨.ifFirst, [.code], false⟩
  | last => ⟨.ifLast, [.code], false⟩
  | middle => ⟨.ifMiddle, [.code], false⟩
  | odd => ⟨.ifOdd, [.code], false⟩
  | even => ⟨.ifEven, [.code], false⟩
  | nth .. => ⟨.ifNthFrom, [.text, .text, .code], false⟩

theorem signature?_eq (cue : Cue) :
    (TagEntry.find? cue.name).bind (·.signature? (cue.arguments.length + 1)) =
      some cue.signature := by
  cases cue with
  | nth =>
    show (TagEntry.find? "nth").bind (·.signature? 3) =
      some ⟨.ifNthFrom, [.text, .text, .code], false⟩
    decide +kernel
  | _ => decide +kernel

theorem takesCode_signature (cue : Cue) :
    (∀ i < cue.arguments.length, cue.signature.takesCode i = false) ∧
      cue.signature.takesCode cue.arguments.length = true := by
  cases cue with
  | nth =>
    refine ⟨fun i hi => ?_, rfl⟩
    rcases i with _ | _ | i
    · rfl
    · rfl
    · simp [arguments] at hi
  | _ => exact ⟨fun i hi => absurd hi (Nat.not_lt_zero i), rfl⟩

/-- The question of a cue is whether the cue is for the repetition. -/
theorem exists_question {cue : Cue} (hcue : cue.IsSound) (name : String) (p : Passage) :
    ∃ x : Question, Call.question?
      ⟨name, cue.arguments.map (fun a => .text (trimmed a)) ++ [.code p]⟩ cue.signature.tag =
        some x ∧ x.argument = cue.arguments.length ∧
          ∀ count i, x.runs (some i) count = true ↔ cue.Holds count i := by
  cases cue with
  | nth interval offset =>
    obtain ⟨hpos, hinterval, hoffset⟩ := hcue
    have htext : ∀ n : Nat, trimmed (trimmed (toString n)) = toString n := fun n => by
      rw [trimmed_toString, trimmed_toString]
    have hevery : ∀ first second : String,
        Call.question? ⟨name, [.text first, .text second, .code p]⟩ .ifNthFrom =
          Call.every? 2 (trimmed first) (trimmed second) := fun _ _ => rfl
    have hgood : 0 < (interval : Int) ∧ 0 ≤ (offset : Int) := by omega
    have hasked : Call.every? 2 (toString interval) (toString offset) =
        some ⟨2, false, fun index _ => (offset : Int).toNat ≤ index &&
          (index - (offset : Int).toNat) % (interval : Int).toNat == 0⟩ := by
      rw [Call.every?, integer?_toString hinterval, integer?_toString hoffset]
      exact if_pos hgood
    rw [← htext interval, ← htext offset] at hasked
    refine ⟨_, (hevery _ _).trans hasked, rfl, fun count i => ?_⟩
    show _ ↔ ∃ j, i = offset + j * interval
    rw [exists_eq_add_mul_iff]
    simp [Question.runs]
  | first => exact ⟨_, rfl, rfl, fun count i => by simp [Question.runs, Holds]⟩
  | last => exact ⟨_, rfl, rfl, fun count i => by simp [Question.runs, Holds]⟩
  | middle => exact ⟨_, rfl, rfl, fun count i => by simp [Question.runs, Holds]⟩
  | odd => exact ⟨_, rfl, rfl, fun count i => by simp [Question.runs, Holds]⟩
  | even => exact ⟨_, rfl, rfl, fun count i => by simp [Question.runs, Holds]⟩

/-- A cue prints its text if it is for the repetition that is running. -/
theorem printsIn {cue : Cue} {text : String} {k : List Token} {q : Registers} {r : Repeater}
    {others : List Repeater} {i : Nat} (hk : WritesTag cue.name (cue.arguments ++ [text]) k)
    (hcue : cue.IsSound) (htext : IsPlainText text) (hr : q.repeaters = r :: others)
    (hi : r.index? = some i) :
    PrintsIn q 3 k (if cue.Holds r.count i then trimmed text else "") := by
  have hplain : ∀ a ∈ cue.arguments ++ [text], IsPlainText a := List.forall_mem_append.2
    ⟨cue.isPlainText_of_mem_arguments, List.forall_mem_singleton.2 htext⟩
  have hquestion (p : Passage) : ∃ x : Question, Call.question?
      ⟨cue.name, cue.arguments.map (fun a => .text (trimmed a)) ++ [.code p]⟩ cue.signature.tag =
        some x ∧ x.argument = cue.arguments.length ∧
          x.runs r.index? r.count = decide (cue.Holds r.count i) := by
    obtain ⟨x, hx, hargument, hruns⟩ := exists_question hcue cue.name p
    refine ⟨x, hx, hargument, ?_⟩
    rw [hi, Bool.eq_iff_iff, hruns, decide_eq_true_iff]
  have hprints := hk.printsIn hplain cue.signature?_eq cue.takesCode_signature.1
    cue.takesCode_signature.2 hr hquestion
  simp only [decide_eq_true_eq] at hprints
  exact hprints.mono (by cases cue <;> simp [arguments])

/-- Cues in a row print the texts of those that are for the repetition that is running. -/
theorem printsIn_row {cues : List (Cue × String)} {lines : List (List Token)} {q : Registers}
    {r : Repeater} {others : List Repeater} {i : Nat}
    (hlines : List.Forall₂ (fun tag line => WritesTag tag.1 tag.2 line)
      (cues.map fun (cue, text) => (cue.name, cue.arguments ++ [text])) lines)
    (hcues : ∀ x ∈ cues, x.1.IsSound) (htexts : ∀ x ∈ cues, IsPlainText x.2)
    (hr : q.repeaters = r :: others) (hi : r.index? = some i) :
    PrintsIn q 3 lines.flatten (String.join
      (cues.map fun (cue, text) => if cue.Holds r.count i then trimmed text else "")) := by
  induction cues generalizing lines with
  | nil =>
    cases hlines
    exact .of_prints .nil
  | cons x cues ih =>
    obtain ⟨hcue, hcues⟩ := List.forall_mem_cons.1 hcues
    obtain ⟨htext, htexts⟩ := List.forall_mem_cons.1 htexts
    cases hlines with
    | cons hline hlines =>
      rw [List.flatten_cons, List.map_cons, String.join_cons]
      exact (printsIn hline hcue htext hr hi).append (ih hlines hcues htexts)

end Cue

namespace CuedBlock

variable {b : CuedBlock} {p : Passage} {i : Nat} {r : Repeater} {q : Registers}

/-- The item prints the piece of the repetition that is running. -/
theorem IsItem.printsIn (h : b.IsItem p) (hb : b.IsSound) {others : List Repeater}
    (hr : q.repeaters = r :: others) (hi : r.index? = some i) (hcount : r.count = b.count) :
    PrintsIn q 3 p.tokens (b.piece i) := by
  obtain ⟨lines, k, htokens, hlines, hk⟩ := h.exists_lines
  have hrest : PrintsIn q 3 k (trimmedEnd b.rest) := by
    have hprints : Prints q.subroutines q.arguments 3 k _ :=
      .plains (hk.forall_isPlain hk.ne_of_ofText)
    rw [← Phrase.ofText_inj (hk.eq_ofText hk.ne_of_ofText)] at hprints
    exact .of_prints hprints
  rw [htokens, piece, ← hcount]
  exact (Cue.printsIn_row hlines hb.cues hb.texts hr hi).append hrest

/-! ## Turns -/

/-- The repeater of the block is the only one, nothing suppresses it, and so many repetitions are
over. -/
structure Turns (b : CuedBlock) (i : Nat) (r : Repeater) (q : Registers) : Prop where
  repeaters : q.repeaters = [r]
  index : r.index = i
  count : r.count = b.count
  shown : r.suppressed = 0
  attributes : r.attributes = { Attributes.plain with repetitions := .count b.count }
  block : ∃ p, r.block = .ofPassages [p] ∧ b.IsItem p

theorem Turns.find (h : b.Turns i r q) : q.findRepeater? r.id = some r := by
  simp [Registers.findRepeater?, h.repeaters]

theorem Turns.isFinished_iff (h : b.Turns i r q) : r.isFinished = true ↔ b.count ≤ i := by
  rw [Repeater.isFinished, h.index, h.count, decide_eq_true_iff]

theorem Turns.index?_eq (h : b.Turns i r q) : r.index? = some i := by
  simp [Repeater.index?, Repeater.isSuppressed, h.shown, h.index]

/-- The item has no weight of its own. -/
theorem IsItem.items_eq (h : b.IsItem p) (hb : b.IsSound) :
    (Block.ofPassages [p]).items = #[⟨1, p⟩] := by
  have hhead : ∀ t ∈ p.tokens.head?, t.kind ≠ .leftParen := by
    obtain ⟨lines, k, htokens, hlines, -⟩ := h.exists_lines
    have hne : b.tags ≠ [] := mt List.map_eq_nil_iff.1 hb.ne
    obtain ⟨tag, tags, hcons⟩ := List.exists_cons_of_ne_nil hne
    rw [hcons] at hlines
    rw [htokens]
    cases hlines with
    | cons hline _ =>
      obtain ⟨opener, inner, closer, rfl, hopener, -, -⟩ := hline.exists_eq
      intro t ht
      cases ht
      simp [hopener]
  rw [Block.ofPassages, List.map_singleton, BlockItem.ofPassage_of_head hhead]

end CuedBlock

namespace Machine

variable {s : Setting} {m : Machine s} {c : Surroundings} {text : String} {tokens : List Token}
  {b : CuedBlock} {i : Nat} {r : Repeater} {q : Registers}

/-- The item of a repetition is queued. The generator has drawn it, though there is no other. -/
theorem Queues.beginTurn (h : m.Queues c [] text tokens) (hb : b.IsSound)
    (hr : b.Turns i r c.registers) (hroom : c.below.length + 2 ≤ s.maxDepth) :
    ∃ (m' : Machine s) (p : Passage) (g : Generator), m.beginRepetition r = .ok m' ∧ b.IsItem p ∧
      m'.Queues { c with registers := { c.registers with generator := g } }
        [⟨p, [], [.advance r.id]⟩] text tokens := by
  obtain ⟨p, hblock, hp⟩ := hr.block
  have hitems : r.block.items = #[⟨1, p⟩] := hblock ▸ hp.items_eq hb
  have hones : ∀ w ∈ r.block.weights, w = 1 := by simp [Block.weights, hitems]
  have hsize : r.block.size = 1 := by simp [Block.size, hitems]
  let g := c.registers.generator
  have hplace : (g.lessThan r.block.size).1 = 0 :=
    Nat.lt_one_iff.1 (hsize ▸ Generator.lessThan_lt g (by simp [hsize]))
  obtain ⟨m₁, hact, hm₁⟩ := h.act
    (q := { c.registers with generator := (g.lessThan r.block.size).2 })
    (a := chooseItem r.block r.attributes.order) (x := 0) fun budget o => by
      rw [hr.attributes]
      show (drawItem r.block).run _ = _
      rw [run_drawItem hones]
      simp only [g] at hplace
      rw [hplace]
  obtain ⟨m₂, hpush, hm₂⟩ := hm₁.push (by simpa using hroom) ⟨p, [], [.advance r.id]⟩
  refine ⟨m₂, p, _, ?_, hp, hm₂⟩
  have hnone : (if r.index + 1 < r.count then r.attributes.separator else none) = none := by
    rw [hr.attributes]
    exact ite_self _
  have hafter : r.attributes.after = none := by rw [hr.attributes]; rfl
  have hbefore : r.attributes.before = none := by rw [hr.attributes]; rfl
  have hpushed : m₁.push p false [] [.advance r.id] = .ok m₂ := hpush
  simp only [Machine.beginRepetition, hnone, hafter, hbefore, pushAny, hact, hitems, bind,
    Except.bind, pure, Except.pure, Option.isSome_none]
  simp [hpushed]

/-- One repetition runs. -/
theorem At.leads_turn (hr : b.Turns i r q) (hb : b.IsSound) (hi : i < b.count)
    (hroom : c.below.length + 5 ≤ s.maxDepth)
    (h : m.At ({ c with registers := q }.defer (.iterate r.id)) text tokens) : ∃ n m' r' q',
      Leads n m m' ∧ b.Turns (i + 1) r' q' ∧
        m'.At ({ c with registers := q' }.defer (.iterate r'.id)) (text ++ b.piece i) tokens := by
  have hopen : r.isFinished = false := by
    rw [Bool.eq_false_iff, Ne, hr.isFinished_iff]
    omega
  obtain ⟨m₁, hm₁, hstep⟩ := At.step_iterate hr.find hopen h
  have hbelow : ({ c with registers := q }.defer (.iterate r.id)).below = c.below := rfl
  obtain ⟨m₂, p, g, hbegin, hp, hm₂⟩ :=
    (Queues.nil_iff.2 hm₁).beginTurn hb hr (by rw [hbelow]; omega)
  obtain ⟨n, m₃, hlead, hm₃⟩ := hm₂.leads_job_of_printsIn .nil
    (.single (f := (·.modifyRepeater r.id (·.advance))) (fun _ => rfl) fun _ _ => rfl)
    (hp.printsIn hb hr.repeaters hr.index?_eq hr.count)
    (by show c.below.length + 2 + 0 + 3 ≤ _; omega)
  have hadvance : r.advance = { r with index := r.index + 1 } := by
    rw [Repeater.advance, hopen]
    rfl
  let q' : Registers := { q with generator := g }.modifyRepeater r.id (·.advance)
  refine ⟨n + 1, m₃, r.advance, q', .step h.frames_ne_nil (hstep.trans hbegin) hlead, ?_, ?_⟩
  · rw [hadvance]
    refine ⟨?_, congrArg (· + 1) hr.index, hr.count, hr.shown, hr.attributes, hr.block⟩
    simp [q', Registers.modifyRepeater, hr.repeaters, hadvance]
  · rw [hadvance]
    exact Queues.nil_iff.1 hm₃

/-- All repetitions that are left run. -/
theorem At.leads_turns (hr : b.Turns i r q) (hb : b.IsSound) (hi : i ≤ b.count)
    (hroom : c.below.length + 5 ≤ s.maxDepth)
    (h : m.At ({ c with registers := q }.defer (.iterate r.id)) text tokens) : ∃ n m' q',
      Leads n m m' ∧ m'.At { c with registers := q' }
        (text ++ String.join ((List.range' i (b.count - i)).map b.piece)) tokens := by
  induction hleft : b.count - i generalizing m i r q text with
  | zero =>
    have hfinished := hr.isFinished_iff.2 (by omega)
    obtain ⟨m', hstep, hm'⟩ := At.step_finished hr.find hfinished h
    refine ⟨1, m', q.removeRepeater r.id, .single h.frames_ne_nil hstep, ?_⟩
    simpa using hm'
  | succ left ih =>
    obtain ⟨n, m₁, r', q', hlead, hr', hm₁⟩ := At.leads_turn hr hb (by omega) hroom h
    obtain ⟨k, m', q'', hlead', hm'⟩ := ih hr' (by omega) hm₁ (by omega)
    refine ⟨n + k, m', q'', hlead.trans hlead', ?_⟩
    rw [String.append_assoc, ← String.join_cons, ← List.map_cons, ← List.range'_succ] at hm'
    exact hm'

end Machine

namespace CuedBlock

variable {b : CuedBlock}

/-- A block with cues prints all of its repetitions, whatever the generator draws. -/
theorem run_cues (hb : b.IsSound) (e : Engine) (hlimit : e.config.charLimit = none)
    (hdepth : 5 ≤ e.config.maxDepth) (name : String) (g : Generator) :
    ∃ p, Pattern.compile name b.source = .ok p ∧
      (e.run p g).1 = .ok ⟨[(ChannelStack.mainName, b.output)]⟩ := by
  obtain ⟨tokens, htokens, hwrites⟩ := hb.tokenize_source
  obtain ⟨p, hp, hcode⟩ := Pattern.exists_compile htokens name
  obtain ⟨m₀, hreach, hm₀⟩ :=
    Engine.exists_reaches_at (by omega : 1 ≤ e.config.maxDepth) hlimit p g
  rw [hcode] at hm₀
  cases hwrites with
  | @mk line k lines opener closer hline hopener hlines hk hcloser =>
    have hcalled : (TagEntry.find? "rep").bind (·.signature? 1) =
        some ⟨.repetitions, [.text], false⟩ := by decide +kernel
    obtain ⟨n₁, m₁, hlead₁, hm₁⟩ := hm₀.leads_tag rfl hline
      (List.forall_mem_singleton.2 (isPlainText_toString b.count)) hcalled
      (fun i => by rcases i with _ | i <;> rfl) (Nat.le_trans (by decide : 2 ≤ 5) hdepth)
      (fun _ _ => rfl) (changes_repetitions hb.count)
    rw [← List.append_nil (lines.flatten ++ k ++ [closer])] at hm₁
    obtain ⟨m₂, ps, hm₂, ⟨item, rfl, hitem⟩, hstep⟩ :=
      hm₁.step_braces rfl hopener (reads_item hb hlines hk hcloser)
    have hones : ∀ w ∈ (Block.ofPassages [item]).weights, w = 1 := by
      simp [Block.weights, hitem.items_eq hb]
    have hsize : (Block.ofPassages [item]).size ≠ 0 := by simp [Block.size, hitem.items_eq hb]
    obtain ⟨m₃, r, henter, ⟨id, base, hr⟩, hm₃⟩ := hm₂.enters hsize hones rfl rfl
    have hturns : b.Turns 0 r { e.registers g with repeaters := [r] } := by
      rw [hr]
      exact ⟨rfl, rfl, rfl, rfl, rfl, item, rfl, hitem⟩
    obtain ⟨n₄, m₄, q₄, hlead₄, hm₄⟩ := At.leads_turns (s := e.setting)
      (c := Engine.around p { e.registers g with repeaters := [r] }) hturns hb (Nat.zero_le _)
      hdepth hm₃
    have hreach₄ := hreach.lead (hlead₁.trans
      (.step hm₁.frames_ne_nil (hstep.trans henter) hlead₄))
    rw [String.empty_append, Nat.sub_zero, ← List.range_eq_range'] at hm₄
    exact ⟨p, hp, Engine.run_of_reaches_at hreach₄ hm₄⟩

/-- A block with one cue of each kind. -/
def phased (count interval offset : Nat) (first last middle odd even nth rest : String) :
    CuedBlock :=
  ⟨count, [(.first, first), (.last, last), (.middle, middle), (.odd, odd), (.even, even),
    (.nth interval offset, nth)], rest⟩

theorem isSound_phased {count interval offset : Nat} (hcount : count < halfWordSize)
    (hpos : 0 < interval) (hinterval : interval < halfWordSize) (hoffset : offset < halfWordSize)
    {first last middle odd even nth rest : String}
    (hplain : ∀ text ∈ [first, last, middle, odd, even, nth, rest], IsPlainText text) :
    (phased count interval offset first last middle odd even nth rest).IsSound where
  count := hcount
  cues := by simpa [phased, Cue.IsSound] using ⟨hpos, hinterval, hoffset⟩
  texts := fun x hx => by
    refine hplain _ ?_
    simp only [phased, List.mem_cons, List.not_mem_nil, or_false] at hx ⊢
    rcases hx with rfl | rfl | rfl | rfl | rfl | rfl <;> simp
  rest := hplain rest (by simp)
  ne := List.cons_ne_nil _ _

/-- Every repetition prints the texts of the cues that are for it: the first repetition has index 0,
and the last one an index one below the count. -/
theorem run_phased {count interval offset : Nat} (hcount : count < halfWordSize)
    (hpos : 0 < interval) (hinterval : interval < halfWordSize) (hoffset : offset < halfWordSize)
    {first last middle odd even nth rest : String}
    (hplain : ∀ text ∈ [first, last, middle, odd, even, nth, rest], IsPlainText text) (e : Engine)
    (hlimit : e.config.charLimit = none) (hdepth : 5 ≤ e.config.maxDepth) (name : String)
    (g : Generator) : ∃ p, Pattern.compile name
      (phased count interval offset first last middle odd even nth rest).source = .ok p ∧
        (e.run p g).1 = .ok ⟨[(ChannelStack.mainName, String.join ((List.range count).map fun i =>
          (if i = 0 then trimmed first else "") ++
          (if i + 1 = count then trimmed last else "") ++
          (if i ≠ 0 ∧ i + 1 ≠ count then trimmed middle else "") ++
          (if i % 2 = 0 then trimmed odd else "") ++
          (if i % 2 = 1 then trimmed even else "") ++
          (if ∃ j, i = offset + j * interval then trimmed nth else "") ++
          trimmedEnd rest))]⟩ := by
  obtain ⟨p, hp, hrun⟩ :=
    run_cues (isSound_phased hcount hpos hinterval hoffset hplain) e hlimit hdepth name g
  refine ⟨p, hp, hrun.trans (congrArg (fun text => Except.ok (Output.ofText text))
    (congrArg String.join (List.map_congr_left fun i _ => ?_)))⟩
  simp only [piece, phased, List.map_cons, List.map_nil, String.join_cons, String.join_nil,
    String.append_assoc, String.empty_append]
  rfl

/-- Four repetitions, the second and the fourth of which an interval and an offset pick. -/
theorem run_phased_four :
    ∃ p : Pattern, Pattern.compile "phases"
      "[rep:4]\x7b[first:a][last:b][middle:c][odd:d][even:e][nth:2;1;f]g \x7d" = .ok p ∧
      ((Engine.build .standard .empty .empty).run p (.ofSeed 42)).1 =
        .ok ⟨[("main", "adgcefgcdgbefg")]⟩ := by
  have hsource : (phased 4 2 1 "a" "b" "c" "d" "e" "f" "g ").source =
      "[rep:4]\x7b[first:a][last:b][middle:c][odd:d][even:e][nth:2;1;f]g \x7d" := by decide +kernel
  obtain ⟨p, hp, hrun⟩ := run_phased (by decide : 4 < halfWordSize) (by decide : 0 < 2)
    (by decide : 2 < halfWordSize) (by decide : 1 < halfWordSize)
    (by decide : ∀ text ∈ ["a", "b", "c", "d", "e", "f", "g "], IsPlainText text)
    (.build .standard .empty .empty) rfl (by decide) "phases" (.ofSeed 42)
  rw [hsource] at hp
  exact ⟨p, hp, hrun.trans (congrArg (fun text => Except.ok (Output.ofText text))
    (by decide +kernel))⟩

/-- A block with a cue whose interval is too large for its tag. -/
def farApart : CuedBlock := phased 1 halfWordSize 0 "a" "b" "c" "d" "e" "f" "g"

/-- The tag takes integers of 64 bits with a sign, so a block with a larger interval does not run,
though the only repetition is one that the interval picks. -/
theorem run_farApart : farApart.output = "abdfg" ∧ ∃ (e : Engine) (p : Pattern),
    e.config.charLimit = none ∧ 5 ≤ e.config.maxDepth ∧
      Pattern.compile "far" farApart.source = .ok p ∧
        (e.run p (.ofSeed 42)).1 ≠ .ok ⟨[(ChannelStack.mainName, farApart.output)]⟩ := by
  refine ⟨by decide +kernel, .build .standard .empty .empty, ?_⟩
  have hfails : ((Pattern.compile "far" farApart.source).toOption.bind fun p =>
      (((Engine.build .standard .empty .empty).start p (.ofSeed 42)).bind
        (Machine.after 14)).toOption.map fun m => (m.frames.isEmpty, m.step.toOption.isSome)) =
      some (false, false) := by decide +kernel
  obtain ⟨p, hp, hafter⟩ := Option.bind_eq_some_iff.1 hfails
  obtain ⟨error, herror⟩ := Engine.exists_run_eq_error_of_after hafter
  refine ⟨p, rfl, by decide, ?_, by rw [herror]; simp⟩
  cases hcompile : Pattern.compile "far" farApart.source with
  | error => simp [hcompile, Except.toOption] at hp
  | ok => simpa [hcompile, Except.toOption] using hp

end CuedBlock

end Wordsmith
