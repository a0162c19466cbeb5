import Wordsmith.Proofs.Blocks.Syntax
import Wordsmith.Proofs.Programs.Running

/-!
# Tags with plain texts

A tag that only changes the registers is over at once. Its arguments are the plain texts without the
blanks at their edges, or, where it takes code, passages that write them.

Main results: `Machine.At.leads_tag` and `Machine.At.step_codeTag`.
-/

namespace Wordsmith

namespace Machine

variable {s : Setting} {m : Machine s} {c : Surroundings} {text : String}
  {tokens k rest : List Token} {name argument : String} {arguments : List String}
  {called : Signature} {f : Registers → Registers}

/-- The registers change and how much was written stays, whatever it is. -/
def KeepsBudget (f : Registers → Registers) : Prop :=
  ∀ (q : Registers) (b : Budget), f { q with budget := b } = { f q with budget := b }

/-- What the tag does is to change the registers. -/
def Changes (s : Setting) (tag : Tag) (call : Call) (f : Registers → Registers) : Prop :=
  ∀ (source : String) (scene : Scene), (tag.perform s source call).run scene =
    .ok (.stay, { scene with registers := f scene.registers })

/-- A tag that changes the registers is called. -/
theorem At.callTag_of_changes (h : m.At c text tokens) {tag : Tag} {t : Token}
    {passed : List Argument} (hf : KeepsBudget f) (hchanges : Changes s tag ⟨t.text, passed⟩ f) :
    ∃ m', m.callTag tag t passed = .ok m' ∧
      m'.At { c with registers := f c.registers } text tokens := by
  obtain ⟨o, ho, houtputs⟩ := h.outputs
  refine ⟨_, callTag_of_act (act_of_run (hchanges _ _)), ?_⟩
  have houtput : (m.moveTo t.position).output = o := by
    rw [output, Machine.moveTo, houtputs, List.headD_cons]
  have hm := (h.moveTo t.position).change hf
  refine ⟨hm.frames, ⟨o, ho, ?_⟩, hm.results, hm.registers, hm.blocks⟩
  rw [houtput]
  exact congrArg (o :: ·.tail) houtputs

/-- A tag with plain texts is read. -/
theorem At.step_tag (h : m.At c text (k ++ rest)) (hpre : c.frame.pre = [])
    (hk : WritesTag name arguments k) (hplain : ∀ a ∈ arguments, IsPlainText a) :
    ∃ (m₁ : Machine s) (t : Token) (ps : List Passage), t.text = name ∧ m₁.At c text rest ∧
      List.Forall₂ Passage.Writes ps (arguments.map .ofText) ∧ m.step = m₁.runTag t ps := by
  cases hk with
  | @mk opener t closer k hopener hname htext hk hcloser =>
    have hfree : ∀ b ∈ arguments.map Phrase.ofText, .char ';' ∉ b := by
      intro b hb
      obtain ⟨a, ha, rfl⟩ := List.mem_map.1 hb
      exact (hplain a ha).notMem rfl
    obtain ⟨m₁, b, hm₁, ⟨ps, rfl, hps⟩, hstep⟩ :=
      h.step_bracket hpre hopener (Bracket.reads_tag hname hk hfree hcloser)
    exact ⟨m₁, t, ps, htext, hm₁, hps, hstep⟩

/-- A tag is run that takes texts and changes the registers. -/
theorem At.leads_tag (h : m.At c text (k ++ rest)) (hpre : c.frame.pre = [])
    (hk : WritesTag name arguments k) (hplain : ∀ a ∈ arguments, IsPlainText a)
    (hcalled : (TagEntry.find? name).bind (·.signature? arguments.length) = some called)
    (hcode : ∀ i, called.takesCode i = false)
    (hdepth : c.below.length + 1 + arguments.length ≤ s.maxDepth) (hf : KeepsBudget f)
    (hchanges : Changes s called.tag ⟨name, arguments.map fun a => .text (Text.trimmed a)⟩ f) :
    ∃ n m', Leads n m m' ∧ m'.At { c with registers := f c.registers } text rest := by
  obtain ⟨m₁, t, ps, rfl, hm₁, hps, hstep⟩ := h.step_tag hpre hk hplain
  have hlength : ps.length = arguments.length := hps.length_eq.trans (List.length_map _)
  have hvalues : List.Forall₂ (Passage.IsArgument c.registers.subroutines c.registers.arguments 0)
      ps (arguments.map Text.trimmed) := by
    rw [List.forall₂_map_right_iff] at hps ⊢
    exact hps.imp fun _ _ hp => hp.isArgument
  obtain ⟨entry, hfind, hcalled⟩ := Option.bind_eq_some_iff.1 hcalled
  obtain ⟨m₂, hm₂, hcall⟩ := (hm₁.moveTo t.position).takeAfter
    (fun m l => m.callTag called.tag t l) (.callTag called.tag t) (fun _ _ => rfl) hcode rfl rfl
    (by omega) hvalues s.shortcuts.literals
  rw [List.map_map] at hcall
  obtain ⟨m', hcalled', hm'⟩ := hm₂.callTag_of_changes hf hchanges
  obtain ⟨n, m₀, htake, hlead⟩ := hcall m' hcalled'
  have hrun : m₁.runTag t ps = .ok m₀ :=
    (runTag_of_find hfind (hlength ▸ hcalled)).trans htake
  exact ⟨n + 1, m', .step h.frames_ne_nil (hstep.trans hrun) hlead, hm'⟩

/-- A tag is run that takes code and changes the registers. -/
theorem At.step_codeTag (h : m.At c text (k ++ rest)) (hpre : c.frame.pre = [])
    (hk : WritesTag name [argument] k) (hplain : IsPlainText argument)
    (hcalled : (TagEntry.find? name).bind (·.signature? 1) = some called)
    (hcode : called.takesCode 0 = true) {f : Passage → Registers → Registers}
    (hf : ∀ p, KeepsBudget (f p)) (hchanges : ∀ p, Changes s called.tag ⟨name, [.code p]⟩ (f p)) :
    ∃ (p : Passage) (m' : Machine s), p.Writes (.ofText argument) ∧ m.step = .ok m' ∧
      m'.At { c with registers := f p c.registers } text rest := by
  obtain ⟨m₁, t, ps, rfl, hm₁, hps, hstep⟩ :=
    h.step_tag hpre hk (List.forall_mem_singleton.2 hplain)
  cases hps with
  | @cons p _ _ _ hp hnone =>
    cases hnone
    obtain ⟨entry, hfind, hcalled⟩ := Option.bind_eq_some_iff.1 hcalled
    obtain ⟨m', hcalled', hm'⟩ :=
      (hm₁.moveTo t.position).callTag_of_changes (hf p) (hchanges p)
    have hcalled : entry.signature? [p].length = some called := hcalled
    refine ⟨p, m', hp, ?_, hm'⟩
    rw [hstep, runTag_of_find hfind hcalled, ← hcalled']
    simp only [Slot.prepare, hcode, if_true]
    rfl

end Machine

end Wordsmith
