import Wordsmith.Proofs.Literals.Steps
import Wordsmith.Proofs.Passages

/-!
# Steps that draw nothing

A frame of plain text prints its tokens and leaves them as a result. Its steps draw nothing and
change nothing else but the place in the pattern and how much was written.

What a run draws is told by the generators that it has in turn.

Main results: `Machine.Draws.trans` and `Machine.leads_plain`.
-/

namespace Wordsmith

namespace Machine

variable {s : Setting} {m m₁ m₂ : Machine s} {n k : Nat} {l l' : List Generator}

/-! ## Draws -/

/-- The generators that a run has in turn for a number of steps, from a machine on. A step that
draws nothing adds none. -/
def draws : Nat → Machine s → List Generator
  | 0, _ => []
  | n + 1, m =>
    match m.frames, m.step with
    | _ :: _, .ok m₁ =>
      if m₁.registers.generator = m.registers.generator then draws n m₁
      else m₁.registers.generator :: draws n m₁
    | _, _ => []

/-- What a step has drawn, from the generators before and after it. -/
def drawn (before behind : Generator) : List Generator :=
  if behind = before then [] else [behind]

theorem draws_step (hframes : m.frames ≠ []) (hstep : m.step = .ok m₁) (n : Nat) :
    m.draws (n + 1) = drawn m.registers.generator m₁.registers.generator ++ m₁.draws n := by
  obtain ⟨f, below, hf⟩ := List.exists_cons_of_ne_nil hframes
  simp only [draws, hf, hstep, drawn]
  split <;> rfl

/-- A number of steps leads from one machine to another, with these generators on the way. -/
structure Draws (l : List Generator) (n : Nat) (m m₁ : Machine s) : Prop where
  leads : Leads n m m₁
  draws : m.draws n = l

namespace Draws

theorem refl (m : Machine s) : Draws [] 0 m m := ⟨.refl m, rfl⟩

theorem step (hframes : m.frames ≠ []) (hstep : m.step = .ok m₁) (h : Draws l n m₁ m₂) :
    Draws (drawn m.registers.generator m₁.registers.generator ++ l) (n + 1) m m₂ :=
  ⟨.step hframes hstep h.leads, (draws_step hframes hstep n).trans (congrArg _ h.draws)⟩

/-- A step that draws nothing comes first. -/
theorem quiet (hframes : m.frames ≠ []) (hstep : m.step = .ok m₁)
    (hsame : m₁.registers.generator = m.registers.generator) (h : Draws l n m₁ m₂) :
    Draws l (n + 1) m m₂ := by
  have hstep := Draws.step hframes hstep h
  rwa [drawn, if_pos hsame] at hstep

theorem trans (h : Draws l n m m₁) (h' : Draws l' k m₁ m₂) : Draws (l ++ l') (n + k) m m₂ := by
  refine ⟨h.leads.trans h'.leads, ?_⟩
  rw [← h.draws, ← h'.draws]
  have hlead := h.leads
  clear h h'
  induction hlead with
  | refl => rw [Nat.zero_add]; rfl
  | step hframes hstep _ ih =>
    rw [Nat.add_right_comm, draws_step hframes hstep, draws_step hframes hstep, ih,
      List.append_assoc]

/-- Steps that draw nothing come first. -/
theorem after (h : Draws [] n m m₁) (h' : Draws l k m₁ m₂) : Draws l (n + k) m m₂ := h.trans h'

end Draws

/-! ## Plain text -/

/-- The innermost frame has printed a text to an output of its own, and has plain tokens left to
read. What lies below, the registers and the blocks are as given, but for how much was written. -/
structure Recites (x : Strata) (q : Registers) (known : List ((Pattern × Nat) × ReadBlock))
    (text : String) (tokens : List Token) (m : Machine s) : Prop where
  plain : ∀ t ∈ tokens, t.kind = .text ∨ t.kind = .whitespace
  frames : ∃ f, m.frames = f :: x.frames ∧ f.owns = true ∧ f.pre = [] ∧ f.post = [] ∧
    f.reader.passage.start ≤ f.reader.index ∧ f.reader.rest = tokens
  outputs : ∃ o, m.outputs = o :: x.outputs ∧ o.Holds text
  results : m.results = x.results
  registers : ∃ b : Budget, b.limit = none ∧ m.registers = { q with budget := b }
  blocks : m.blocks = known

namespace Recites

variable {x : Strata} {q : Registers} {known : List ((Pattern × Nat) × ReadBlock)} {text : String}
  {t : Token} {tokens : List Token}

theorem generator_eq (h : m.Recites x q known text tokens) :
    m.registers.generator = q.generator := by
  obtain ⟨b, -, hregisters⟩ := h.registers
  rw [hregisters]

/-- A token is printed. -/
theorem step (h : m.Recites x q known text (t :: tokens)) :
    ∃ m₁, m.frames ≠ [] ∧ m.step = .ok m₁ ∧ m₁.Recites x q known (text ++ t.text) tokens := by
  obtain ⟨hplain, ⟨f, hframes, howns, hpre, hpost, hstart, hrest⟩, ⟨o, ho, hholds⟩, hresults,
    ⟨b, hb, hregisters⟩, hblocks⟩ := h
  obtain ⟨ht, htokens⟩ := List.forall_mem_cons.1 hplain
  obtain ⟨hread, hnext⟩ := Reader.read?_of_rest hstart hrest
  have houtput : ((m.moveTo t.position).withReader f.reader.next).output = o := by
    rw [output, show ((m.moveTo t.position).withReader f.reader.next).outputs = _ from ho,
      List.headD_cons]
  obtain ⟨o', b', hprint, ho', hb'⟩ :=
    exists_perform_print (m := (m.moveTo t.position).withReader f.reader.next)
      (by rw [← hb, show ((m.moveTo t.position).withReader f.reader.next).registers = _ from
        hregisters]) (houtput.symm ▸ hholds) t.text
  refine ⟨_, hframes ▸ List.cons_ne_nil _ _,
    (step_read hframes hpre hread).trans ((runToken_plain ht).trans hprint), ?_⟩
  exact
    { plain := htokens
      frames := ⟨{ f with reader := f.reader.next }, frames_withReader hframes _, howns, hpre,
        hpost, Nat.le_succ_of_le hstart, hnext⟩
      outputs := ⟨o', congrArg (o' :: ·) (congrArg List.tail ho), ho'⟩
      results := hresults
      registers := ⟨b', hb', congrArg (fun q : Registers => { q with budget := b' }) hregisters⟩
      blocks := hblocks }

/-- All tokens are printed, and what was printed becomes a result. -/
theorem leads (h : m.Recites x q known text tokens) :
    ∃ n m₁ o b, Draws [] n m m₁ ∧
      (⟨m₁.frames, m₁.outputs, m₁.results⟩ : Strata) = { x with results := o :: x.results } ∧
      o.main = text ++ String.join (tokens.map (·.text)) ∧ b.limit = none ∧
      m₁.registers = { q with budget := b } ∧ m₁.blocks = known := by
  induction tokens generalizing m text with
  | nil =>
    obtain ⟨-, ⟨f, hframes, howns, hpre, hpost, hstart, hrest⟩, ⟨o, ho, hholds⟩, hresults,
      ⟨b, hb, hregisters⟩, hblocks⟩ := h
    have hstep := step_pop hframes hpre (Reader.read?_of_rest_nil hstart hrest) hpost
    have hquiet := Draws.quiet (hframes ▸ List.cons_ne_nil _ _) hstep rfl (.refl _)
    refine ⟨1, m.pop, o.output, b, hquiet, ?_, ?_, hb, hregisters, hblocks⟩
    · simp [pop, top?, hframes, howns, ho, hresults, output]
    · rw [hholds.main]
      exact (String.append_empty).symm
  | cons t tokens ih =>
    obtain ⟨m₁, hframes, hstep, hm₁⟩ := h.step
    obtain ⟨n, m₂, o, b, hlead, hstrata, hmain, hrest⟩ := ih hm₁
    have hquiet := hlead.quiet hframes hstep (hm₁.generator_eq.trans h.generator_eq.symm)
    refine ⟨n + 1, m₂, o, b, hquiet, hstrata, ?_, hrest⟩
    rw [hmain, String.append_assoc]
    simp

end Recites

/-- A plain passage that is run in a frame of its own leaves its text as a result. -/
theorem leads_plain {p : Passage} (hp : Slot.isPlain p = true) {id mark : Nat} {x : Strata}
    (hframes : m.frames = (⟨p, true, [], []⟩ : Opening).frame id mark :: x.frames)
    (houtputs : m.outputs = .initial :: x.outputs) (hresults : m.results = x.results)
    (hlimit : m.registers.budget.limit = none) :
    ∃ n m₁ o b, Draws [] n m m₁ ∧
      (⟨m₁.frames, m₁.outputs, m₁.results⟩ : Strata) = { x with results := o :: x.results } ∧
      o.main = p.text ∧ b.limit = none ∧ m₁.registers = { m.registers with budget := b } ∧
      m₁.blocks = m.blocks := by
  have hrecites : m.Recites x m.registers m.blocks "" p.tokens :=
    { plain := by simpa [Slot.isPlain] using hp
      frames := ⟨_, hframes, rfl, rfl, rfl, Nat.le_refl _, Reader.rest_ofPassage p⟩
      outputs := ⟨_, houtputs, .initial⟩
      results := hresults
      registers := ⟨_, hlimit, rfl⟩
      blocks := rfl }
  obtain ⟨n, m₁, o, b, hlead, hstrata, hmain, hrest⟩ := hrecites.leads
  exact ⟨n, m₁, o, b, hlead, hstrata, hmain.trans String.empty_append, hrest⟩

end Machine

end Wordsmith
