import Wordsmith.Proofs.Programs.Brackets
import Wordsmith.Proofs.Stepping

/-!
# Rows of tokens that run

While a row of tokens runs, a machine is known by what its innermost frame has left to read, by the
text that its output holds, and by what lies around both. Tokens print a text if they lead from any
machine that has them left, and room for the frames that they need, to the same machine without
them, with the text behind what it had printed. So rows of tokens that print are put together, and it
is of no consequence what stands behind them or lies around.

The arguments of a call wait in frames of their own, the first one on top. Each leaves a result, and
the call is made with these results and with the literal arguments in between, whatever is called.

Main results: `Prints.append`, `Machine.Waits.leads` and `Machine.At.takeAfter`.
-/

namespace Wordsmith

open Machine

/-! ## Machines at tokens -/

/-- What lies around the tokens that are left and the text that was printed. -/
structure Surroundings where
  /-- The innermost frame; its reader does not count. -/
  frame : Frame
  below : List Frame
  others : List ChannelStack
  results : List Output
  /-- The registers; how much was written does not count. -/
  registers : Registers

/-- The result of a frame that has printed a text. -/
def Output.ofText (text : String) : Output := ⟨[(ChannelStack.mainName, text)]⟩

/-- The surroundings with an action in front of all that the innermost frame is going to do. -/
def Surroundings.defer (c : Surroundings) (action : Deferred) : Surroundings :=
  { c with frame := { c.frame with pre := action :: c.frame.pre } }

namespace Machine

variable {s : Setting}

/-- In its surroundings, the machine has printed a text and has tokens left, and no limit is in
force. -/
structure At (m : Machine s) (c : Surroundings) (text : String) (tokens : List Token) : Prop where
  frames : ∃ r : Reader, r.passage.start ≤ r.index ∧ r.rest = tokens ∧
    m.frames = { c.frame with reader := r } :: c.below
  outputs : ∃ o : ChannelStack, o.Holds text ∧ m.outputs = o :: c.others
  results : m.results = c.results
  registers : ∃ b : Budget, b.limit = none ∧ m.registers = { c.registers with budget := b }
  blocks : ∀ e ∈ m.blocks, e.2.IsGenuine e.1

namespace At

variable {m : Machine s} {c : Surroundings} {text : String} {t : Token} {tokens k rest : List Token}

theorem frames_ne_nil (h : m.At c text tokens) : m.frames ≠ [] := by
  obtain ⟨_, -, -, hframes⟩ := h.frames
  simp [hframes]

theorem subroutines (h : m.At c text tokens) :
    m.registers.subroutines = c.registers.subroutines := by
  obtain ⟨_, -, hregisters⟩ := h.registers
  rw [hregisters]

theorem arguments (h : m.At c text tokens) : m.registers.arguments = c.registers.arguments := by
  obtain ⟨_, -, hregisters⟩ := h.registers
  rw [hregisters]

theorem moveTo (h : m.At c text tokens) (position : Position) : (m.moveTo position).At c text tokens :=
  ⟨h.frames, h.outputs, h.results, h.registers, h.blocks⟩

/-- The registers change, but for how much was written. -/
theorem change (h : m.At c text tokens) {f : Registers → Registers}
    (hf : ∀ (q : Registers) (b : Budget), f { q with budget := b } = { f q with budget := b }) :
    (m.change f).At { c with registers := f c.registers } text tokens := by
  obtain ⟨b, hb, hregisters⟩ := h.registers
  refine ⟨h.frames, h.outputs, h.results, ⟨b, hb, ?_⟩, h.blocks⟩
  rw [Machine.change, hregisters, hf]

theorem withReader (h : m.At c text tokens) {r : Reader} (hstart : r.passage.start ≤ r.index)
    (hrest : r.rest = rest) : (m.withReader r).At c text rest := by
  obtain ⟨_, -, -, hframes⟩ := h.frames
  refine ⟨⟨r, hstart, hrest, ?_⟩, h.outputs, h.results, h.registers, h.blocks⟩
  simp [Machine.withReader, modifyTop, hframes]

theorem defer (h : m.At c text tokens) (action : Deferred) :
    (m.defer action).At (c.defer action) text tokens := by
  obtain ⟨r, hstart, hrest, hframes⟩ := h.frames
  refine ⟨⟨r, hstart, hrest, ?_⟩, h.outputs, h.results, h.registers, h.blocks⟩
  simp [Machine.defer, modifyTop, hframes, Surroundings.defer]

/-- A deferred action is taken. -/
theorem step_take {action : Deferred} (h : m.At (c.defer action) text tokens) :
    ∃ m₁ : Machine s, m₁.At c text tokens ∧ m.step = m₁.take action := by
  obtain ⟨r, hstart, hrest, hframes⟩ := h.frames
  have hstep := Machine.step_take hframes rfl
  refine ⟨m.modifyTop fun f => { f with pre := c.frame.pre }, ?_, hstep⟩
  refine ⟨⟨r, hstart, hrest, ?_⟩, h.outputs, h.results, h.registers, h.blocks⟩
  simp [modifyTop, hframes, Surroundings.defer]

/-- Text is printed behind what is there. -/
theorem print (h : m.At c text tokens) (more : String) :
    ∃ m' : Machine s, m.perform (Act.print more) = .ok m' ∧ m'.At c (text ++ more) tokens := by
  obtain ⟨o, ho, houtputs⟩ := h.outputs
  obtain ⟨b, hb, hregisters⟩ := h.registers
  have houtput : m.output = o := by rw [output, houtputs, List.headD_cons]
  obtain ⟨o', b', hprint, ho', hb'⟩ := exists_perform_print (m := m)
    (by rw [hregisters]; exact hb) (by rw [houtput]; exact ho) more
  refine ⟨_, hprint, h.frames, ⟨o', ho', ?_⟩, h.results, ⟨b', hb', ?_⟩, h.blocks⟩
  · rw [houtputs, List.tail_cons]
  · rw [hregisters]

/-- The next token is run. -/
theorem step_read (h : m.At c text (t :: tokens)) (hpre : c.frame.pre = []) :
    ∃ m₁ : Machine s, m₁.At c text tokens ∧ m.step = m₁.runToken t := by
  obtain ⟨r, hstart, hrest, hframes⟩ := h.frames
  obtain ⟨hread, hnext⟩ := Reader.read?_of_rest hstart hrest
  exact ⟨_, (h.moveTo t.position).withReader (Nat.le_succ_of_le hstart) hnext,
    Machine.step_read hframes hpre hread⟩

/-- What stands in square brackets is read and run. -/
theorem step_bracket (h : m.At c text (t :: (k ++ rest))) (hpre : c.frame.pre = [])
    (ht : t.kind = .leftSquare) {P : Bracket → Prop}
    (hreads : Scan.Reads (Bracket.read Bracket.readReplacement) k rest P) :
    ∃ (m₁ : Machine s) (b : Bracket), m₁.At c text rest ∧ P b ∧ m.step = m₁.runBracket t b := by
  obtain ⟨r, hstart, hrest, hframes⟩ := h.frames
  obtain ⟨hread, hnext⟩ := Reader.read?_of_rest hstart hrest
  obtain ⟨b, r', hbracket, hb, -, hstart', hrest'⟩ :=
    hreads.exists_reader (Nat.le_succ_of_le hstart) hnext
  refine ⟨_, b, (h.moveTo t.position).withReader hstart' hrest', hb, ?_⟩
  rw [Machine.step_read hframes hpre hread]
  exact runToken_bracket (h.moveTo t.position).frames_ne_nil ht hbracket

/-- At the end of its tokens, a frame without further actions goes. -/
theorem step_pop (h : m.At c text []) (hpre : c.frame.pre = []) (hpost : c.frame.post = []) :
    m.step = .ok m.pop := by
  obtain ⟨r, hstart, hrest, hframes⟩ := h.frames
  exact Machine.step_pop hframes hpre (Reader.read?_of_rest_nil hstart hrest) hpost

theorem frames_pop (h : m.At c text tokens) : m.pop.frames = c.below := by
  obtain ⟨_, -, -, hframes⟩ := h.frames
  exact congrArg List.tail hframes

/-- An output of its own goes with the frame, and becomes a result. -/
theorem pop_of_owns (h : m.At c text tokens) (howns : c.frame.owns = true) :
    m.pop.outputs = c.others ∧ m.pop.results = .ofText text :: c.results := by
  obtain ⟨_, -, -, hframes⟩ := h.frames
  obtain ⟨o, ho, houtputs⟩ := h.outputs
  have howned : m.top?.any (·.owns) = true := by simp [top?, hframes, howns]
  simp [pop, howned, houtputs, h.results, output, ho.output_eq, Output.ofText]

/-- An output that the frame shares with the one below stays. -/
theorem pop_of_shares (h : m.At c text tokens) (hshares : c.frame.owns = false) :
    m.pop.outputs = m.outputs ∧ m.pop.results = c.results := by
  obtain ⟨_, -, -, hframes⟩ := h.frames
  have hshared : m.top?.any (·.owns) = false := by simp [top?, hframes, hshares]
  simp [pop, hshared, h.results]

end At

end Machine

/-! ## Tokens that print -/

/-- Where the subroutines are known and the arguments are in force, and with room for some more
frames, the tokens print the text, and nothing else changes. -/
structure Prints (subroutines : Named Subroutine) (tables : List (Named Argument)) (room : Nat)
    (tokens : List Token) (text : String) : Prop where
  leads : ∀ {s : Setting} (m : Machine s) (c : Surroundings) (before : String) (rest : List Token),
    c.registers.subroutines = subroutines → c.registers.arguments = tables → c.frame.pre = [] →
      c.below.length + 1 + room ≤ s.maxDepth → m.At c before (tokens ++ rest) →
        ∃ n m', Leads n m m' ∧ m'.At c (before ++ text) rest

namespace Prints

variable {R : Named Subroutine} {A : List (Named Argument)} {room room' : Nat}
  {tokens tokens' : List Token} {text text' : String} {t : Token}

theorem nil : Prints R A room [] "" := ⟨fun m c before rest _ _ _ _ h =>
  ⟨0, m, .refl m, (String.append_empty ▸ h : m.At c (before ++ "") rest)⟩⟩

theorem mono (h : Prints R A room tokens text) (hle : room ≤ room') :
    Prints R A room' tokens text := ⟨fun m c before rest hR hA hpre hdepth hm =>
  h.leads m c before rest hR hA hpre (Nat.le_trans (Nat.add_le_add_left hle _) hdepth) hm⟩

theorem append (h : Prints R A room tokens text) (h' : Prints R A room tokens' text') :
    Prints R A room (tokens ++ tokens') (text ++ text') := by
  refine ⟨fun m c before rest hR hA hpre hdepth hm => ?_⟩
  rw [List.append_assoc] at hm
  obtain ⟨n, m₁, hlead, hm₁⟩ := h.leads m c before _ hR hA hpre hdepth hm
  obtain ⟨k, m₂, hlead', hm₂⟩ := h'.leads m₁ c _ rest hR hA hpre hdepth hm₁
  rw [String.append_assoc] at hm₂
  exact ⟨n + k, m₂, hlead.trans hlead', hm₂⟩

theorem plain (ht : t.IsPlain) : Prints R A room [t] t.text := by
  refine ⟨fun m c before rest _ _ hpre _ hm => ?_⟩
  obtain ⟨m₁, hm₁, hstep⟩ := hm.step_read hpre
  obtain ⟨m₂, hprint, hm₂⟩ := hm₁.print t.text
  refine ⟨1, m₂, .single hm.frames_ne_nil (hstep.trans ?_), hm₂⟩
  have hkind := ht.kind
  rw [← hprint, runToken]
  revert hkind
  cases t.kind <;> first | (intro; rfl) | (intro h; simp at h)

/-- Tokens that are printed as they are written. -/
theorem plains (h : ∀ t ∈ tokens, t.IsPlain) :
    Prints R A room tokens (String.join (tokens.map (·.text))) := by
  induction tokens with
  | nil => exact .nil
  | cons t tokens ih =>
    obtain ⟨ht, htokens⟩ := List.forall_mem_cons.1 h
    have hjoin : String.join ((t :: tokens).map (·.text)) =
        t.text ++ String.join (tokens.map (·.text)) := by
      simp
    rw [hjoin]
    exact (plain ht).append (ih htokens)

end Prints

/-! ## Passages that wait -/

/-- The surroundings with what frames have printed as the last results. -/
def Surroundings.withResults (c : Surroundings) (texts : List String) : Surroundings :=
  { c with results := (texts.map Output.ofText).reverse ++ c.results }

theorem Surroundings.withResults_withResults (c : Surroundings) (texts texts' : List String) :
    (c.withResults texts).withResults texts' = c.withResults (texts ++ texts') := by
  simp [withResults]

/-- The frame is about to run a passage, and prints to an output of its own. -/
structure Frame.Begins (f : Frame) (p : Passage) : Prop where
  reader : f.reader = .ofPassage p
  owns : f.owns = true
  pre : f.pre = []
  post : f.post = []

namespace Machine

variable {s : Setting} {m : Machine s} {c : Surroundings} {text : String} {tokens : List Token}
  {p : Passage} {ps : List Passage} {R : Named Subroutine} {A : List (Named Argument)} {room : Nat}

/-- Passages wait in frames of their own, the first one on top. Below them, the machine has printed
a text and has tokens left. -/
structure Waits (m : Machine s) (c : Surroundings) (ps : List Passage) (text : String)
    (tokens : List Token) : Prop where
  frames : ∃ (r : Reader) (fs : List Frame), r.passage.start ≤ r.index ∧ r.rest = tokens ∧
    List.Forall₂ Frame.Begins fs ps ∧ m.frames = fs ++ { c.frame with reader := r } :: c.below
  outputs : ∃ o : ChannelStack, o.Holds text ∧
    m.outputs = List.replicate ps.length .initial ++ o :: c.others
  results : m.results = c.results
  registers : ∃ b : Budget, b.limit = none ∧ m.registers = { c.registers with budget := b }
  blocks : ∀ e ∈ m.blocks, e.2.IsGenuine e.1

namespace Waits

theorem nil_iff : m.Waits c [] text tokens ↔ m.At c text tokens := by
  constructor
  · rintro ⟨⟨r, _, hstart, hrest, ⟨⟩, hframes⟩, houtputs, hresults, hregisters, hblocks⟩
    exact ⟨⟨r, hstart, hrest, hframes⟩, houtputs, hresults, hregisters, hblocks⟩
  · rintro ⟨⟨r, hstart, hrest, hframes⟩, houtputs, hresults, hregisters, hblocks⟩
    exact ⟨⟨r, [], hstart, hrest, .nil, hframes⟩, houtputs, hresults, hregisters, hblocks⟩

/-- One more passage is put on top. -/
theorem push (h : m.Waits c ps text tokens) (hdepth : c.below.length + 2 + ps.length ≤ s.maxDepth)
    (p : Passage) : ∃ m' : Machine s, m.push p true [] [] = .ok m' ∧
      m'.Waits c (p :: ps) text tokens := by
  obtain ⟨r, fs, hstart, hrest, hfs, hframes⟩ := h.frames
  obtain ⟨o, ho, houtputs⟩ := h.outputs
  have hroom : m.frames.length + 1 ≤ s.maxDepth := by
    have hlength := hfs.length_eq
    rw [hframes, List.length_append, List.length_cons]
    omega
  let f : Frame := ⟨m.nextId, .ofPassage p, true, m.results.length, [], []⟩
  refine ⟨_, push_eq_ok hroom p true [] [], ⟨r, f :: fs, hstart, hrest,
    .cons ⟨rfl, rfl, rfl, rfl⟩ hfs, ?_⟩, ⟨o, ho, ?_⟩, h.results, h.registers, h.blocks⟩
  · exact congrArg (f :: ·) hframes
  · exact congrArg (.initial :: ·) houtputs

/-- Passages that run apart wait, to begin with. -/
theorem of_runApart (h : m.At c text tokens)
    (hdepth : c.below.length + 1 + ps.length ≤ s.maxDepth) :
    ∃ m' : Machine s, m.runApart ps = .ok m' ∧ m'.Waits c ps text tokens := by
  induction ps with
  | nil => exact ⟨m, rfl, nil_iff.2 h⟩
  | cons p ps ih =>
    rw [List.length_cons] at hdepth
    obtain ⟨m₁, hrun, hm₁⟩ := ih (by omega)
    obtain ⟨m₂, hpush, hm₂⟩ := hm₁.push (by omega) p
    refine ⟨m₂, ?_, hm₂⟩
    rw [runApart] at hrun
    rw [runApart, List.reverse_cons, List.foldlM_append, hrun]
    exact (bind_pure (m₁.push p true [] [])).trans hpush

/-- What lies around the passage on top. -/
theorem exists_at (h : m.Waits c (p :: ps) text tokens) : ∃ c' : Surroundings,
    m.At c' "" p.tokens ∧ c'.below.length = c.below.length + 1 + ps.length ∧
      c'.registers = c.registers ∧ c'.frame.pre = [] ∧
      ∀ (m' : Machine s) (value : String), m'.At c' value [] →
        ∃ m'' : Machine s, m'.step = .ok m'' ∧ m''.Waits (c.withResults [value]) ps text tokens := by
  obtain ⟨r, fs, hstart, hrest, hfs, hframes⟩ := h.frames
  obtain ⟨o, ho, houtputs⟩ := h.outputs
  cases hfs with
  | @cons f _ fs _ hf hfs =>
    let c' : Surroundings := ⟨f, fs ++ { c.frame with reader := r } :: c.below,
      List.replicate ps.length .initial ++ o :: c.others, c.results, c.registers⟩
    refine ⟨c', ⟨⟨f.reader, ?_, ?_, hframes⟩, ⟨.initial, .initial, houtputs⟩, h.results,
      h.registers, h.blocks⟩, ?_, rfl, hf.pre, fun m' value hm' => ?_⟩
    · rw [hf.reader]
      exact Nat.le_refl _
    · rw [hf.reader]
      exact Reader.rest_ofPassage p
    · have hlength := hfs.length_eq
      rw [List.length_append, List.length_cons]
      omega
    · obtain ⟨houtputs', hresults'⟩ := hm'.pop_of_owns hf.owns
      exact ⟨_, hm'.step_pop hf.pre hf.post, ⟨r, fs, hstart, hrest, hfs, hm'.frames_pop⟩,
        ⟨o, ho, houtputs'⟩, hresults', hm'.registers, hm'.blocks⟩

/-- All passages are run, one after the other, and leave their results. -/
theorem leads (h : m.Waits c ps text tokens) (hR : c.registers.subroutines = R)
    (hA : c.registers.arguments = A) (hdepth : c.below.length + 1 + ps.length + room ≤ s.maxDepth)
    {values : List String}
    (hvalues : List.Forall₂ (fun p value => Prints R A room p.tokens value) ps values) :
    ∃ n m', Leads n m m' ∧ m'.At (c.withResults values) text tokens := by
  induction hvalues generalizing m c with
  | nil => exact ⟨0, m, .refl m, nil_iff.1 h⟩
  | @cons p value ps values hp _ ih =>
    rw [List.length_cons] at hdepth
    obtain ⟨c', hm, hbelow, hregisters, hpre, hdone⟩ := h.exists_at
    rw [← List.append_nil p.tokens] at hm
    obtain ⟨n, m₁, hlead, hm₁⟩ := hp.leads m c' "" [] (by rw [hregisters, hR]) (by rw [hregisters, hA])
      hpre (by omega) hm
    rw [String.empty_append] at hm₁
    obtain ⟨m₂, hstep, hm₂⟩ := hdone m₁ value hm₁
    obtain ⟨k, m₃, hlead', hm₃⟩ := ih hm₂ hR hA (by
      have hsame : (c.withResults [value]).below = c.below := rfl
      rw [hsame]
      omega)
    rw [Surroundings.withResults_withResults] at hm₃
    exact ⟨_, m₃, hlead.trans (.step hm₁.frames_ne_nil hstep hlead'), hm₃⟩

end Waits

/-! ## Calls -/

/-- The last results are taken. -/
theorem At.takeResults {values : List String} (h : m.At (c.withResults values) text tokens) :
    (m.takeResults values.length).1 = values ∧
      (m.takeResults values.length).2.At c text tokens := by
  have hlength : ((values.map Output.ofText).reverse).length = values.length := by simp
  have hresults := h.results
  simp only [Surroundings.withResults] at hresults
  constructor
  · rw [Machine.takeResults, hresults, List.take_left' hlength, List.map_reverse,
      List.reverse_reverse, List.map_map]
    exact List.map_id _
  · refine ⟨h.frames, h.outputs, ?_, h.registers, h.blocks⟩
    rw [Machine.takeResults]
    dsimp only
    rw [hresults, List.drop_left' hlength]

end Machine

/-- The passage has a value as an argument: this is what it prints, and also what is written there if
no frame is needed to print it. -/
structure Passage.IsArgument (R : Named Subroutine) (A : List (Named Argument)) (room : Nat)
    (p : Passage) (value : String) : Prop where
  prints : Prints R A room p.tokens value
  literal : Slot.isPlain p = true → p.text = value

namespace Passage.Writes

variable {p : Passage} {text : String} {R : Named Subroutine} {A : List (Named Argument)}
  {room : Nat}

/-- Text prints what stands between the blanks at its edges. -/
theorem prints (h : p.Writes (.ofText text)) : Prints R A room p.tokens (Text.trimmed text) := by
  have hprints : Prints R A room p.tokens _ := .plains h.forall_isPlain
  have htext : String.join (p.tokens.map (·.text)) = Text.trimmed text := h.text_eq
  rwa [htext] at hprints

theorem isArgument (h : p.Writes (.ofText text)) : p.IsArgument R A room (Text.trimmed text) :=
  ⟨h.prints, fun _ => h.text_eq⟩

end Passage.Writes

namespace Slot

variable {R : Named Subroutine} {A : List (Named Argument)} {room : Nat} {ps : List Passage}
  {values : List String} {takesCode : Nat → Bool}

theorem length_prepare_le (literals : Bool) (takesCode : Nat → Bool) (i : Nat) (ps : List Passage) :
    (prepare literals takesCode i ps).2.length ≤ ps.length := by
  induction ps generalizing i with
  | nil => exact Nat.le_refl _
  | cons p ps ih =>
    have hle := ih (i + 1)
    simp only [prepare, List.length_cons]
    split
    · exact Nat.le_succ_of_le hle
    · split
      · exact Nat.le_succ_of_le hle
      · exact Nat.succ_le_succ hle

/-- The arguments are what passages are passed as, the first of which has a number: as code, or as
their values. -/
inductive Passes (R : Named Subroutine) (A : List (Named Argument)) (room : Nat)
    (takesCode : Nat → Bool) : Nat → List Passage → List Argument → Prop
  | nil (i : Nat) : Passes R A room takesCode i [] []
  | code {i : Nat} {p : Passage} {ps : List Passage} {arguments : List Argument}
    (hcode : takesCode i = true) (h : Passes R A room takesCode (i + 1) ps arguments) :
    Passes R A room takesCode i (p :: ps) (.code p :: arguments)
  | text {i : Nat} {p : Passage} {ps : List Passage} {arguments : List Argument} {value : String}
    (hcode : takesCode i = false) (hp : p.IsArgument R A room value)
    (h : Passes R A room takesCode (i + 1) ps arguments) :
    Passes R A room takesCode i (p :: ps) (.text value :: arguments)

theorem Passes.of_texts (hcode : ∀ i, takesCode i = false)
    (h : List.Forall₂ (Passage.IsArgument R A room) ps values) (i : Nat) :
    Passes R A room takesCode i ps (values.map .text) := by
  induction h generalizing i with
  | nil => exact .nil i
  | cons hp _ ih => exact .text (hcode i) hp (ih (i + 1))

/-- What the passages print that are run fills the slots with all arguments. -/
theorem Passes.exists_fill_prepare {arguments : List Argument} {i : Nat} (literals : Bool)
    (h : Passes R A room takesCode i ps arguments) : ∃ texts,
      List.Forall₂ (fun p text => Prints R A room p.tokens text) (prepare literals takesCode i ps).2
        texts ∧ fill (prepare literals takesCode i ps).1 texts = arguments := by
  induction h with
  | nil => exact ⟨[], .nil, rfl⟩
  | code hcode _ ih =>
    obtain ⟨texts, htexts, hfill⟩ := ih
    simp only [prepare, hcode, if_true]
    exact ⟨texts, htexts, congrArg (_ :: ·) hfill⟩
  | @text i p ps arguments value hcode hp _ ih =>
    obtain ⟨texts, htexts, hfill⟩ := ih
    simp only [prepare, hcode, Bool.false_eq_true, if_false]
    split
    · next hplain =>
      refine ⟨texts, htexts, ?_⟩
      rw [fill, hfill, hp.literal (Bool.and_eq_true _ _ ▸ hplain).2]
    · exact ⟨value :: texts, .cons hp.prints htexts, congrArg (Argument.text value :: ·) hfill⟩

end Slot

namespace Machine

variable {s : Setting} {m : Machine s} {c : Surroundings} {text : String} {tokens : List Token}
  {ps : List Passage} {R : Named Subroutine} {A : List (Named Argument)} {room : Nat}

/-- Whatever is called with arguments is called with what is passed for them. -/
theorem At.takeAfter_of_passes (call : Machine s → List Argument → Except RunError (Machine s))
    (action : List Slot → Deferred) (htake : ∀ (m : Machine s) (slots : List Slot),
      m.take (action slots) = call (m.takeResults (slots.countP (·.isEvaluated))).2
        (Slot.fill slots (m.takeResults (slots.countP (·.isEvaluated))).1))
    {takesCode : Nat → Bool} (h : m.At c text tokens) (hR : c.registers.subroutines = R)
    (hA : c.registers.arguments = A) (hdepth : c.below.length + 1 + ps.length + room ≤ s.maxDepth)
    {arguments : List Argument} (hpasses : Slot.Passes R A room takesCode 0 ps arguments)
    (literals : Bool) :
    ∃ m₁ : Machine s, m₁.At c text tokens ∧ ∀ m', call m₁ arguments = .ok m' → ∃ n m₀,
      m.takeAfter (action (Slot.prepare literals takesCode 0 ps).1)
        (Slot.prepare literals takesCode 0 ps).2 = .ok m₀ ∧ Leads n m₀ m' := by
  obtain ⟨texts, htexts, hfill⟩ := hpasses.exists_fill_prepare literals
  have hcount := Slot.countP_prepare literals takesCode 0 ps
  have hlength := Slot.length_prepare_le literals takesCode 0 ps
  generalize (Slot.prepare literals takesCode 0 ps).1 = slots at *
  generalize (Slot.prepare literals takesCode 0 ps).2 = passages at *
  rw [htexts.length_eq] at hcount
  cases htexts with
  | nil =>
    -- No argument needs a frame, so the call is made at once.
    have hnone : m.At (c.withResults []) text tokens := h
    obtain ⟨htaken, hm₁⟩ := hnone.takeResults
    refine ⟨_, hm₁, fun m' hcall => ⟨0, m', ?_, .refl m'⟩⟩
    rw [Machine.takeAfter, htake, hcount, htaken, hfill]
    exact hcall
  | @cons p value ps' texts hp htexts =>
    -- The call waits until the frames of the arguments are over.
    have hroom : (c.defer (action slots)).below = c.below := rfl
    obtain ⟨m₀, hrun, hm₀⟩ : ∃ m₀ : Machine s, (m.defer (action slots)).runApart (p :: ps') = .ok m₀ ∧
        m₀.Waits (c.defer (action slots)) (p :: ps') text tokens :=
      Waits.of_runApart (h.defer (action slots)) (by rw [hroom]; omega)
    obtain ⟨n, m₂, hlead, hm₂⟩ := hm₀.leads hR hA (by rw [hroom]; omega) (.cons hp htexts)
    obtain ⟨m₃, hm₃, hstep⟩ := At.step_take (c := c.withResults (value :: texts)) hm₂
    obtain ⟨htaken, hm₁⟩ := hm₃.takeResults
    refine ⟨_, hm₁, fun m' hcall => ⟨n + 1, m₀, hrun, hlead.trans (.single hm₂.frames_ne_nil ?_)⟩⟩
    rw [hstep, htake, hcount, htaken, hfill]
    exact hcall

/-- Whatever is called with texts is called with their values. -/
theorem At.takeAfter (call : Machine s → List Argument → Except RunError (Machine s))
    (action : List Slot → Deferred) (htake : ∀ (m : Machine s) (slots : List Slot),
      m.take (action slots) = call (m.takeResults (slots.countP (·.isEvaluated))).2
        (Slot.fill slots (m.takeResults (slots.countP (·.isEvaluated))).1))
    {takesCode : Nat → Bool} (hcode : ∀ i, takesCode i = false) (h : m.At c text tokens)
    (hR : c.registers.subroutines = R) (hA : c.registers.arguments = A)
    (hdepth : c.below.length + 1 + ps.length + room ≤ s.maxDepth) {values : List String}
    (hvalues : List.Forall₂ (Passage.IsArgument R A room) ps values) (literals : Bool) :
    ∃ m₁ : Machine s, m₁.At c text tokens ∧ ∀ m', call m₁ (values.map .text) = .ok m' → ∃ n m₀,
      m.takeAfter (action (Slot.prepare literals takesCode 0 ps).1)
        (Slot.prepare literals takesCode 0 ps).2 = .ok m₀ ∧ Leads n m₀ m' :=
  h.takeAfter_of_passes call action htake hR hA hdepth (.of_texts hcode hvalues 0) literals

end Machine

/-! ## Runs -/

namespace Engine

variable {e : Engine} {p : Pattern} {g : Generator}

/-- What lies around the tokens of a pattern that is run, with registers that may have changed. -/
def around (p : Pattern) (registers : Registers) : Surroundings :=
  ⟨⟨1, .ofPassage p.passage, true, 0, [], []⟩, [], [], [], registers⟩

/-- A run begins in front of all tokens, and nothing is printed yet. -/
theorem exists_reaches_at (hdepth : 1 ≤ e.config.maxDepth) (hlimit : e.config.charLimit = none)
    (p : Pattern) (g : Generator) :
    ∃ m, e.Reaches p g m ∧ m.At (around p (e.registers g)) "" p.tokens.toList := by
  have hstart := push_eq_ok (m := initial e.setting (e.registers g)) hdepth p.passage true [] []
  refine ⟨_, ⟨_, 0, hstart, .refl _⟩, ⟨.ofPassage p.passage, Nat.le_refl _, ?_, rfl⟩,
    ⟨.initial, .initial, rfl⟩, rfl, ⟨.ofLimit e.config.charLimit, hlimit, rfl⟩, nofun⟩
  exact (Reader.rest_ofPassage p.passage).trans p.tokens_passage

/-- A run that has come behind all tokens comes to an end with the same generator. -/
theorem exists_reaches_end {m : Machine e.setting} {registers : Registers} {text : String}
    (h : e.Reaches p g m) (hm : m.At (around p registers) text []) :
    ∃ m', e.Reaches p g m' ∧ m'.frames = [] ∧ m'.registers.generator = registers.generator := by
  refine ⟨m.pop, h.lead (.single hm.frames_ne_nil (hm.step_pop rfl rfl)), hm.frames_pop, ?_⟩
  obtain ⟨_, -, hregisters⟩ := hm.registers
  exact congrArg (·.generator) hregisters

/-- A run that has come behind all tokens gives what it has printed. -/
theorem run_of_reaches_at {m : Machine e.setting} {registers : Registers} {text : String}
    (h : e.Reaches p g m) (hm : m.At (around p registers) text []) :
    (e.run p g).1 = .ok (.ofText text) := by
  obtain ⟨-, hresults⟩ := hm.pop_of_owns rfl
  refine run_eq_of_ends (h.lead (.single hm.frames_ne_nil (hm.step_pop rfl rfl)))
    (.inl ⟨hm.frames_pop, ?_⟩)
  rw [hresults, List.headD_cons]

end Engine

end Wordsmith
