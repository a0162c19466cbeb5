import Wordsmith.Proofs.Blocks.Tags

/-!
# Frames that print to one output

What a repetition of a block has to run waits in frames on top of each other, which print to the
output below, one behind the other. In front of its tokens and behind them, a frame may take actions;
those of a block change the registers and nothing else.

Main result: `Machine.Queues.leads_job_of_printsIn`, the job on top is done.
-/

namespace Wordsmith

open Machine

/-! ## Actions that change the registers -/

/-- Taking the actions changes the registers, and nothing else. -/
inductive Deferred.Change : List Deferred → (Registers → Registers) → Prop
  | nil : Change [] id
  | cons {a : Deferred} {as : List Deferred} {f g : Registers → Registers}
    (htake : ∀ {s : Setting} (m : Machine s), m.take a = .ok (m.change f)) (hf : KeepsBudget f)
    (h : Change as g) : Change (a :: as) (g ∘ f)

theorem Deferred.Change.single {a : Deferred} {f : Registers → Registers}
    (htake : ∀ {s : Setting} (m : Machine s), m.take a = .ok (m.change f)) (hf : KeepsBudget f) :
    Change [a] f :=
  have hnil : id ∘ f = f := rfl
  hnil ▸ .cons htake hf .nil

/-- What is run in a frame: tokens, and actions before and after them. -/
structure Job where
  passage : Passage
  pre : List Deferred
  post : List Deferred

/-- The frame is about to do the job, and prints to the output below. -/
structure Frame.Takes (f : Frame) (j : Job) : Prop where
  reader : f.reader = .ofPassage j.passage
  shares : f.owns = false
  pre : f.pre = j.pre
  post : f.post = j.post

/-- The tokens print the text wherever they are run. -/
def Passage.AlwaysPrints (p : Passage) (text : String) : Prop := ∀ R A, Prints R A 0 p.tokens text

/-- Where the registers are known, but for how much was written, and with room for some more frames,
the tokens print the text, and nothing else changes. -/
structure PrintsIn (q : Registers) (room : Nat) (tokens : List Token) (text : String) : Prop where
  leads : ∀ {s : Setting} (m : Machine s) (c : Surroundings) (before : String) (rest : List Token),
    c.registers = q → c.frame.pre = [] → c.below.length + 1 + room ≤ s.maxDepth →
      m.At c before (tokens ++ rest) → ∃ n m', Leads n m m' ∧ m'.At c (before ++ text) rest

namespace PrintsIn

variable {q : Registers} {room room' : Nat} {tokens tokens' : List Token} {text text' : String}

theorem of_prints (h : Prints q.subroutines q.arguments room tokens text) :
    PrintsIn q room tokens text :=
  ⟨fun m c before rest hq hpre hdepth hm =>
    h.leads m c before rest (by rw [hq]) (by rw [hq]) hpre hdepth hm⟩

theorem mono (h : PrintsIn q room tokens text) (hle : room ≤ room') :
    PrintsIn q room' tokens text :=
  ⟨fun m c before rest hq hpre hdepth hm =>
    h.leads m c before rest hq hpre (Nat.le_trans (Nat.add_le_add_left hle _) hdepth) hm⟩

theorem append (h : PrintsIn q room tokens text) (h' : PrintsIn q room tokens' text') :
    PrintsIn q room (tokens ++ tokens') (text ++ text') := by
  refine ⟨fun m c before rest hq hpre hdepth hm => ?_⟩
  rw [List.append_assoc] at hm
  obtain ⟨n, m₁, hlead, hm₁⟩ := h.leads m c before _ hq hpre hdepth hm
  obtain ⟨k, m₂, hlead', hm₂⟩ := h'.leads m₁ c _ rest hq hpre hdepth hm₁
  rw [String.append_assoc] at hm₂
  exact ⟨n + k, m₂, hlead.trans hlead', hm₂⟩

end PrintsIn

/-- The surroundings with other actions in the innermost frame. -/
def Surroundings.withActions (c : Surroundings) (pre post : List Deferred) : Surroundings :=
  { c with frame := { c.frame with pre := pre, post := post } }

namespace Machine

variable {s : Setting} {m : Machine s} {c : Surroundings} {text : String} {tokens : List Token}
  {as : List Deferred} {f g : Registers → Registers} {j : Job} {js : List Job}

theorem step_post {fr : Frame} {below : List Frame} (hframes : m.frames = fr :: below)
    (hpre : fr.pre = []) (hread : fr.reader.read? = none) {action : Deferred}
    {post : List Deferred} (hpost : fr.post = action :: post) :
    m.step = (m.modifyTop fun f => { f with post := post }).take action := by
  simp only [step, hframes, hpre, hread, hpost]

/-- The actions in front of the tokens are taken. -/
theorem At.leads_pre (has : Deferred.Change as f) {post : List Deferred}
    (h : m.At (c.withActions as post) text tokens) : ∃ n m', Leads n m m' ∧
      m'.At ({ c with registers := f c.registers }.withActions [] post) text tokens := by
  induction has generalizing m c with
  | nil => exact ⟨0, m, .refl m, h⟩
  | @cons a as f g htake hf _ ih =>
    obtain ⟨m₁, hm₁, hstep⟩ := At.step_take (c := c.withActions as post) h
    obtain ⟨n, m', hlead, hm'⟩ := ih (c := { c with registers := f c.registers }) (hm₁.change hf)
    exact ⟨n + 1, m', .step h.frames_ne_nil (hstep.trans (htake m₁)) hlead, hm'⟩

/-- The actions behind the tokens are taken. -/
theorem At.leads_post (has : Deferred.Change as f) (h : m.At (c.withActions [] as) text []) :
    ∃ n m', Leads n m m' ∧
      m'.At ({ c with registers := f c.registers }.withActions [] []) text [] := by
  induction has generalizing m c with
  | nil => exact ⟨0, m, .refl m, h⟩
  | @cons a as f g htake hf _ ih =>
    obtain ⟨r, hstart, hrest, hframes⟩ := h.frames
    have hstep := step_post hframes rfl (Reader.read?_of_rest_nil hstart hrest) rfl
    have hm₁ : (m.modifyTop fun f => { f with post := as }).At (c.withActions [] as) text [] := by
      refine ⟨⟨r, hstart, hrest, ?_⟩, h.outputs, h.results, h.registers, h.blocks⟩
      simp [modifyTop, hframes, Surroundings.withActions]
    obtain ⟨n, m', hlead, hm'⟩ := ih (c := { c with registers := f c.registers }) (hm₁.change hf)
    exact ⟨n + 1, m', .step h.frames_ne_nil (hstep.trans (htake _)) hlead, hm'⟩

/-! ## Jobs -/

/-- Jobs wait in frames of their own, the first one on top. Below them, the machine has printed a
text and has tokens left. -/
structure Queues (m : Machine s) (c : Surroundings) (js : List Job) (text : String)
    (tokens : List Token) : Prop where
  frames : ∃ (r : Reader) (fs : List Frame), r.passage.start ≤ r.index ∧ r.rest = tokens ∧
    List.Forall₂ Frame.Takes fs js ∧ m.frames = fs ++ { c.frame with reader := r } :: c.below
  outputs : ∃ o : ChannelStack, o.Holds text ∧ m.outputs = o :: c.others
  results : m.results = c.results
  registers : ∃ b : Budget, b.limit = none ∧ m.registers = { c.registers with budget := b }
  blocks : ∀ e ∈ m.blocks, e.2.IsGenuine e.1

namespace Queues

theorem nil_iff : m.Queues c [] text tokens ↔ m.At c text tokens := by
  constructor
  · rintro ⟨⟨r, _, hstart, hrest, ⟨⟩, hframes⟩, houtputs, hresults, hregisters, hblocks⟩
    exact ⟨⟨r, hstart, hrest, hframes⟩, houtputs, hresults, hregisters, hblocks⟩
  · rintro ⟨⟨r, hstart, hrest, hframes⟩, houtputs, hresults, hregisters, hblocks⟩
    exact ⟨⟨r, [], hstart, hrest, .nil, hframes⟩, houtputs, hresults, hregisters, hblocks⟩

/-- One more job is put on top. -/
theorem push (h : m.Queues c js text tokens) (hdepth : c.below.length + 2 + js.length ≤ s.maxDepth)
    (j : Job) : ∃ m' : Machine s, m.push j.passage false j.pre j.post = .ok m' ∧
      m'.Queues c (j :: js) text tokens := by
  obtain ⟨r, fs, hstart, hrest, hfs, hframes⟩ := h.frames
  have hroom : m.frames.length + 1 ≤ s.maxDepth := by
    have hlength := hfs.length_eq
    rw [hframes, List.length_append, List.length_cons]
    omega
  let f : Frame := ⟨m.nextId, .ofPassage j.passage, false, m.results.length, j.pre, j.post⟩
  refine ⟨_, push_eq_ok hroom j.passage false j.pre j.post, ⟨r, f :: fs, hstart, hrest,
    .cons ⟨rfl, rfl, rfl, rfl⟩ hfs, ?_⟩, h.outputs, h.results, h.registers, h.blocks⟩
  exact congrArg (f :: ·) hframes

/-- An act that changes the registers and says something. -/
theorem act (h : m.Queues c js text tokens) {α : Type} {a : Act α} {x : α} {q : Registers}
    (hrun : ∀ (b : Budget) (o : ChannelStack), a.run ⟨{ c.registers with budget := b }, o⟩ =
      .ok (x, ⟨{ q with budget := b }, o⟩)) :
    ∃ m' : Machine s, m.act a = .ok (x, m') ∧
      m'.Queues { c with registers := q } js text tokens := by
  obtain ⟨o, ho, houtputs⟩ := h.outputs
  obtain ⟨b, hb, hregisters⟩ := h.registers
  have houtput : m.output = o := by rw [output, houtputs, List.headD_cons]
  have hrun : a.run ⟨m.registers, m.output⟩ = .ok (x, ⟨{ q with budget := b }, o⟩) := by
    rw [hregisters, houtput]
    exact hrun b o
  refine ⟨_, act_of_run hrun, h.frames, ⟨o, ho, ?_⟩, h.results, ⟨b, hb, rfl⟩, h.blocks⟩
  exact congrArg (o :: ·.tail) houtputs

/-- The job on top is done: its actions are taken, and what its tokens print stands behind the text. -/
theorem leads_job_of_printsIn (h : m.Queues c (j :: js) text tokens)
    (hpre : Deferred.Change j.pre f) (hpost : Deferred.Change j.post g) {room : Nat}
    {value : String} (hvalue : PrintsIn (f c.registers) room j.passage.tokens value)
    (hroom : c.below.length + 2 + js.length + room ≤ s.maxDepth) :
    ∃ n m', Leads n m m' ∧
      m'.Queues { c with registers := g (f c.registers) } js (text ++ value) tokens := by
  obtain ⟨r, fs, hstart, hrest, hfs, hframes⟩ := h.frames
  cases hfs with
  | @cons f₀ _ fs _ hf hfs =>
    let c' : Surroundings := ⟨f₀, fs ++ { c.frame with reader := r } :: c.below, c.others, c.results,
      c.registers⟩
    have hm : m.At (c'.withActions j.pre j.post) text j.passage.tokens := by
      refine ⟨⟨f₀.reader, ?_, ?_, ?_⟩, h.outputs, h.results, h.registers, h.blocks⟩
      · rw [hf.reader]
        exact Nat.le_refl _
      · rw [hf.reader]
        exact Reader.rest_ofPassage _
      · rw [hframes, ← hf.pre, ← hf.post]
        rfl
    obtain ⟨n₁, m₁, hlead₁, hm₁⟩ := hm.leads_pre hpre
    rw [← List.append_nil j.passage.tokens] at hm₁
    have hroom : c'.below.length + 1 + room ≤ s.maxDepth := by
      have hlength := hfs.length_eq
      rw [List.length_append, List.length_cons]
      omega
    let c₁ : Surroundings := { c' with registers := f c'.registers }.withActions [] j.post
    obtain ⟨n₂, m₂, hlead₂, hm₂⟩ := hvalue.leads m₁ c₁ text [] rfl rfl hroom hm₁
    obtain ⟨n₃, m₃, hlead₃, hm₃⟩ := hm₂.leads_post hpost
    obtain ⟨houtputs, hresults⟩ := hm₃.pop_of_shares hf.shares
    refine ⟨_, m₃.pop, hlead₁.trans (hlead₂.trans (hlead₃.trans (.single hm₃.frames_ne_nil
      (hm₃.step_pop rfl rfl)))), ⟨r, fs, hstart, hrest, hfs, hm₃.frames_pop⟩, ?_, hresults,
      hm₃.registers, hm₃.blocks⟩
    rw [houtputs]
    exact hm₃.outputs

/-- A job that prints wherever it is run is done. -/
theorem leads_job (h : m.Queues c (j :: js) text tokens) (hpre : Deferred.Change j.pre f)
    (hpost : Deferred.Change j.post g) {value : String} (hvalue : j.passage.AlwaysPrints value) :
    ∃ n m', Leads n m m' ∧
      m'.Queues { c with registers := g (f c.registers) } js (text ++ value) tokens := by
  refine h.leads_job_of_printsIn hpre hpost (.of_prints (hvalue _ _)) ?_
  obtain ⟨r, fs, -, -, hfs, hframes⟩ := h.frames
  have hle := m.frames_le
  have hlength := hfs.length_eq
  rw [hframes, List.length_append, List.length_cons] at hle
  rw [List.length_cons] at hlength
  omega

end Queues

end Machine

end Wordsmith
