import Wordsmith.Proofs.Results

/-!
# Isolation

A frame prints to its own output or, if it has none, to that of the nearest frame below that has
one. The outputs are kept on a stack of their own, so which of them belongs to which frame is a
matter of counting: the outputs of some frames at the bottom of the stack are as many outputs at the
bottom of theirs as there are owners among the frames.

As long as a frame is there, the frames below it stay as they are. If it has an output of its own,
so do the outputs of those frames, whatever is run on top: nothing is printed past it, no channel of
theirs is visited or closed, and no mode, marker, target or article of theirs is changed. A block
that is left takes away whole frames with their outputs, and never a part.

Main results: `Moves.spares`, what a step does not touch, and `Engine.frames_isolated`.
-/

namespace Wordsmith

namespace Frame

/-- The place of the frame to whose output the innermost of some frames prints, counted from the
outermost one: its own if it has an output of its own, and otherwise that for the frame below. -/
def outputPlace? : List Frame → Option Nat
  | [] => none
  | f :: below => if f.owns then some below.length else outputPlace? below

theorem outputPlace?_own {f : Frame} (h : f.owns = true) (below : List Frame) :
    outputPlace? (f :: below) = some below.length := by
  simp [outputPlace?, h]

theorem outputPlace?_shared {f : Frame} (h : f.owns = false) (below : List Frame) :
    outputPlace? (f :: below) = outputPlace? below := by
  simp [outputPlace?, h]

/-- Where the outermost frame has an output, the frames down to the nearest owner have a place to
print to, which is not above the innermost of them. -/
theorem exists_outputPlace {frames : List Frame} (h : ∀ f ∈ frames.getLast?, f.owns = true)
    (hne : frames ≠ []) :
    ∃ inner owner kept, frames = inner ++ owner :: kept ∧ (∀ f ∈ inner, f.owns = false) ∧
      owner.owns = true ∧ outputPlace? frames = some kept.length := by
  induction frames with
  | nil => exact absurd rfl hne
  | cons f below ih =>
    cases howns : f.owns with
    | true => exact ⟨[], f, below, rfl, List.forall_mem_nil _, howns, outputPlace?_own howns below⟩
    | false =>
      have hbelow : below ≠ [] := by
        rintro rfl
        simp [howns] at h
      have hlast : ∀ g ∈ below.getLast?, g.owns = true := by
        rwa [List.getLast?_cons_of_ne_nil hbelow] at h
      obtain ⟨inner, owner, kept, rfl, hinner, howner, hplace⟩ := ih hlast hbelow
      refine ⟨f :: inner, owner, kept, rfl, List.forall_mem_cons.2 ⟨howns, hinner⟩, howner, ?_⟩
      rw [outputPlace?_shared howns, hplace]

end Frame

namespace Stage

variable {x y : Stage} {literals : Bool} {k : Nat} {f f' g : Frame} {up below rest : List Frame}

/-- The outputs of frames at the bottom of the stack. -/
def outputsOf (x : Stage) (below : List Frame) : List ChannelStack :=
  x.outputs.drop (x.outputs.length - below.countP (·.owns))

theorem outputsOf_of_append {outputs l : List ChannelStack} (h : x.outputs = outputs ++ l)
    (hlength : l.length = below.countP (·.owns)) : x.outputsOf below = l := by
  rw [outputsOf, h, List.length_append, hlength, Nat.add_sub_cancel, List.drop_left]

theorem length_outputsOf (h : below.countP (·.owns) ≤ x.outputs.length) :
    (x.outputsOf below).length = below.countP (·.owns) := by
  rw [outputsOf, List.length_drop]
  omega

/-- The outputs at the bottom stay where only those above them come or go. -/
theorem outputsOf_eq_of_drop (outputs : List ChannelStack) (n : Nat)
    (h : y.outputs = outputs ++ x.outputs.drop n)
    (hle : n + below.countP (·.owns) ≤ x.outputs.length) :
    y.outputsOf below = x.outputsOf below := by
  have hparts := List.take_append_drop (x.outputs.length - below.countP (·.owns) - n)
    (x.outputs.drop n)
  rw [List.drop_drop, Nat.add_sub_cancel' (by omega)] at hparts
  rw [← hparts, ← List.append_assoc] at h
  exact outputsOf_of_append h (length_outputsOf (by omega))

/-! ## Frames that come are new -/

/-- The frames of `y` are those of `x`, or have been given ids that were free. -/
structure Renews (x y : Stage) : Prop where
  frames : ∀ f ∈ y.frames, f.id ∈ x.frames.map (·.id) ∨ x.nextId ≤ f.id
  nextId : x.nextId ≤ y.nextId

namespace Renews

theorem of_frames (h : ∀ f ∈ y.frames, f.id ∈ x.frames.map (·.id)) (hid : x.nextId ≤ y.nextId) :
    x.Renews y := ⟨fun f hf => .inl (h f hf), hid⟩

theorem refl (x : Stage) : x.Renews x :=
  of_frames (fun _ hf => List.mem_map_of_mem hf) (Nat.le_refl _)

/-- Neither what is printed nor what is remembered matters. -/
theorem of_same {z : Stage} (h : z.Renews y) (hframes : z.frames = x.frames)
    (hid : z.nextId = x.nextId) : x.Renews y :=
  ⟨hframes ▸ hid ▸ h.frames, hid ▸ h.nextId⟩

theorem trans {z : Stage} (h : x.Renews y) (h' : y.Renews z) : x.Renews z := by
  refine ⟨fun f hf => ?_, Nat.le_trans h.nextId h'.nextId⟩
  rcases h'.frames f hf with hold | hnew
  · obtain ⟨g, hg, hid⟩ := List.mem_map.1 hold
    exact hid ▸ h.frames g hg
  · exact .inr (Nat.le_trans h.nextId hnew)

theorem enter (x : Stage) (o : Opening) : x.Renews (x.enter o) := by
  refine ⟨fun f hf => ?_, Nat.le_succ _⟩
  rcases List.mem_cons.1 hf with rfl | hf
  · exact .inr (Nat.le_refl _)
  · exact .inl (List.mem_map_of_mem hf)

theorem enterAll (x : Stage) (os : List Opening) : x.Renews (x.enterAll os) := by
  induction os generalizing x with
  | nil => exact .refl x
  | cons o os ih => exact (Renews.enter x o).trans (ih _)

theorem defer (x : Stage) (action : Deferred) : x.Renews (x.defer action) := by
  refine of_frames (fun f hf => ?_) (Nat.le_refl _)
  cases hx : x.frames with
  | nil => simp [Stage.defer, hx] at hf
  | cons g below =>
    rcases (by simpa [Stage.defer, hx] using hf : f = _ ∨ f ∈ below) with rfl | hf
    · simp
    · exact List.mem_cons_of_mem _ (List.mem_map_of_mem hf)

end Renews

theorem Leaves.renews (h : x.Leaves y) : x.Renews y := by
  cases h with
  | idle => exact .refl x
  | lost => exact .of_same (.refl _) rfl rfl
  | cut _ hframes =>
    refine .of_frames (fun f hf => ?_) (Nat.le_refl _)
    rw [hframes]
    exact List.mem_map_of_mem (List.mem_append_right _ hf)

theorem Effect.renews {due : Option Deferred} (h : x.Effect literals due y) : x.Renews y := by
  cases h with
  | act | undo | advance | suppress | gone => exact .of_same (.refl _) rfl rfl
  | run => exact .of_same (.enter _ _) rfl rfl
  | runThen | compare | iterate | await | «matches» =>
    exact .of_same ((Renews.defer _ _).trans (.enterAll _ _)) rfl rfl
  | call => exact .of_same ((Renews.defer _ _).trans (.enter _ _)) rfl rfl
  | leave hleaves => exact .of_same hleaves.renews rfl rfl
  | @block b a s =>
    have hnext : x.Renews { x.turn s with nextId := x.nextId + 1 } :=
      ⟨(Renews.refl x).frames, Nat.le_succ _⟩
    exact hnext.trans (.of_same (.defer _ _) rfl rfl)

theorem Step.renews (h : x.Step literals y) : x.Renews y := by
  cases h with
  | @go f f' below due y hframes hgives heffect =>
    have hsame : x.Renews { x with frames := f' :: below } := by
      refine .of_frames (fun g hg => ?_) (Nat.le_refl _)
      rw [hframes]
      rcases List.mem_cons.1 hg with rfl | hg
      · exact hgives.continues.id ▸ List.mem_cons_self
      · exact List.mem_map_of_mem (List.mem_cons_of_mem f hg)
    exact hsame.trans heffect.renews
  | pop hframes =>
    refine .of_frames (fun g hg => ?_) (Nat.le_refl _)
    exact List.mem_map_of_mem (List.mem_of_mem_tail hg)

/-! ## What a step spares -/

/-- The frame `g` is still there, the frames below it are the same, and so are their outputs if `g`
has one of its own. -/
structure Spares (x : Stage) (g : Frame) (rest : List Frame) (y : Stage) : Prop where
  frames : ∃ up g', y.frames = up ++ g' :: rest ∧ g.Continues g'
  outputs : g.owns = true → y.outputsOf rest = x.outputsOf rest

/-- Whatever frames there are with the id of a frame, they are that frame over the same ones. -/
theorem split_of_id_mem {frames : List Frame} (hids : (frames.map (·.id)).Pairwise (· > ·))
    {kept : List Frame} (hkept : kept <:+ frames) (hsplit : frames = up ++ g :: rest)
    (hmem : g.id ∈ kept.map (·.id)) : ∃ up', kept = up' ++ g :: rest := by
  obtain ⟨dropped, rfl⟩ := hkept
  rcases List.append_eq_append_iff.1 hsplit with ⟨l, rfl, hl⟩ | ⟨l, rfl, hl⟩
  · exact ⟨l, hl⟩
  · cases l with
    | nil => exact ⟨[], hl.symm⟩
    | cons a l =>
      -- The frame is among those that are gone, and its id is given to none that is left.
      obtain ⟨rfl, -⟩ := List.cons.inj hl
      rw [List.map_append, List.pairwise_append] at hids
      have hlt := hids.2.2 g.id (by simp) g.id hmem
      exact absurd hlt (Nat.lt_irrefl _)

/-- Where the innermost frame goes on, with other frames on top, all frames are still there. -/
theorem exists_over {frames inner : List Frame} (hframes : frames = inner ++ f' :: below)
    (hf : f.Continues f') (hsplit : f :: below = up ++ g :: rest) :
    ∃ up g', frames = up ++ g' :: rest ∧ g.Continues g' := by
  cases up with
  | nil =>
    obtain ⟨rfl, rfl⟩ := List.cons.inj hsplit
    exact ⟨inner, f', hframes, hf⟩
  | cons a up =>
    obtain ⟨rfl, rfl⟩ := List.cons.inj hsplit
    exact ⟨inner ++ f' :: up, g, by simp [hframes], .refl g⟩

/-- A step that leaves a frame there leaves the frames below it as they are, and their outputs if
the frame has one of its own. -/
theorem Moves.spares (hmoves : x.Moves literals k f below y) (h : x.Coherent none)
    (hframes : x.frames = f :: below) (hsplit : f :: below = up ++ g :: rest)
    (hstill : g.id ∈ y.frames.map (·.id)) : x.Spares g rest y := by
  have hids := h.ids
  have houtputs := h.outputs
  rw [hframes] at hids houtputs
  have hcount : g.owns = true → 1 + rest.countP (·.owns) ≤ x.outputs.length := by
    intro howns
    simp only [houtputs, hsplit, List.countP_append, List.countP_cons, howns, if_true]
    omega
  cases hmoves with
  | @stay f' inner o hf _ _ hframes' _ houtputs' _ =>
    refine ⟨exists_over hframes' hf hsplit, fun howns => ?_⟩
    refine outputsOf_eq_of_drop [o] 1 ?_ (hcount howns)
    rw [houtputs', List.drop_one]
    rfl
  | @postpone f' action os hf _ _ _ hframes' houtputs' _ =>
    refine ⟨exists_over hframes' hf hsplit, fun howns => ?_⟩
    refine outputsOf_eq_of_drop _ 0 houtputs' ?_
    have := hcount howns
    omega
  | finish _ _ _ hframes' houtputs' =>
    obtain ⟨up', hup⟩ := split_of_id_mem hids (List.suffix_cons f below) hsplit (hframes' ▸ hstill)
    refine ⟨⟨up', g, hframes'.trans hup, .refl g⟩, fun howns => ?_⟩
    exact outputsOf_eq_of_drop [] 1 (by rw [houtputs', List.drop_one]; rfl)
      (hcount howns)
  | pop _ _ hframes' houtputs' =>
    obtain ⟨up', hup⟩ := split_of_id_mem hids (List.suffix_cons f below) hsplit (hframes' ▸ hstill)
    refine ⟨⟨up', g, hframes'.trans hup, .refl g⟩, fun _ => ?_⟩
    rw [outputsOf, outputsOf, houtputs']
  | @cut dropped kept base _ hbelow _ hframes' houtputs' _ =>
    have hsuffix : base :: kept <:+ f :: below :=
      hbelow ▸ (List.suffix_append dropped _).trans (List.suffix_cons f _)
    obtain ⟨up', hup⟩ := split_of_id_mem hids hsuffix hsplit (hframes' ▸ hstill)
    refine ⟨⟨up', g, hframes'.trans hup, .refl g⟩, fun howns => ?_⟩
    refine outputsOf_eq_of_drop [] _ houtputs' ?_
    rw [houtputs, hbelow, ← List.cons_append, List.countP_append, hup]
    simp only [List.countP_append, List.countP_cons, howns, if_true]
    omega

end Stage

/-! ## Machines -/

namespace Machine

variable {s : Setting} {m m' : Machine s} {f f' : Frame} {up below kept : List Frame}
  {o : ChannelStack} {α : Type}

/-- The outputs of frames at the bottom of the stack. -/
def outputsOf (m : Machine s) (below : List Frame) : List ChannelStack := m.stage.outputsOf below

/-- The frame `f` over the frames `below` prints to the output `o`. It is there, and belongs to the
nearest frame that has one, over the frames `kept`: to `f` or to one of those below. -/
structure PrintsTo (m : Machine s) (f : Frame) (below : List Frame) (o : ChannelStack)
    (kept : List Frame) : Prop where
  owner : ∃ inner owner, f :: below = inner ++ owner :: kept ∧ (∀ g ∈ inner, g.owns = false) ∧
    owner.owns = true
  place : Frame.outputPlace? (f :: below) = some kept.length
  place_le : kept.length ≤ below.length
  outputs : m.outputsOf (f :: below) = o :: m.outputsOf kept

/-- The frame `f` is still there and prints to the same place, and the frames `below` it are the
same. If it has an output of its own, so are all their outputs. -/
structure Isolates (m : Machine s) (f : Frame) (below : List Frame) (m' : Machine s) : Prop where
  frames : ∃ up f', m'.frames = up ++ f' :: below ∧ f.Continues f' ∧
    Frame.outputPlace? (f' :: below) = Frame.outputPlace? (f :: below)
  outputs : f.owns = true → m'.outputsOf below = m.outputsOf below

/-- Every frame of a coherent machine has an output to print to. -/
theorem Coherent.exists_printsTo (h : m.Coherent) (hframes : m.frames = up ++ f :: below) :
    ∃ o kept, m.PrintsTo f below o kept := by
  have hroot : ∀ g ∈ (f :: below).getLast?, g.owns = true := by
    have hlast : ∀ g ∈ m.frames.getLast?, g.owns = true := h.root
    rw [hframes, List.getLast?_append] at hlast
    simpa [List.getLast?_cons] using hlast
  obtain ⟨inner, owner, kept, hsplit, hinner, howner, hplace⟩ :=
    Frame.exists_outputPlace hroot (List.cons_ne_nil f below)
  have houtputs : m.stage.outputs.length = m.frames.countP (·.owns) := h.outputs
  have hinner' : inner.countP (·.owns) = 0 :=
    List.countP_eq_zero.2 fun g hg => by simp [hinner g hg]
  have hcount : (f :: below).countP (·.owns) = kept.countP (·.owns) + 1 := by
    rw [hsplit, List.countP_append, hinner', List.countP_cons]
    simp [howner]
  have hle : (f :: below).countP (·.owns) ≤ m.stage.outputs.length := by
    rw [houtputs, hframes, List.countP_append]
    exact Nat.le_add_left _ _
  obtain ⟨o, others, ho⟩ : ∃ o others, m.stage.outputsOf (f :: below) = o :: others := by
    refine List.exists_cons_of_ne_nil (List.ne_nil_of_length_pos ?_)
    rw [Stage.length_outputsOf hle, hcount]
    exact Nat.succ_pos _
  have hothers : m.stage.outputsOf kept = others := by
    have hlength := Stage.length_outputsOf hle
    rw [ho, hcount, List.length_cons] at hlength
    obtain ⟨upper, hparts⟩ : m.stage.outputsOf (f :: below) <:+ m.stage.outputs :=
      List.drop_suffix _ _
    rw [ho, List.append_cons] at hparts
    exact Stage.outputsOf_of_append hparts.symm (Nat.succ.inj hlength)
  have htop : m.outputsOf (f :: below) = o :: m.outputsOf kept := by
    rw [outputsOf, outputsOf, ho, hothers]
  refine ⟨o, kept, ⟨inner, owner, hsplit, hinner, howner⟩, hplace, ?_, htop⟩
  have hlength := congrArg List.length hsplit
  simp only [List.length_append, List.length_cons] at hlength
  omega

/-- The innermost frame prints to the first of the outputs. -/
theorem PrintsTo.outputs_eq (h : m.PrintsTo f below o kept) (hm : m.Coherent)
    (hframes : m.frames = f :: below) : m.outputs = o :: m.outputsOf kept := by
  have hlength : m.stage.outputs.length = m.frames.countP (·.owns) := hm.outputs
  rw [← h.outputs, outputsOf, Stage.outputsOf, hlength, hframes, Nat.sub_self]
  rfl

/-- What is done in the innermost frame is done to the output that it prints to. -/
theorem PrintsTo.act (h : m.PrintsTo f below o kept) (hm : m.Coherent)
    (hframes : m.frames = f :: below) {a : Act α} {x : α} (hact : m.act a = .ok (x, m')) :
    ∃ t, a ⟨m.registers, o⟩ = .ok (x, t) ∧ m'.outputs = t.output :: m.outputsOf kept := by
  have houtputs := h.outputs_eq hm hframes
  obtain ⟨t, ht, hstage⟩ := (m.act_stage a).of_ok _ hact
  have hscene : m.stage.scene = ⟨m.registers, o⟩ := by simp [stage, Stage.scene, houtputs]
  refine ⟨t, hscene ▸ ht, ?_⟩
  rw [show m'.outputs = _ from congrArg Stage.outputs hstage]
  simp [Stage.turn, stage, houtputs]

/-- A frame with nothing left to do ends. What it printed to its own output becomes a result, and
what it printed to the output of another frame stays there. -/
theorem PrintsTo.pop (h : m.PrintsTo f below o kept) (hm : m.Coherent)
    (hframes : m.frames = f :: below) (hpending : f.pending = []) (hread : f.reader.read? = none) :
    ∃ m', m.step = .ok m' ∧ m'.frames = below ∧
      if f.owns then m'.outputs = m.outputs.tail ∧ m'.results = o.output :: m.results
      else m'.outputs = m.outputs ∧ m'.results = m.results := by
  have houtputs := h.outputs_eq hm hframes
  obtain ⟨hpre, hpost⟩ := List.append_eq_nil_iff.1 hpending
  refine ⟨m.pop, by simp [step, hframes, hpre, hread, hpost]; rfl, by simp [Machine.pop, hframes],
    ?_⟩
  cases howns : f.owns with
  | true => simp [Machine.pop, top?, hframes, howns, output, houtputs]
  | false => simp [Machine.pop, top?, hframes, howns]

end Machine

namespace Engine

variable {e : Engine} {p : Pattern} {g : Generator} {m m' : Machine e.setting} {f : Frame}
  {up below : List Frame}

/-- A step of a run spares what is below a frame that is still there after it. -/
theorem Reaches.spares (hm : e.Reaches p g m) (hstep : m.step = .ok m')
    (hframes : m.frames = up ++ f :: below) (hstill : f.id ∈ m'.frames.map (·.id)) :
    m.stage.Spares f below m'.stage := by
  obtain ⟨top, rest, htop⟩ := List.exists_cons_of_ne_nil (l := m.frames) (by simp [hframes])
  have hmoves := ((hm.coherent.step_stage htop).of_ok m' hstep).moves hm.coherent htop hm.neat
  exact hmoves.spares hm.coherent htop (htop.symm.trans hframes) hstill

theorem Reaches.renews (hm : e.Reaches p g m) {k : Nat} (hlead : Machine.Leads k m m') :
    m.stage.Renews m'.stage := by
  induction hlead with
  | refl => exact .refl _
  | @step _ m m₁ _ hne hstep _ ih =>
    obtain ⟨top, rest, hframes⟩ := List.exists_cons_of_ne_nil hne
    have hrenews := ((hm.coherent.step_stage hframes).of_ok m₁ hstep).renews
    exact hrenews.trans (ih (hm.lead (.single hne hstep)))

/-- A frame that is still there was there in between, for its id is not given anew. -/
theorem Reaches.still (hm : e.Reaches p g m) {j k : Nat} {m₁ : Machine e.setting}
    (hlead : Machine.Leads j m m₁) (hrest : Machine.Leads k m₁ m') (hf : f ∈ m.frames)
    (hstill : f.id ∈ m'.frames.map (·.id)) : f.id ∈ m₁.frames.map (·.id) := by
  obtain ⟨g, hg, hid⟩ := List.mem_map.1 hstill
  rcases ((hm.lead hlead).renews hrest).frames g hg with hold | hnew
  · exact hid ▸ hold
  · have hlt : f.id < m.nextId := hm.coherent.ids_lt f hf
    have hle : m.nextId ≤ m₁.nextId := (hm.renews hlead).nextId
    have hge : m₁.nextId ≤ f.id := hid ▸ hnew
    omega

/-- As long as a frame is there, nothing below it changes. -/
theorem Reaches.isolates (hm : e.Reaches p g m) {k : Nat} (hlead : Machine.Leads k m m')
    (hframes : m.frames = up ++ f :: below) (hstill : f.id ∈ m'.frames.map (·.id)) :
    m.Isolates f below m' := by
  induction hlead generalizing f up with
  | refl => exact ⟨⟨up, f, hframes, .refl f, rfl⟩, fun _ => rfl⟩
  | @step _ m m₁ m' hne hstep hrest ih =>
    have hm₁ := hm.lead (.single hne hstep)
    have hstill₁ : f.id ∈ m₁.frames.map (·.id) :=
      hm.still (.single hne hstep) hrest (by simp [hframes]) hstill
    obtain ⟨⟨up₁, f₁, hframes₁, hf₁⟩, houtputs₁⟩ := hm.spares hstep hframes hstill₁
    obtain ⟨⟨up', f', hframes', hf', hplace'⟩, houtputs'⟩ :=
      ih hm₁ hframes₁ (hf₁.id ▸ hstill)
    have hplace₁ : Frame.outputPlace? (f₁ :: below) = Frame.outputPlace? (f :: below) := by
      simp only [Frame.outputPlace?, hf₁.owns]
    refine ⟨⟨up', f', hframes', hf₁.trans hf', hplace'.trans hplace₁⟩, fun howns => ?_⟩
    exact (houtputs' (hf₁.owns.trans howns)).trans (houtputs₁ howns)

/-- In all that a run comes to there is one output for each frame that owns one, and every frame
prints to the output of the nearest owner. The innermost one does all it does to that output, which
becomes a result when its owner ends. As long as a frame is there, it prints to the same place over
the same frames, and if it has an output of its own, nothing that is done changes an output below
it. -/
theorem frames_isolated (e : Engine) (p : Pattern) (g : Generator) :
    (∀ m, e.Reaches p g m → m.outputs.length = m.frames.countP (·.owns) ∧
      ∀ up f below, m.frames = up ++ f :: below → (∃ o kept, m.PrintsTo f below o kept) ∧
        ∀ k m', Machine.Leads k m m' → f.id ∈ m'.frames.map (·.id) → m.Isolates f below m') ∧
    ∀ m f below, e.Reaches p g m → m.frames = f :: below → ∃ o kept, m.PrintsTo f below o kept ∧
      m.outputs = o :: m.outputsOf kept ∧
      (∀ (α : Type) (a : Act α) x m', m.act a = .ok (x, m') →
        ∃ t, a ⟨m.registers, o⟩ = .ok (x, t) ∧ m'.outputs = t.output :: m.outputsOf kept) ∧
      (f.pending = [] → f.reader.read? = none → ∃ m', m.step = .ok m' ∧ m'.frames = below ∧
        if f.owns then m'.outputs = m.outputs.tail ∧ m'.results = o.output :: m.results
        else m'.outputs = m.outputs ∧ m'.results = m.results) := by
  refine ⟨fun m hm => ⟨hm.coherent.outputs, fun up f below hframes => ⟨?_, ?_⟩⟩,
    fun m f below hm hframes => ?_⟩
  · exact hm.coherent.exists_printsTo hframes
  · exact fun k m' hlead hstill => hm.isolates hlead hframes hstill
  · have hframes' : m.frames = [] ++ f :: below := hframes
    obtain ⟨o, kept, hprints⟩ := hm.coherent.exists_printsTo hframes'
    exact ⟨o, kept, hprints, hprints.outputs_eq hm.coherent hframes,
      fun _ _ _ _ hact => hprints.act hm.coherent hframes hact,
      hprints.pop hm.coherent hframes⟩

/-- The first argument has printed a line break to its own output, and the outputs of the frames
below are the same. -/
theorem frames_isolated_comparing :
    ∃ (e : Engine) (g : Generator) (m m' : Machine e.setting) (f : Frame) (below : List Frame),
      e.Reaches comparing g m ∧ m.frames = f :: below ∧ f.owns = true ∧ below.length = 2 ∧
        Machine.Leads 1 m m' ∧ m.output.main = "" ∧ m'.output.main = "\n" ∧
          m.Isolates f below m' := by
  let e : Engine := .build .standard .empty .empty
  have hafter : ((e.start comparing (.ofSeed 0)).bind (Machine.after 1)).toOption.map (fun m =>
      (m.frames.map fun f => (f.id, f.owns), m.output.main,
        m.step.toOption.map fun m' => (m'.frames.map (·.id), m'.output.main))) =
      some ([(3, true), (2, true), (1, true)], "", some ([3, 2, 1], "\n")) := by decide +kernel
  obtain ⟨m, hm, hseen⟩ := exists_reaches_of_after hafter
  obtain ⟨hframes, hseen⟩ := Prod.mk.inj hseen
  obtain ⟨hbefore, hnext⟩ := Prod.mk.inj hseen
  obtain ⟨m', hstep, hseen'⟩ := Option.map_eq_some_iff.1 hnext
  obtain ⟨hids, hprinted⟩ := Prod.mk.inj hseen'
  obtain ⟨f, below, hf, htop, hbelow⟩ := List.map_eq_cons_iff.1 hframes
  obtain ⟨hid, howns⟩ := Prod.mk.inj htop
  have hok : m.step = .ok m' := by
    cases hresult : m.step with
    | error => simp [hresult, Except.toOption] at hstep
    | ok => simpa [hresult, Except.toOption] using hstep
  have hlead : Machine.Leads 1 m m' := .single (by simp [hf]) hok
  refine ⟨e, .ofSeed 0, m, m', f, below, hm, hf, howns, ?_, hlead, hbefore, hprinted, ?_⟩
  · simpa using congrArg List.length hbelow
  · exact (((frames_isolated e comparing (.ofSeed 0)).1 m hm).2 [] f below hf).2 1 m' hlead
      (by simp [hids, hid])

end Engine

end Wordsmith
