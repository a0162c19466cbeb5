import Wordsmith.Proofs.Blocks.Repetition

/-!
# What blocks of plain texts print

The tags in front of a block leave its attributes in the registers, and a new order, if there is one.
The block takes them, and its repetitions run. So it is known what the run prints, and how often it
has drawn: once for each repetition, or never where an order deals the items.

Main result: `PlainBlock.run_eq_output`.
-/

namespace Wordsmith

open Machine Text

/-- The attributes that wait for a block change. -/
def Registers.shape (q : Registers) (f : Attributes → Attributes) : Registers :=
  { q with attributes := f q.attributes }

namespace Machine

variable {s : Setting} {m : Machine s} {c : Surroundings} {text : String} {rest : List Token}
  {b : PlainBlock} {seed : UInt64} {lines : List (List Token)}

/-! ## Tags -/

theorem changes_repetitions {n : Nat} (hn : n < halfWordSize) :
    Changes s .repetitions ⟨"rep", [.text (trimmed (toString n))]⟩
      (·.shape fun a => { a with repetitions := .count n }) := by
  intro source scene
  let c : Call := ⟨"rep", [.text (trimmed (toString n))]⟩
  have htext : c.text 0 = toString n := by
    show trimmed (trimmed (toString n)) = _
    rw [trimmed_toString, trimmed_toString]
  have hinteger : c.integer (toString n) = pure (n : Int) := by
    rw [Call.integer, integer?_toString hn]
  have hsign : ¬ (n : Int) < 0 := Int.not_lt.2 (Int.natCast_nonneg n)
  show c.repetitions.run scene = _
  simp only [Call.repetitions, htext, asciiLower_toString, toString_ne_each, if_false, hinteger,
    pure_bind, hsign]
  rfl

theorem changes_createBoundOrder (name : String) (kind : OrderKind) :
    Changes s .createBoundOrder ⟨"x", [.text (trimmed name), .text (trimmed kind.name)]⟩ fun q =>
      { q with orders := q.orders.create (trimmed name) kind q.generator.seed }.shape fun a =>
        { a with order := some (trimmed name) } := by
  intro source scene
  let c : Call := ⟨"x", [.text (trimmed name), .text (trimmed kind.name)]⟩
  have hname : c.text 0 = trimmed name := trimmed_trimmed name
  have hchoice : c.choice 1 OrderKind.ofText = pure kind := by
    have hlower : (trimmed (trimmed (trimmed kind.name))).map Char.toLower = kind.name := by
      refine String.toList_inj.1 ?_
      rw [trimmed_trimmed, trimmed_trimmed, String.toList_map]
      cases kind <;> decide
    have hkind : OrderKind.ofText (c.text 1) = .ok kind := by
      show OrderKind.ofText (trimmed (trimmed kind.name)) = _
      rw [OrderKind.ofText, hlower]
      cases kind <;> rfl
    rw [Call.choice, hkind]
  show ((do c.createOrder; Call.bindOrder (c.text 0); return Next.stay : Act Next)).run scene = _
  rw [Call.createOrder, hchoice, hname]
  rfl

/-- If an order deals the items, it is created. -/
theorem At.leads_order (h : m.At c text (lines.flatten ++ rest)) (hpre : c.frame.pre = [])
    (hlines : List.Forall₂ (fun tag line => WritesTag tag.1 tag.2 line)
      (b.order.map fun x => ("x", [x.1, x.2.name])).toList lines)
    (hplain : ∀ x ∈ b.order, IsPlainText x.1) (hroom : c.below.length + 5 ≤ s.maxDepth)
    (hattributes : c.registers.attributes = .plain) (horders : c.registers.orders = .empty)
    (hgenerator : c.registers.generator = .ofSeed seed) : ∃ n m' q', Leads n m m' ∧
      m'.At { c with registers := q' } text rest ∧
        q'.attributes = { Attributes.plain with order := b.order.map fun x => trimmed x.1 } ∧
          b.Stands seed 0 q' ∧ q'.repeaters = c.registers.repeaters := by
  unfold PlainBlock.Stands
  cases horder : b.order with
  | none =>
    rw [horder] at hlines
    cases hlines
    exact ⟨0, m, c.registers, .refl m, h, hattributes, hgenerator, rfl⟩
  | some x =>
    obtain ⟨name, kind⟩ := x
    rw [horder] at hlines
    obtain ⟨line, _, hline, hnone, rfl⟩ := List.forall₂_cons_left_iff.1 hlines
    cases hnone
    have hplain : ∀ a ∈ [name, kind.name], IsPlainText a :=
      List.forall_mem_cons.2 ⟨hplain _ horder, List.forall_mem_singleton.2 (by cases kind <;> decide)⟩
    rw [List.flatten_singleton] at h
    have hcalled : (TagEntry.find? "x").bind (·.signature? 2) =
        some ⟨.createBoundOrder, [.text, .text], false⟩ := by decide +kernel
    obtain ⟨n, m', hlead, hm'⟩ := h.leads_tag hpre hline hplain hcalled
      (fun i => by rcases i with _ | _ | i <;> rfl) (by simp; omega) (fun _ _ => rfl)
      (changes_createBoundOrder name kind)
    refine ⟨n, m', _, hlead, hm', ?_, ⟨hgenerator, ?_⟩, rfl⟩
    · simp only [Registers.shape, hattributes, Option.map_some]
    · simp only [Registers.shape, horders, hgenerator]
      exact Named.get?_insert_self ..

/-- The other attributes are set. -/
theorem At.leads_attributes {q : Registers}
    (h : m.At { c with registers := q } text (lines.flatten ++ rest)) (hpre : c.frame.pre = [])
    (hlines : List.Forall₂ (fun tag line => WritesTag tag.1 tag.2 line)
      [("rep", [toString b.count]), ("sep", [b.separator]), ("before", [b.before]),
        ("after", [b.after])] lines)
    (hb : b.IsSound) (hcount : b.count < halfWordSize) (hroom : c.below.length + 5 ≤ s.maxDepth)
    (hattributes : q.attributes =
      { Attributes.plain with order := b.order.map fun x => trimmed x.1 }) :
    ∃ n m' a, Leads n m m' ∧ b.Shapes a ∧ m'.At { c with registers := { q with attributes := a } }
      text rest := by
  obtain ⟨repetitions, others, hrepetitions, hothers, rfl⟩ := List.forall₂_cons_left_iff.1 hlines
  obtain ⟨separator, others', hseparator, hothers', rfl⟩ := List.forall₂_cons_left_iff.1 hothers
  obtain ⟨before, others'', hbefore, hothers'', rfl⟩ := List.forall₂_cons_left_iff.1 hothers'
  obtain ⟨after, _, hafter, hnone, rfl⟩ := List.forall₂_cons_left_iff.1 hothers''
  cases hnone
  simp only [List.flatten_cons, List.flatten_nil, List.append_nil, List.append_assoc] at h
  have hcalled : (TagEntry.find? "rep").bind (·.signature? 1) =
      some ⟨.repetitions, [.text], false⟩ := by decide +kernel
  have hcode : ∀ x ∈ [("sep", Tag.separator), ("before", .before), ("after", .after)],
      (TagEntry.find? x.1).bind (·.signature? 1) = some ⟨x.2, [.code], false⟩ := by decide +kernel
  obtain ⟨n, m₁, hlead, hm₁⟩ := h.leads_tag hpre hrepetitions
    (List.forall_mem_singleton.2 (isPlainText_toString b.count)) hcalled
    (fun i => by rcases i with _ | i <;> rfl) (by simp; omega) (fun _ _ => rfl)
    (changes_repetitions hcount)
  obtain ⟨p, m₂, hp, hstep₂, hm₂⟩ := hm₁.step_codeTag hpre hseparator hb.separator
    (hcode ("sep", .separator) (by simp)) rfl
    (f := fun p q => q.shape fun a => { a with separator := some p }) (fun _ _ _ => rfl)
    fun _ _ _ => rfl
  obtain ⟨p', m₃, hp', hstep₃, hm₃⟩ := hm₂.step_codeTag hpre hbefore hb.before
    (hcode ("before", .before) (by simp)) rfl
    (f := fun p q => q.shape fun a => { a with before := some p }) (fun _ _ _ => rfl)
    fun _ _ _ => rfl
  obtain ⟨p'', m₄, hp'', hstep₄, hm₄⟩ := hm₃.step_codeTag hpre hafter hb.after
    (hcode ("after", .after) (by simp)) rfl
    (f := fun p q => q.shape fun a => { a with after := some p }) (fun _ _ _ => rfl)
    fun _ _ _ => rfl
  exact ⟨_, m₄, ⟨.count b.count, some p, some p', some p'', q.attributes.order, q.attributes.chance,
    q.attributes.persistence⟩, hlead.trans (.step hm₁.frames_ne_nil hstep₂ (.step hm₂.frames_ne_nil
      hstep₃ (.single hm₃.frames_ne_nil hstep₄))), ⟨rfl, ⟨p, rfl, hp⟩, ⟨p', rfl, hp'⟩,
        ⟨p'', rfl, hp''⟩, congrArg (·.order) hattributes, congrArg (·.chance) hattributes,
          congrArg (·.persistence) hattributes⟩, hm₄⟩

/-! ## The block -/

theorem run_isEntered {B : Block} {a : Attributes} (hsize : B.size ≠ 0)
    (hweight : ¬ B.totalWeight ≤ 0) (hchance : a.chance = 100) (scene : Scene) :
    (isEntered B a).run scene = .ok (true, scene) := by
  have hnot : ¬ (B.size = 0 ∨ B.totalWeight ≤ 0) := by simp [hsize, hweight]
  rw [isEntered, if_neg hnot, hchance, if_neg (Nat.lt_irrefl 100)]
  rfl

/-- A block of items that weigh 1 is entered for certain, with the attributes that wait for it. -/
theorem At.enters {tokens : List Token} (h : m.At c text tokens) {B : Block} (hsize : B.size ≠ 0)
    (hones : ∀ w ∈ B.weights, w = 1) (hchance : c.registers.attributes.chance = 100)
    (hpersistence : c.registers.attributes.persistence = .off) : ∃ m' r, m.enterBlock B = .ok m' ∧
      (∃ id base, r = Repeater.start id base B c.registers.attributes) ∧
        m'.At ({ c with registers := { c.registers with
          attributes := .plain, repeaters := r :: c.registers.repeaters } }.defer (.iterate r.id)) text
            tokens := by
  obtain ⟨o, ho, houtputs⟩ := h.outputs
  obtain ⟨budget, -, hregisters⟩ := h.registers
  have hattributes : m.registers.attributes = c.registers.attributes := by rw [hregisters]
  have hweight := Block.totalWeight_pos hones hsize
  have hact := act_of_run (m := m.change fun q => { q with attributes := .plain })
    (run_isEntered hsize hweight hchance _)
  let r := Repeater.start m.nextId ((m.top?.map (·.id)).getD 0) B c.registers.attributes
  -- The machine keeps its output, but for the way it is put together.
  let m₁ : Machine s := { m with outputs := m.output :: m.outputs.tail, nextId := m.nextId + 1 }
  have hm₁ : m₁.At c text tokens := by
    refine ⟨h.frames, ⟨o, ho, ?_⟩, h.results, h.registers, h.blocks⟩
    show m.output :: m.outputs.tail = _
    rw [output, houtputs, List.headD_cons, List.tail_cons]
  let f : Registers → Registers := fun q =>
    { q with attributes := .plain, repeaters := r :: q.repeaters }
  refine ⟨(m₁.change f).defer (.iterate m.nextId), r, ?_, ⟨_, _, rfl⟩,
    (hm₁.change fun _ _ => rfl).defer (.iterate r.id)⟩
  simp only [Machine.enterBlock, hattributes, Attributes.afterTake, hpersistence, hact, bind,
    Except.bind, if_true]
  rfl

/-- What stands in braces is read as the items of a block, and the block is next. -/
theorem At.step_braces {opener : Token} {k : List Token} (h : m.At c text (opener :: (k ++ rest)))
    (hpre : c.frame.pre = []) (hopener : opener.kind = .leftCurly) {P : List Passage → Prop}
    (hreads : Scan.Reads Block.readItems k rest P) : ∃ (m₁ : Machine s) (ps : List Passage),
      m₁.At c text rest ∧ P ps ∧ m.step = m₁.enterBlock (.ofPassages ps) := by
  obtain ⟨reader, hstart, hrest, hframes⟩ := h.frames
  obtain ⟨hread, hnext⟩ := Reader.read?_of_rest hstart hrest
  obtain ⟨ps, reader', hitems, hps, -, hstart', hrest'⟩ :=
    hreads.exists_reader (Nat.le_succ_of_le hstart) hnext
  have hm := h.moveTo opener.position
  obtain ⟨blocks, hblock, hgenuine⟩ := readBlock_eq_ok hm.frames_ne_nil hm.blocks
    (Nat.le_succ_of_le hstart) (Nat.succ_pos _) hitems
  have hm' := hm.withReader hstart' hrest'
  refine ⟨{ (m.moveTo opener.position).withReader reader' with blocks := blocks }, ps,
    ⟨hm'.frames, hm'.outputs, hm'.results, hm'.registers, hgenuine⟩, hps, ?_⟩
  rw [Machine.step_read hframes hpre hread]
  simp only [runToken, hopener, hblock]
  rfl

/-- A block that some attributes wait for is read and entered. -/
theorem At.step_block {k : List Token} (h : m.At c text (k ++ rest)) (hpre : c.frame.pre = [])
    (hk : WritesBlock b.items k) (hb : b.IsSound) (ha : b.Shapes c.registers.attributes)
    (hrepeaters : c.registers.repeaters = []) (hstands : b.Stands seed 0 c.registers) :
    ∃ m' r q, m.step = .ok m' ∧ b.Turns seed 0 r q ∧
      m'.At ({ c with registers := q }.defer (.iterate r.id)) text rest := by
  cases hk with
  | @mk opener closer ks k hopener hks hall hcloser =>
    obtain ⟨m₁, ps, hm₁, hps, hstep⟩ :=
      h.step_braces hpre hopener (Block.reads_readItems hks hall hb.items hcloser)
    have hB : b.Fills (.ofPassages ps) := .ofPassages hps
    have hsize : (Block.ofPassages ps).size ≠ 0 := by
      rw [hB.size_eq]
      exact mt List.length_eq_zero_iff.1 hb.ne
    obtain ⟨m', r, henter, ⟨id, base, hr⟩, hm'⟩ :=
      hm₁.enters hsize hB.weights ha.chance ha.persistence
    let q : Registers :=
      { c.registers with attributes := .plain, repeaters := r :: c.registers.repeaters }
    refine ⟨m', r, q, hstep.trans henter,
      ⟨congrArg (r :: ·) hrepeaters, ?_, ?_, ?_, ?_, hstands⟩, hm'⟩
    · rw [hr]
      rfl
    · simp only [hr, Repeater.start, ha.repetitions]
    · rw [hr]
      exact ha
    · rw [hr]
      exact hB

end Machine

namespace PlainBlock

variable {b : PlainBlock}

/-- How often the generator draws for the block. -/
def draws (b : PlainBlock) : Nat := if b.order.isNone then b.count else 0

theorem Stands.generator_eq {seed : UInt64} {q : Registers} (h : b.Stands seed b.count q) :
    q.generator = ⟨⟨seed, .ofNat b.draws⟩, []⟩ := by
  unfold Stands at h
  unfold draws
  cases horder : b.order with
  | none =>
    rw [horder] at h
    exact h
  | some x =>
    rw [horder] at h
    exact h.1

/-- A block of plain texts prints all of its repetitions, and draws once for each of them unless an
order deals the items. -/
theorem run_eq_output (hb : b.IsSound) (hcount : b.count < halfWordSize) (e : Engine)
    (hlimit : e.config.charLimit = none) (hdepth : 5 ≤ e.config.maxDepth) (name : String)
    (seed : UInt64) : ∃ p m, Pattern.compile name b.source = .ok p ∧
      e.Reaches p (.ofSeed seed) m ∧ m.frames = [] ∧
        m.registers.generator = ⟨⟨seed, .ofNat b.draws⟩, []⟩ ∧
          (e.run p (.ofSeed seed)).1 = .ok ⟨[(ChannelStack.mainName, b.output seed)]⟩ := by
  obtain ⟨tokens, htokens, hwrites⟩ := hb.tokenize_source
  obtain ⟨p, hp, hcode⟩ := Pattern.exists_compile htokens name
  obtain ⟨m₀, hreach, hm₀⟩ :=
    Engine.exists_reaches_at (by omega : 1 ≤ e.config.maxDepth) hlimit p (.ofSeed seed)
  rw [hcode] at hm₀
  cases hwrites with
  | @mk lines last hlines hlast =>
    have hfirst := (List.forall₂_take_append _ _ _ hlines.flip).flip
    have hsecond := (List.forall₂_drop_append _ _ _ hlines.flip).flip
    rw [← List.take_append_drop (b.order.map fun x => ("x", [x.1, x.2.name])).toList.length lines,
      List.flatten_append, List.append_assoc] at hm₀
    obtain ⟨n₁, m₁, q₁, hlead₁, hm₁, hattributes, hstands, hrepeaters⟩ :=
      hm₀.leads_order rfl hfirst hb.order hdepth rfl rfl rfl
    obtain ⟨n₂, m₂, a, hlead₂, ha, hm₂⟩ :=
      hm₁.leads_attributes rfl hsecond hb hcount hdepth hattributes
    rw [← List.append_nil last] at hm₂
    obtain ⟨m₃, r, q₃, hstep, hturns, hm₃⟩ := hm₂.step_block rfl hlast hb ha hrepeaters hstands
    obtain ⟨n₄, m₄, q₄, hlead₄, hstands₄, hm₄⟩ :=
      At.leads_repetitions (s := e.setting) (c := Engine.around p q₃) hturns hb.ne (Nat.zero_le _)
        hdepth hm₃
    have hreach₄ := hreach.lead (hlead₁.trans (hlead₂.trans
      (.step hm₂.frames_ne_nil hstep hlead₄)))
    rw [String.empty_append, Nat.sub_zero, ← List.range_eq_range'] at hm₄
    obtain ⟨m₅, hreach₅, hframes, hgenerator⟩ := Engine.exists_reaches_end hreach₄ hm₄
    exact ⟨p, m₅, hp, hreach₅, hframes, hgenerator.trans hstands₄.generator_eq,
      Engine.run_of_reaches_at hreach₄ hm₄⟩

/-- A block that draws its items. -/
def ticking : PlainBlock := ⟨none, 3, ", ", "a ", "z", ["tick", "tock"]⟩

theorem isSound_ticking : ticking.IsSound where
  order := by simp [ticking]
  separator := by decide
  before := by decide
  after := by decide
  items := by decide
  ne := by decide

theorem run_eq_output_ticking :
    ∃ (p : Pattern) (m : Machine (Engine.build .standard .empty .empty).setting), Pattern.compile
      "ticking" "[rep:3][sep:, ][before:a ][after:z]\x7btick|tock\x7d" = .ok p ∧
      (Engine.build .standard .empty .empty).Reaches p (.ofSeed 42) m ∧ m.frames = [] ∧
        m.registers.generator = ⟨⟨42, 3⟩, []⟩ ∧
          ((Engine.build .standard .empty .empty).run p (.ofSeed 42)).1 =
            .ok ⟨[("main", "atockz,atickz,atockz")]⟩ := by
  have hsource : ticking.source = "[rep:3][sep:, ][before:a ][after:z]\x7btick|tock\x7d" := by
    decide +kernel
  have houtput : ticking.output 42 = "atockz,atickz,atockz" := by decide +kernel
  have h := run_eq_output isSound_ticking (by decide) (.build .standard .empty .empty) rfl (by decide)
    "ticking" 42
  rw [hsource, houtput] at h
  exact h

/-- A block with more repetitions than its tag takes. -/
def endless : PlainBlock := ⟨none, halfWordSize, "", "", "", ["", ""]⟩

/-- The tag takes integers of 64 bits with a sign, so a block with more repetitions does not run. -/
theorem run_endless : endless.IsSound ∧ ∃ (e : Engine) (p : Pattern), e.config.charLimit = none ∧
    5 ≤ e.config.maxDepth ∧ Pattern.compile "endless" endless.source = .ok p ∧
      (e.run p (.ofSeed 42)).1 ≠ .ok ⟨[(ChannelStack.mainName, endless.output 42)]⟩ := by
  refine ⟨⟨by simp [endless], by decide, by decide, by decide, by decide, by decide⟩,
    .build .standard .empty .empty, ?_⟩
  have hfails : ((Pattern.compile "endless" endless.source).toOption.bind fun p =>
      (((Engine.build .standard .empty .empty).start p (.ofSeed 42)).bind
        (Machine.after 0)).toOption.map fun m => (m.frames.isEmpty, m.step.toOption.isSome)) =
      some (false, false) := by decide +kernel
  obtain ⟨p, hp, hafter⟩ := Option.bind_eq_some_iff.1 hfails
  obtain ⟨error, herror⟩ := Engine.exists_run_eq_error_of_after hafter
  refine ⟨p, rfl, by decide, ?_, by rw [herror]; simp⟩
  cases hcompile : Pattern.compile "endless" endless.source with
  | error => simp [hcompile, Except.toOption] at hp
  | ok => simpa [hcompile, Except.toOption] using hp

end PlainBlock

end Wordsmith
