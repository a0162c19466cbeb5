import Wordsmith.Proofs.Metapatterns

/-!
# Blocks that are kept

A machine keeps the blocks that it has read, by the pattern and the index of the opener, and does not
read them again. A block that is kept need not have been read by the reader that comes to it: the one
may stand in an item, an argument or the body of a subroutine, where the other stood in the code
around it. But in all that is run, the reader of a block finds the end of it, and whoever finds the
end of a block finds the same items. So a machine that keeps nothing does the same: it is the same
machine in a setting in which nothing is recalled, and every operation commutes with that change.

Main results: `Machine.step_of_recalled`, what a machine does that recalls a block, and
`Engine.recalling_blocks`.
-/

namespace Wordsmith

/-- The setting in which every block is read anew. -/
def Setting.rereading (s : Setting) : Setting :=
  { s with shortcuts := { s.shortcuts with blocks := false } }

theorem Tag.perform_rereading (tag : Tag) (s : Setting) (source : String) (c : Call) :
    tag.perform s.rereading source c = tag.perform s source c := by
  cases tag <;> rfl

namespace Machine

variable {s : Setting} {α : Type}

/-- The machine where every block is read anew, with other blocks put down. -/
def rereading (m : Machine s) (blocks : List ((Pattern × Nat) × ReadBlock)) :
    Machine s.rereading where
  frames := m.frames
  frames_le := m.frames_le
  outputs := m.outputs
  results := m.results
  registers := m.registers
  blocks := blocks
  position := m.position
  nextId := m.nextId

/-! ## Operations -/

variable (m : Machine s) (blocks : List ((Pattern × Nat) × ReadBlock))

@[simp]
theorem frames_rereading : (m.rereading blocks).frames = m.frames := rfl

@[simp]
theorem registers_rereading : (m.rereading blocks).registers = m.registers := rfl

@[simp]
theorem top?_rereading : (m.rereading blocks).top? = m.top? := rfl

@[simp]
theorem output_rereading : (m.rereading blocks).output = m.output := rfl

@[simp]
theorem nextId_rereading : (m.rereading blocks).nextId = m.nextId := rfl

@[simp]
theorem patternName_rereading : (m.rereading blocks).patternName = m.patternName := rfl

@[simp]
theorem patternCode_rereading : (m.rereading blocks).patternCode = m.patternCode := rfl

@[simp]
theorem fault_rereading (f : Fault) : (m.rereading blocks).fault f = m.fault f := rfl

@[simp]
theorem moveTo_rereading (position : Position) :
    (m.rereading blocks).moveTo position = (m.moveTo position).rereading blocks := rfl

@[simp]
theorem change_rereading (f : Registers → Registers) :
    (m.rereading blocks).change f = (m.change f).rereading blocks := rfl

@[simp]
theorem modifyTop_rereading (f : Frame → Frame) :
    (m.rereading blocks).modifyTop f = (m.modifyTop f).rereading blocks := rfl

@[simp]
theorem defer_rereading (action : Deferred) :
    (m.rereading blocks).defer action = (m.defer action).rereading blocks := rfl

@[simp]
theorem pop_rereading : (m.rereading blocks).pop = m.pop.rereading blocks := rfl

@[simp]
theorem takeResult_rereading :
    (m.rereading blocks).takeResult = (m.takeResult.1, m.takeResult.2.rereading blocks) := rfl

@[simp]
theorem takeResults_rereading (n : Nat) : (m.rereading blocks).takeResults n =
    ((m.takeResults n).1, (m.takeResults n).2.rereading blocks) := rfl

@[simp]
theorem act_rereading (a : Act α) : (m.rereading blocks).act a =
    (fun x => (x.1, x.2.rereading blocks)) <$> m.act a := by
  obtain ⟨frames, frames_le, outputs, results, registers, kept, position, nextId⟩ := m
  cases outputs with
  | nil =>
    simp only [act, rereading, patternName, top?]
    split <;> rfl
  | cons o others =>
    simp only [act, rereading, patternName, top?]
    split <;> rfl

@[simp]
theorem perform_rereading (a : Act Unit) :
    (m.rereading blocks).perform a = (·.rereading blocks) <$> m.perform a := by
  simp [perform]

@[simp]
theorem scan_rereading (r : Scan α) : (m.rereading blocks).scan r =
    (fun x => (x.1, x.2.rereading blocks)) <$> m.scan r := by
  simp only [scan, top?_rereading]
  split
  · rfl
  · split <;> rfl

@[simp]
theorem push_rereading (p : Passage) (owns : Bool) (pre post : List Deferred) :
    (m.rereading blocks).push p owns pre post =
      (·.rereading blocks) <$> m.push p owns pre post := by
  by_cases h : m.frames.length + 1 ≤ s.maxDepth
  · rw [push_eq_ok h, push_eq_ok (m := m.rereading blocks) h]
    cases owns <;> rfl
  · rw [push_eq_error (Nat.not_le.1 h),
      push_eq_error (m := m.rereading blocks) (Nat.not_le.1 h)]
    rfl

@[simp]
theorem pushAny_rereading (p : Option Passage) (pre post : List Deferred) :
    (m.rereading blocks).pushAny p pre post =
      (·.rereading blocks) <$> m.pushAny p pre post := by
  cases p <;> simp [pushAny]

@[simp]
theorem run_rereading (p : Passage) :
    (m.rereading blocks).run p = (·.rereading blocks) <$> m.run p := push_rereading ..

theorem foldlM_rereading {β : Type} {step : Machine s → β → Except RunError (Machine s)}
    {step' : Machine s.rereading → β → Except RunError (Machine s.rereading)}
    (h : ∀ m b, step' (m.rereading blocks) b = (·.rereading blocks) <$> step m b) (l : List β) :
    l.foldlM step' (m.rereading blocks) = (·.rereading blocks) <$> l.foldlM step m := by
  induction l generalizing m with
  | nil => rfl
  | cons b l ih => simp [h, ih]

@[simp]
theorem runApart_rereading (ps : List Passage) :
    (m.rereading blocks).runApart ps = (·.rereading blocks) <$> m.runApart ps :=
  foldlM_rereading m blocks (fun m p => push_rereading m blocks p true [] []) ps.reverse

@[simp]
theorem leave_rereading : (m.rereading blocks).leave = m.leave.rereading blocks := by
  simp only [leave, registers_rereading, frames_rereading]
  split
  · rfl
  · split <;> rfl

@[simp]
theorem enterBlock_rereading (b : Block) :
    (m.rereading blocks).enterBlock b = (·.rereading blocks) <$> m.enterBlock b := by
  simp only [enterBlock, registers_rereading, change_rereading, act_rereading, bind_map_left,
    map_bind]
  refine bind_congr fun x => ?_
  obtain ⟨entered, m⟩ := x
  split <;> rfl

@[simp]
theorem beginRepetition_rereading (r : Repeater) :
    (m.rereading blocks).beginRepetition r = (·.rereading blocks) <$> m.beginRepetition r := by
  simp [beginRepetition]

@[simp]
theorem iterate_rereading (id : Nat) :
    (m.rereading blocks).iterate id = (·.rereading blocks) <$> m.iterate id := by
  simp only [iterate, registers_rereading]
  split
  · rfl
  · split <;> simp

@[simp]
theorem follow_rereading (next : Next) :
    (m.rereading blocks).follow next = (·.rereading blocks) <$> m.follow next := by
  cases next <;> simp [follow]

@[simp]
theorem callTag_rereading (tag : Tag) (name : Token) (arguments : List Argument) :
    (m.rereading blocks).callTag tag name arguments =
      (·.rereading blocks) <$> m.callTag tag name arguments := by
  simp only [callTag, moveTo_rereading, patternCode_rereading, Tag.perform_rereading, act_rereading,
    bind_map_left, map_bind, follow_rereading]

@[simp]
theorem callSubroutine_rereading (called : Subroutine) (name : Token) (arguments : List Argument) :
    (m.rereading blocks).callSubroutine called name arguments =
      (·.rereading blocks) <$> m.callSubroutine called name arguments := by
  simp [callSubroutine]

@[simp]
theorem compilePrinted_rereading (name : String) :
    (m.rereading blocks).compilePrinted name =
      (fun x => (x.1, x.2.rereading blocks)) <$> m.compilePrinted name := by
  simp only [compilePrinted, takeResult_rereading, patternName_rereading]
  split <;> rfl

@[simp]
theorem define_rereading (made : Subroutine) :
    (m.rereading blocks).define made = (m.define made).rereading blocks := rfl

@[simp]
theorem evaluate_rereading (isSilent : Bool) :
    (m.rereading blocks).evaluate isSilent = (·.rereading blocks) <$> m.evaluate isSilent := by
  simp [evaluate]

@[simp]
theorem replace_rereading (regex : Regex) (code : Passage) :
    (m.rereading blocks).replace regex code = (·.rereading blocks) <$> m.replace regex code := by
  simp only [replace, takeResult_rereading]
  split
  · simp
  · rw [defer_rereading]
    exact foldlM_rereading _ blocks (fun m x => push_rereading ..) _

@[simp]
theorem finish_rereading (q : Sequel) :
    (m.rereading blocks).finish q = (·.rereading blocks) <$> m.finish q := by
  cases q with
  | merge | dropComparison => rfl
  | ifNothing size | ifAnything size =>
    simp only [finish, output_rereading]
    by_cases h : m.output.size = size <;> simp [h]

@[simp]
theorem take_rereading (action : Deferred) :
    (m.rereading blocks).take action = (·.rereading blocks) <$> m.take action := by
  cases action <;> simp [take]

@[simp]
theorem takeAfter_rereading (action : Deferred) (ps : List Passage) :
    (m.rereading blocks).takeAfter action ps = (·.rereading blocks) <$> m.takeAfter action ps := by
  cases ps <;> simp [takeAfter]

@[simp]
theorem runTag_rereading (name : Token) (arguments : List Passage) :
    (m.rereading blocks).runTag name arguments =
      (·.rereading blocks) <$> m.runTag name arguments := by
  simp only [runTag, moveTo_rereading]
  split
  · rfl
  · split
    · rfl
    · exact takeAfter_rereading ..

@[simp]
theorem runCall_rereading (name : Token) (arguments : List Passage) :
    (m.rereading blocks).runCall name arguments =
      (·.rereading blocks) <$> m.runCall name arguments := by
  simp only [runCall, moveTo_rereading, registers_rereading]
  split
  · rfl
  · split
    · exact takeAfter_rereading ..
    · rfl

@[simp]
theorem runReplacer_rereading (literal : Token) (arguments : List Passage) :
    (m.rereading blocks).runReplacer literal arguments =
      (·.rereading blocks) <$> m.runReplacer literal arguments := by
  simp only [runReplacer, moveTo_rereading]
  split
  · rfl
  · split
    · simp
    · rfl

@[simp]
theorem runBracket_rereading (opener : Token) (b : Bracket) :
    (m.rereading blocks).runBracket opener b =
      (·.rereading blocks) <$> m.runBracket opener b := by
  cases b with
  | definition isMeta => cases isMeta <;> simp [runBracket]
  | _ => simp [runBracket]

/-- Where the token opens no block, what is put down stays as it is. -/
theorem runToken_rereading {t : Token} (ht : t.kind ≠ .leftCurly) :
    (m.rereading blocks).runToken t = (·.rereading blocks) <$> m.runToken t := by
  unfold runToken
  split
  · next hcurly => exact absurd hcurly ht
  · simp
  · simp
  · simp
    rfl
  · simp
  · simp
  iterate 4 rfl
  · simp

/-! ## Blocks -/

/-- The block that is recalled in the next step, if it recalls one, with the reader that has just read
the opener. -/
def recalled? (m : Machine s) : Option (Reader × ReadBlock) :=
  match m.frames with
  | [] => none
  | f :: _ =>
    match f.pre, f.reader.read? with
    | [], some (t, r) =>
      if t.kind = .leftCurly then (m.known? (r.passage.pattern, r.index - 1)).map (r, ·) else none
    | _, _ => none

variable {m} {S : Standard}

theorem recalled?_eq_some {r : Reader} {known : ReadBlock} (h : m.recalled? = some (r, known)) :
    ∃ f below t, m.frames = f :: below ∧ f.pre = [] ∧ f.reader.read? = some (t, r) ∧
      t.kind = .leftCurly ∧ m.known? (r.passage.pattern, r.index - 1) = some known := by
  unfold recalled? at h
  split at h
  · cases h
  · next f below hframes =>
    split at h
    · next t r₁ hpre hread =>
      split at h
      · next ht =>
        obtain ⟨known', hknown, heq⟩ := Option.map_eq_some_iff.1 h
        obtain ⟨rfl, rfl⟩ := Prod.mk.inj heq
        exact ⟨f, below, t, hframes, hpre, hread, ht, hknown⟩
      · cases h
    · cases h

theorem runToken_leftCurly {t : Token} (ht : t.kind = .leftCurly) :
    m.runToken t = m.readBlock >>= fun x => x.2.enterBlock x.1 := by
  simp only [runToken, ht]

/-- The step enters the block that is recalled, and the reader jumps behind it. -/
theorem step_of_recalled {r : Reader} {known : ReadBlock} (h : m.recalled? = some (r, known)) :
    ∃ position, m.step =
      ((m.moveTo position).withReader (r.jump known.stop)).enterBlock known.block := by
  obtain ⟨f, below, t, hframes, hpre, hread, ht, hknown⟩ := recalled?_eq_some h
  refine ⟨t.position, ?_⟩
  have hne : (m.moveTo t.position).frames ≠ [] := hframes ▸ List.cons_ne_nil f below
  obtain ⟨f', htop, hreader⟩ := top?_withReader hne r
  have hknown : ((m.moveTo t.position).withReader r).known? (r.passage.pattern, r.index - 1) =
      some known := hknown
  have hread' : ((m.moveTo t.position).withReader r).readBlock =
      .ok (known.block, (m.moveTo t.position).withReader (r.jump known.stop)) := by
    simp only [readBlock, htop, hreader, hknown]
    simp [withReader, modifyTop, moveTo, hframes, Pure.pure, Except.pure]
  rw [step_read hframes hpre hread, runToken_leftCurly ht, hread']
  rfl

/-- What the innermost frame has read lies in its passage, and the frame is of the standard. -/
theorem Like.starts_read (h : m.Like S .none m) {f : Frame} {below : List Frame}
    (hframes : m.frames = f :: below) {t : Token} {r : Reader}
    (hread : f.reader.read? = some (t, r)) : r.passage.start ≤ r.index ∧ S.reader f.reader := by
  obtain ⟨f₁, _, f₂, _, hframes₁, hframes₂, hlike⟩ := h.frames.exists_head
  cases hframes.symm.trans hframes₁
  cases hframes.symm.trans hframes₂
  refine ⟨?_, hlike.standard⟩
  have hreads := hlike.reader.read?
  rw [hread] at hreads
  cases hreads with
  | some h => exact h.2.start_le

/-- A block that is recalled could be read again: the items are the same, and the reader stops where
it jumps to. -/
theorem Like.reads_recalled (h : m.Like S .none m) {r : Reader} {known : ReadBlock}
    (hrecalled : m.recalled? = some (r, known)) : ∃ items r', Block.readItems r = (.ok items, r') ∧
      known.block = .ofPassages items ∧ r.jump known.stop = r' := by
  obtain ⟨f, below, t, hframes, -, hread, ht, hknown⟩ := recalled?_eq_some hrecalled
  obtain ⟨hstart, hstandard⟩ := h.starts_read hframes hread
  have hindex := index_pos_of_read? hread
  have hgenuine : known.IsGenuine (r.passage.pattern, r.index - 1) :=
    h.blocks _ (known?_mem hknown)
  obtain ⟨r₀, ps, r₀', hstart₀, hpattern, hindex₀, hread₀, -⟩ := id hgenuine
  obtain ⟨items, r', hitems⟩ := S.recalls hstandard hread ht hstart₀ hpattern
    (hindex₀.trans (Nat.sub_add_cancel hindex)) hread₀
  exact ⟨items, r', hitems, hgenuine.matches_read hstart hindex hitems⟩

/-- Where every block is read anew, it is read. -/
theorem readBlock_rereading (hframes : m.frames ≠ []) (r : Reader) :
    ((m.withReader r).rereading blocks).readBlock = match Block.readItems r with
      | (.ok ps, r₁) => .ok (.ofPassages ps, (m.withReader r₁).rereading
          (((r.passage.pattern, r.index - 1), ⟨.ofPassages ps, r₁.index⟩) :: blocks))
      | (.error e, _) => .error (.scope e) := by
  obtain ⟨f, htop, hreader⟩ := top?_withReader hframes r
  simp only [readBlock, top?_rereading, htop, hreader]
  show (((m.withReader r).rereading blocks).scan readSized >>= _) = _
  rw [scan_rereading, scan_withReader hframes, readSized_eq]
  rcases Block.readItems r with ⟨_ | ps, r₁⟩ <;> rfl

/-- A block that is recalled comes out as if it was read. -/
theorem Like.readBlock_rereading (h : m.Like S .none m) {f : Frame} {below : List Frame}
    (hframes : m.frames = f :: below) {t : Token} {r : Reader}
    (hread : f.reader.read? = some (t, r)) (ht : t.kind = .leftCurly)
    (blocks : List ((Pattern × Nat) × ReadBlock)) : ∃ blocks',
      (((m.moveTo t.position).withReader r).rereading blocks).readBlock =
        (fun x => (x.1, x.2.rereading blocks')) <$>
          ((m.moveTo t.position).withReader r).readBlock := by
  have hne : (m.moveTo t.position).frames ≠ [] := hframes ▸ List.cons_ne_nil f below
  obtain ⟨hstart, hstandard⟩ := h.starts_read hframes hread
  have hindex := index_pos_of_read? hread
  rw [Machine.readBlock_rereading blocks hne]
  rcases hitems : Block.readItems r with ⟨e | ps, r₁⟩
  · rw [readBlock_eq_error hne h.blocks hindex hitems (S.recalls hstandard hread ht)]
    exact ⟨blocks, rfl⟩
  · obtain ⟨kept, hblock, -⟩ := readBlock_eq_ok hne h.blocks hstart hindex hitems
    rw [hblock]
    exact ⟨_, rfl⟩

/-! ## Steps -/

/-- A machine that recalls blocks and one that reads them anew take the same step. -/
theorem Like.step_rereading (h : m.Like S .none m)
    (blocks : List ((Pattern × Nat) × ReadBlock)) :
    ∃ blocks', (m.rereading blocks).step = (·.rereading blocks') <$> m.step := by
  obtain ⟨f, below, f', below', hframes, hframes', hlike⟩ := h.frames.exists_head
  cases hframes.symm.trans hframes'
  cases hpre : f.pre with
  | cons action pre =>
    refine ⟨blocks, ?_⟩
    rw [step_take hframes hpre, step_take (m := m.rereading blocks) hframes hpre,
      modifyTop_rereading, take_rereading]
  | nil =>
    cases hread : f.reader.read? with
    | none =>
      refine ⟨blocks, ?_⟩
      cases hpost : f.post with
      | nil =>
        rw [step_pop hframes hpre hread hpost,
          step_pop (m := m.rereading blocks) hframes hpre hread hpost]
        rfl
      | cons action post =>
        rw [step_end hframes hpre hread hpost,
          step_end (m := m.rereading blocks) hframes hpre hread hpost]
        exact take_rereading (m.modifyTop fun f => { f with post := post }) blocks action
    | some x =>
      obtain ⟨t, r⟩ := x
      rw [step_read hframes hpre hread, step_read (m := m.rereading blocks) hframes hpre hread]
      by_cases ht : t.kind = .leftCurly
      · obtain ⟨blocks', hblock⟩ := h.readBlock_rereading hframes hread ht blocks
        refine ⟨blocks', ?_⟩
        have hrun := fun s (m : Machine s) => runToken_leftCurly (m := m) ht
        show ((((m.moveTo t.position).withReader r).rereading blocks).runToken t) = _
        rw [hrun, hrun, hblock, bind_map_left, map_bind]
        exact bind_congr fun x => enterBlock_rereading ..
      · exact ⟨blocks, runToken_rereading ((m.moveTo t.position).withReader r) blocks ht⟩

/-- Where the one has failed, so has the other. -/
theorem Like.ends_rereading (h : m.Like S .none m) {result : Except RunError Output}
    (hend : m.Ends result) (blocks : List ((Pattern × Nat) × ReadBlock)) :
    (m.rereading blocks).Ends result := by
  rcases hend with hover | ⟨error, hframes, hstep, rfl⟩
  · exact .inl hover
  · obtain ⟨blocks', hstep'⟩ := h.step_rereading blocks
    rw [hstep] at hstep'
    exact .inr ⟨error, hframes, hstep', rfl⟩

/-- A step leads to a machine of the standard again, unless it ends the last frame. -/
theorem Like.next (h : m.Like S .none m) {m₁ : Machine s} (hstep : m.step = .ok m₁) :
    m₁.Like S .none m₁ ∨ m₁.frames = [] := by
  obtain ⟨m₂, hstep₂, hnext⟩ := (h.step (.refl _)).exists_ok hstep
  cases hstep.symm.trans hstep₂
  exact hnext.imp id (·.frames)

/-- After any number of steps they are at the same place, or have failed with the same error. -/
theorem Like.after_rereading (h : m.Like S .none m) (n : Nat)
    (blocks : List ((Pattern × Nat) × ReadBlock)) :
    ∃ blocks', (m.rereading blocks).after n = (·.rereading blocks') <$> m.after n := by
  induction n generalizing m blocks with
  | zero => exact ⟨blocks, rfl⟩
  | succ n ih =>
    obtain ⟨f, below, _, _, hframes, -⟩ := h.frames.exists_head
    obtain ⟨blocks₁, hstep₁⟩ := h.step_rereading blocks
    simp only [after, frames_rereading, hframes, hstep₁]
    cases hstep : m.step with
    | error e => exact ⟨blocks₁, rfl⟩
    | ok m₁ =>
      rcases h.next hstep with hlike | hnone
      · exact ih hlike blocks₁
      · refine ⟨blocks₁, ?_⟩
        show (m₁.rereading blocks₁).after n = (·.rereading blocks₁) <$> m₁.after n
        cases n with
        | zero => rfl
        | succ n =>
          simp only [after, frames_rereading, hnone]
          rfl

end Machine

namespace Engine

variable {e : Engine} {p : Pattern} {g : Generator}

/-- The machine that a run of a pattern starts with where every block is read anew. -/
def startRereading (e : Engine) (p : Pattern) (g : Generator) :
    Except RunError (Machine e.setting.rereading) :=
  (Machine.initial e.setting.rereading (e.registers g)).push p.passage true [] []

/-- What a run gives, and what outlives it, where every block is read anew. -/
def outcomeRereading (e : Engine) (p : Pattern) (g : Generator) : Outcome :=
  Machine.runPassage e.setting.rereading (e.registers g) (e.idle_registers g) p.passage

theorem startRereading_eq (e : Engine) (p : Pattern) (g : Generator) :
    e.startRereading p g = (·.rereading []) <$> e.start p g :=
  Machine.push_rereading (Machine.initial e.setting (e.registers g)) [] p.passage true [] []

/-- A machine that a run has come to, with no frame or of the standard. -/
theorem Reaches.whole {m : Machine e.setting} (h : e.Arises) (hreach : e.Reaches p g m) :
    m.Like .whole .none m ∨ m.frames = [] :=
  (hreach.like h.fulfils (Standard.whole.compiled trivial p)).imp id (·.frames)

theorem after_startRereading (h : e.Arises) (p : Pattern) (g : Generator) (n : Nat) :
    ∃ blocks, (e.startRereading p g).bind (Machine.after n) =
      (·.rereading blocks) <$> (e.start p g).bind (Machine.after n) := by
  rw [startRereading_eq]
  cases hstart : e.start p g with
  | error error => exact ⟨[], rfl⟩
  | ok m₀ =>
    have hlike := like_start h.fulfils (Standard.whole.compiled trivial p) hstart
    exact hlike.after_rereading n []

theorem outcomeRereading_eq (h : e.Arises) (p : Pattern) (g : Generator) :
    e.outcomeRereading p g = e.outcome p g := by
  have hstart' := startRereading_eq e p g
  cases hstart : e.start p g with
  | error error =>
    rw [hstart] at hstart'
    rw [outcome_of_start_error hstart]
    exact Machine.runPassage_of_error _ hstart'
  | ok m₀ =>
    rw [hstart] at hstart'
    obtain ⟨n, m, hlead, hdecides⟩ := exists_decides hstart
    obtain ⟨blocks, hafter⟩ := after_startRereading h p g n
    rw [hstart', hstart] at hafter
    have hafter : (m₀.rereading []).after n = .ok (m.rereading blocks) :=
      hafter.trans (congrArg ((·.rereading blocks) <$> ·) hlead.after_eq)
    obtain ⟨k, hlead'⟩ := Machine.exists_leads_of_after hafter
    have hreach : e.Reaches p g m := ⟨m₀, n, hstart, hlead⟩
    have hends : (m.rereading blocks).Ends (e.outcome p g).result := by
      rcases hreach.whole h with hlike | hnone
      · exact hlike.ends_rereading hdecides.ends blocks
      · rcases hdecides.ends with hover | ⟨_, hframes, -⟩
        · exact .inl hover
        · exact absurd hnone hframes
    refine (Machine.runPassage_of_ends _ hstart' hlead' hends).trans ?_
    rw [Machine.registers_rereading, ← hdecides.flags, ← hdecides.subroutines]

/-- A block that is recalled is the one that would be read afresh: reading it would succeed, with the
same items, and stop at the index to which the reader jumps. So where every block is read anew, a run
is at the same place after any number of steps, or has failed with the same error, and it comes to
the same in the end. -/
theorem recalling_blocks (h : e.Arises) (p : Pattern) (g : Generator) :
    (∀ (m : Machine e.setting) (r : Reader) (known : ReadBlock), e.Reaches p g m →
      m.recalled? = some (r, known) → ∃ items r', Block.readItems r = (.ok items, r') ∧
        known.block = .ofPassages items ∧ r.jump known.stop = r') ∧
    (∀ n, ∃ blocks, (e.startRereading p g).bind (Machine.after n) =
      (·.rereading blocks) <$> (e.start p g).bind (Machine.after n)) ∧
    e.outcomeRereading p g = e.outcome p g := by
  refine ⟨fun m r known hreach hrecalled => ?_, after_startRereading h p g,
    outcomeRereading_eq h p g⟩
  rcases hreach.whole h with hlike | hnone
  · exact hlike.reads_recalled hrecalled
  · obtain ⟨f, below, _, hframes, -⟩ := Machine.recalled?_eq_some hrecalled
    cases hnone.symm.trans hframes

/-- A pattern in which an item that is run twice begins with a block. -/
def nested : Pattern where
  name := "nested"
  code := "[rep:2]\x7b\x7ba|b\x7d\x7d"
  tokens := #[⟨.leftSquare, "[", ⟨1, 1, 0⟩⟩, ⟨.text, "rep", ⟨1, 2, 1⟩⟩, ⟨.colon, ":", ⟨1, 5, 4⟩⟩,
    ⟨.text, "2", ⟨1, 6, 5⟩⟩, ⟨.rightSquare, "]", ⟨1, 7, 6⟩⟩, ⟨.leftCurly, "\x7b", ⟨1, 8, 7⟩⟩,
    ⟨.leftCurly, "\x7b", ⟨1, 9, 8⟩⟩, ⟨.text, "a", ⟨1, 10, 9⟩⟩, ⟨.pipe, "|", ⟨1, 11, 10⟩⟩,
    ⟨.text, "b", ⟨1, 12, 11⟩⟩, ⟨.rightCurly, "\x7d", ⟨1, 13, 12⟩⟩,
    ⟨.rightCurly, "\x7d", ⟨1, 14, 13⟩⟩]
  tokenize_code := by with_unfolding_all rfl

/-- The inner block is recalled in the second repetition, and could be read again. -/
theorem recalling_blocks_nested : ∃ (e : Engine) (g : Generator) (m : Machine e.setting)
    (r : Reader) (known : ReadBlock), e.Arises ∧ e.Reaches nested g m ∧
      m.recalled? = some (r, known) ∧ known.stop = 11 ∧ ∃ items r',
        Block.readItems r = (.ok items, r') ∧ known.block = .ofPassages items ∧
          r.jump known.stop = r' := by
  let e : Engine := .build .standard .empty .empty
  have he : e.Arises := .build .standard .empty .empty
  have hafter : ((e.start nested (.ofSeed 42)).bind (Machine.after 12)).toOption.map
      (fun m => m.recalled?.map (·.2.stop)) = some (some 11) := by decide +kernel
  obtain ⟨m, hm, hseen⟩ := exists_reaches_of_after hafter
  obtain ⟨⟨r, known⟩, hrecalled, hstop⟩ := Option.map_eq_some_iff.1 hseen
  exact ⟨e, .ofSeed 42, m, r, known, he, hm, hrecalled, hstop,
    (recalling_blocks he nested (.ofSeed 42)).1 m r known hm hrecalled⟩

end Engine

end Wordsmith
