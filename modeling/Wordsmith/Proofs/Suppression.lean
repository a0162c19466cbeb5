import Mathlib.Data.List.Nodup
import Wordsmith.Proofs.Separators
import Wordsmith.Proofs.Steadiness

/-!
# Suppression

A tag asks a question of the index of the repetition that is running, and runs its code if the
index passes a test, or unless it does. While a separator runs there is no index: no test is passed,
and 0 is printed for it.

The frames of a repetition stand on top of each other from its beginning on: the separator, if there
is one to come, below the text after, the item and the text before. As long as one of the upper ones
is there, the separator has not begun, and there is no other. So whatever is run in them meets the
repeater with its index.

The tags that run their code unless a test is passed are the exception: since none is passed while a
separator runs, they do run their code there.

Main results: `Engine.separators_suppress`, and `Engine.unless_in_separator` for such a tag.
-/

namespace Wordsmith

/-! ## What tags tell of a repetition -/

/-- What a tag asks of the repetition that is running: it runs one of its arguments if the index and
the number of the repetitions pass a test, or unless they do. -/
structure Question where
  argument : Nat
  isNegated : Bool
  test : Nat → Nat → Bool

namespace Question

/-- Whether the argument is run in a repetition with an index, or, if there is none, in a
separator. -/
def runs (q : Question) (index : Option Nat) (count : Nat) : Bool :=
  q.isNegated ^^ index.any (q.test · count)

end Question

/-- The index of the repetition that is running. There is none in a separator. -/
def Repeater.index? (r : Repeater) : Option Nat := if r.isSuppressed then none else some r.index

namespace Call

/-- The question whether an index is an offset or a number of intervals beyond it, if both are such
numbers. -/
def every? (i : Nat) (interval offset : String) : Option Question :=
  match Text.integer? interval, Text.integer? offset with
  | some interval, some offset =>
    if 0 < interval ∧ 0 ≤ offset then
      some ⟨i, false, fun index _ =>
        offset.toNat ≤ index && (index - offset.toNat) % interval.toNat == 0⟩
    else none
  | _, _ => none

/-- What a tag asks of the repetition that is running, if it asks something. -/
def question? (c : Call) : Tag → Option Question
  | .ifFirst => some ⟨0, false, fun index _ => index == 0⟩
  | .ifLast => some ⟨0, false, fun index count => index + 1 == count⟩
  | .ifMiddle => some ⟨0, false, fun index count => index != 0 && index + 1 != count⟩
  | .unlessFirst => some ⟨0, true, fun index _ => index == 0⟩
  | .unlessLast => some ⟨0, true, fun index count => index + 1 == count⟩
  | .unlessMiddle => some ⟨0, true, fun index count => index != 0 && index + 1 != count⟩
  | .ifOdd => some ⟨0, false, fun index _ => index % 2 == 0⟩
  | .ifEven => some ⟨0, false, fun index _ => index % 2 == 1⟩
  | .ifNth => every? 1 (c.text 0) "0"
  | .ifNthFrom => every? 2 (c.text 0) (c.text 1)
  | _ => none

variable {c : Call} {r : Registers} {o : ChannelStack} {x : Repeater} {others : List Repeater}

theorem run_runIf (hr : r.repeaters = x :: others) (i : Nat) (holds : Repeater → Bool) :
    (c.runIf i holds).run ⟨r, o⟩ = .ok (if holds x then c.run i else .stay, ⟨r, o⟩) := by
  have hread : (c.runIf i holds).run ⟨r, o⟩ =
      .ok (if r.repeater?.any holds then c.run i else .stay, ⟨r, o⟩) := rfl
  rw [hread, Registers.repeater?, hr]
  rfl

/-- The interval and the offset are read, and the question is asked. -/
theorem run_runIfNth (hr : r.repeaters = x :: others) {i : Nat} {interval offset : String}
    {q : Question} (hq : every? i interval offset = some q) :
    (c.runIfNth i interval offset).run ⟨r, o⟩ =
      .ok (if q.runs x.index? x.count then c.run q.argument else .stay, ⟨r, o⟩) := by
  unfold every? at hq
  split at hq
  · next k j hk hj =>
    split at hq
    · next hgood =>
      cases hq
      obtain ⟨hpos, hnonneg⟩ := hgood
      have hrun : (c.runIfNth i interval offset).run ⟨r, o⟩ =
          (c.runIf i fun x => x.isNth j.toNat k.toNat).run ⟨r, o⟩ := by
        simp only [runIfNth, integer, hk, hj, pure_bind]
        rw [if_neg (by omega), if_neg (by omega)]
      rw [hrun, run_runIf hr]
      have hholds : x.isNth j.toNat k.toNat = Question.runs ⟨i, false, fun index _ =>
          j.toNat ≤ index && (index - j.toNat) % k.toNat == 0⟩ x.index? x.count := by
        have hk : decide (0 < k.toNat) = true := by simpa using hpos
        cases hx : x.isSuppressed <;>
          simp [Repeater.isNth, Question.runs, Repeater.index?, hx, hk, -Int.lt_toNat]
      rw [hholds]
    · cases hq
  · cases hq

/-- Without a good interval and offset, nothing is asked. -/
theorem runIfNth_error {i : Nat} {interval offset : String} (hq : every? i interval offset = none) :
    ∃ e, (c.runIfNth i interval offset).run ⟨r, o⟩ = .error e := by
  unfold every? at hq
  unfold runIfNth integer
  cases hk : Text.integer? interval with
  | none => exact ⟨_, rfl⟩
  | some k =>
    cases hj : Text.integer? offset with
    | none => exact ⟨_, rfl⟩
    | some j =>
      simp only [hk, hj, ite_eq_right_iff, reduceCtorEq, imp_false] at hq
      simp only [pure_bind]
      split
      · exact ⟨_, rfl⟩
      · rw [if_pos (by omega)]
        exact ⟨_, rfl⟩

end Call

namespace Tag

variable {c : Call} {r : Registers} {o : ChannelStack} {x : Repeater} {others : List Repeater}
  {tag : Tag} {q : Question} {s : Setting} {source : String}

/-- A tag asks its question of the innermost repeater. -/
theorem perform_of_question (hq : c.question? tag = some q) (hr : r.repeaters = x :: others) :
    (tag.perform s source c).run ⟨r, o⟩ =
      .ok (if q.runs x.index? x.count then c.run q.argument else .stay, ⟨r, o⟩) := by
  have asked : ∀ {i : Nat} {holds : Repeater → Bool} {q : Question}, q.argument = i →
      holds x = q.runs x.index? x.count → (c.runIf i holds).run ⟨r, o⟩ =
        .ok (if q.runs x.index? x.count then c.run q.argument else .stay, ⟨r, o⟩) := by
    rintro i holds q rfl hholds
    rw [Call.run_runIf hr, hholds]
  cases tag with
  | ifFirst | ifLast | ifMiddle | unlessFirst | unlessLast | unlessMiddle | ifOdd | ifEven =>
    cases hq
    refine asked rfl ?_
    cases hx : x.isSuppressed <;>
      simp [Repeater.isFirst, Repeater.isLast, Repeater.isMiddle, Repeater.isOdd, Repeater.isEven,
        Question.runs, Repeater.index?, hx]
  | ifNth | ifNthFrom => exact Call.run_runIfNth hr hq
  | _ => cases hq

/-- An index is printed as it is shown. -/
theorem perform_printRepeater (hr : r.repeaters = x :: others) (f : Repeater → Nat) :
    (c.printRepeater f).run ⟨r, o⟩ =
      (Act.printInteger (f x) >>= fun _ => pure Next.stay).run ⟨r, o⟩ := by
  rw [Call.printRepeater, Act.run_read_bind, Registers.repeater?, hr]
  rfl

end Tag

theorem Repeater.visibleIndex_eq (r : Repeater) : r.visibleIndex = r.index?.getD 0 := by
  cases h : r.isSuppressed <;> simp [visibleIndex, index?, h]

namespace Machine

variable {s : Setting} {m : Machine s} {name : Token} {slots : List Slot} {r : Repeater}
  {others : List Repeater}

/-- Tags tell of a repetition with an index, or of a separator if there is none, in the next step. -/
structure Tells (m : Machine s) (index : Option Nat) (count : Nat) : Prop where
  /-- A question is answered, and the argument is run or nothing else is done. -/
  answers : ∀ tag name slots m₁ q, m.Takes (.callTag tag name slots) m₁ →
    (m₁.call name slots).question? tag = some q →
      m.step = (m₁.afterCall name slots ⟨m₁.registers, m₁.output⟩).follow
        (if q.runs index count then (m₁.call name slots).run q.argument else .stay)
  /-- A bad interval or offset is an error. -/
  fails : ∀ tag name slots m₁, tag = .ifNth ∨ tag = .ifNthFrom →
    m.Takes (.callTag tag name slots) m₁ → (m₁.call name slots).question? tag = none →
      ∃ e, m.step = .error e
  /-- The index is printed, which is 0 if there is none. -/
  printsIndex : ∀ name slots m₁, m.Takes (.callTag .repetitionIndex name slots) m₁ →
    m.step = ((m₁.takeResults (slots.countP (·.isEvaluated))).2.moveTo name.position).perform
      (Act.printInteger (index.getD 0 : Nat))
  /-- The number of the repetition is printed. -/
  printsNumber : ∀ name slots m₁, m.Takes (.callTag .repetitionNumber name slots) m₁ →
    m.step = ((m₁.takeResults (slots.countP (·.isEvaluated))).2.moveTo name.position).perform
      (Act.printInteger (index.getD 0 + 1 : Nat))

theorem take_printRepeater {tag : Tag} {n : Nat}
    (h : ∀ source c, (tag.perform s source c).run ⟨m.registers, m.output⟩ =
      (Act.printInteger n >>= fun _ => pure Next.stay).run ⟨m.registers, m.output⟩) :
    m.take (.callTag tag name slots) =
      ((m.takeResults (slots.countP (·.isEvaluated))).2.moveTo name.position).perform
        (Act.printInteger n) := by
  rw [take_callTag, h, perform, act_eq, StateT.run_bind]
  have hscene : (Act.printInteger n).run
      ⟨((m.takeResults (slots.countP (·.isEvaluated))).2.moveTo name.position).registers,
        ((m.takeResults (slots.countP (·.isEvaluated))).2.moveTo name.position).output⟩ =
      (Act.printInteger n).run ⟨m.registers, m.output⟩ := rfl
  rw [hscene]
  cases (Act.printInteger n).run ⟨m.registers, m.output⟩ <;> rfl

/-- Tags tell what the innermost repeater shows. -/
theorem tells_of_repeaters (hr : m.registers.repeaters = r :: others) :
    m.Tells r.index? r.count := by
  have hrest : ∀ {action m₁}, m.Takes action m₁ → m₁.registers.repeaters = r :: others :=
    fun h => h.registers ▸ hr
  refine ⟨fun tag name slots m₁ q h hq => ?_, fun tag name slots m₁ htag h hq => ?_,
    fun name slots m₁ h => ?_, fun name slots m₁ h => ?_⟩
  · rw [h.step, take_callTag, Tag.perform_of_question hq (hrest h)]
  · obtain ⟨e, he⟩ : ∃ e, (tag.perform s m₁.patternCode (m₁.call name slots)).run
        ⟨m₁.registers, m₁.output⟩ = .error e := by
      rcases htag with rfl | rfl <;> exact Call.runIfNth_error hq
    exact ⟨(m₁.moveTo name.position).fault e, by rw [h.step, take_callTag, he]⟩
  · rw [h.step, ← r.visibleIndex_eq]
    exact take_printRepeater fun _ _ => Tag.perform_printRepeater (hrest h) _
  · rw [h.step, ← r.visibleIndex_eq]
    exact take_printRepeater fun _ _ => Tag.perform_printRepeater (hrest h) _

end Machine

/-! ## Separators of a run -/

namespace Repeater

/-- What is begun for a separator, if there is one to come. -/
def separatorOpenings (r : Repeater) : List Opening :=
  (if r.index + 1 < r.count then r.attributes.separator else none).toList.map
    (⟨·, false, [.suppress r.id], [.restore r.id]⟩)

/-- What is begun for a repetition besides the separator: the text after, the item and the text
before. -/
def itemOpenings (r : Repeater) (item : Option Passage) : List Opening :=
  r.attributes.after.toList.map (⟨·, false, [], [.advance r.id]⟩) ++
    item.toList.map
      (⟨·, false, [], if r.attributes.after.isSome then [] else [.advance r.id]⟩) ++
    r.attributes.before.toList.map (⟨·, false, [], []⟩)

theorem openings_eq (r : Repeater) (item : Option Passage) :
    r.openings item = r.separatorOpenings ++ r.itemOpenings item := by
  simp only [openings, separatorOpenings, itemOpenings, List.append_assoc]

theorem not_isSeparator_of_mem_itemOpenings {r : Repeater} {item : Option Passage} {o : Opening}
    (ho : o ∈ r.itemOpenings item) (id mark x : Nat) :
    (o.frame id mark).isSeparator x = false := by
  simp only [itemOpenings, List.mem_append, List.mem_map] at ho
  rcases ho with (⟨p, -, rfl⟩ | ⟨p, -, rfl⟩) | ⟨p, -, rfl⟩
  · rfl
  · dsimp only [Frame.isSeparator, Opening.frame]
    split <;> rfl
  · rfl

/-- A repetition is counted once. -/
theorem countP_openings_le (r : Repeater) (item : Option Passage) :
    ((r.openings item).flatMap fun o => o.pre ++ o.post).countP (·.advances r.id) ≤ 1 := by
  have hseparator : (r.separatorOpenings.flatMap fun o => o.pre ++ o.post).countP
      (·.advances r.id) = 0 := by
    refine List.countP_eq_zero.2 fun a ha => ?_
    obtain ⟨o, ho, ha⟩ := List.mem_flatMap.1 ha
    obtain ⟨p, -, rfl⟩ := List.mem_map.1 ho
    rcases List.mem_cons.1 ha with rfl | ha
    · exact nofun
    · cases List.mem_singleton.1 ha
      exact nofun
  have hitem : ((r.itemOpenings item).flatMap fun o => o.pre ++ o.post).countP
      (·.advances r.id) ≤ 1 := by
    cases hafter : r.attributes.after <;> cases item <;> cases hbefore : r.attributes.before <;>
      simp [itemOpenings, hafter, hbefore, Deferred.advances]
  rw [openings_eq, List.flatMap_append, List.countP_append, hseparator, Nat.zero_add]
  exact hitem

end Repeater

theorem Opening.frames_append (id mark : Nat) (os ps : List Opening) :
    frames id mark (os ++ ps) = frames (id + ps.length) mark os ++ frames id mark ps := by
  induction os with
  | nil => rfl
  | cons o os ih =>
    rw [List.cons_append, frames, ih, frames, List.cons_append, List.length_append,
      Nat.add_assoc, Nat.add_comm os.length]

namespace Engine

variable {e : Engine} {p : Pattern} {g : Generator} {m m₁ : Machine e.setting} {r : Repeater}
  {base : Frame} {below : List Frame}

/-- What a repetition begins with. -/
theorem Reaches.begins (hm : e.Reaches p g m) (hframes : m.frames = base :: below)
    (hpre : base.pre = [.iterate r.id]) (hfind : m.registers.findRepeater? r.id = some r)
    (hrun : r.isFinished = false) (hstep : m.step = .ok m₁) :
    ∃ item, item.isSome ∧ m₁.stage.advances r.id ≤ 1 ∧
      m₁.registers.repeaters = m.registers.repeaters ∧
      m₁.frames =
        Opening.frames m.nextId m.results.length (r.openings item).reverse ++ base :: below := by
  let m' : Machine e.setting := (m.modifyTop fun f => { f with pre := [] }).defer (.iterate r.id)
  have hbegins : m.step = m'.beginRepetition r := by
    rw [Machine.step_take hframes hpre]
    show Machine.iterate _ r.id = _
    have hfind' : (m.modifyTop fun f => { f with pre := [] }).registers.findRepeater? r.id =
        some r := hfind
    rw [Machine.iterate, hfind']
    simp only [hrun]
    rfl
  have hframes' : m'.frames = base :: below := by
    simp [m', Machine.defer, Machine.modifyTop, hframes, ← hpre]
  rw [hbegins] at hstep
  obtain ⟨t, item, hturns, hitem, hstage⟩ := (m'.beginRepetition_stage r).of_ok m₁ hstep
  refine ⟨item, hitem ?_, ?_, ?_, ?_⟩
  · have hmem : r.place ∈ m.registers.places :=
      List.mem_map_of_mem (List.mem_of_find?_eq_some hfind)
    exact (hm.coherent.places r.place hmem).2
  · have hnone := (hm.coherent.give (x := m.stage) hframes (.pre hpre)).advances_eq_zero
    have hbelow : (m'.stage.turn t).advances r.id = 0 := by
      simp only [Stage.advances, Stage.turn, Machine.stage, hframes'] at hnone ⊢
      simpa [Frame.pending, hpre, Deferred.advances] using hnone
    rw [hstage, Stage.advances_enterAll, hbelow]
    exact r.countP_openings_le item
  · have hregisters := congrArg Stage.registers hstage
    rw [Stage.registers_enterAll] at hregisters
    exact (congrArg Registers.repeaters hregisters).trans hturns.keeps_stacks.1
  · obtain ⟨hentered, -, -⟩ := (m'.stage.turn t).enterAll_reverse (r.openings item).reverse
    rw [List.reverse_reverse, ← hstage] at hentered
    exact hentered.trans (congrArg (_ ++ ·) hframes')

/-- Separators and repetitions of a repeater that goes on are not pending in the frame that its block
is in or below. -/
theorem Reaches.not_separates (hm : e.Reaches p g m) (hframes : m.frames = base :: below)
    (hpre : base.pre = [.iterate r.id]) : ∀ f ∈ base :: below, f.separates r.id = false := by
  obtain ⟨r₀, others, hr₀, hid, hbase, -⟩ :=
    (hm.coherent.give (x := m.stage) hframes (.pre hpre)).innermost
  rw [← hid] at hpre ⊢
  have hframes' : m.stage.frames = [] ++ base :: below := hframes
  obtain ⟨-, -, hkept⟩ := hm.coherent.innermost_pending hr₀ hframes' hpre (List.forall_mem_nil _)
  intro f hf
  refine Bool.eq_false_iff.2 fun hs => (hkept f hf).1 (List.mem_append_right _ ?_)
  exact Frame.isSeparator_iff.1 (Frame.isSeparator_of_separates hs)

/-- A separator that has not begun does not begin, and no other comes, as long as a frame above it is
there. -/
theorem Reaches.quiet (hm : e.Reaches p g m) {parts rest : List Frame} {id : Nat}
    (hframes : m.frames = parts ++ rest) (hparts : ∀ f ∈ parts, f.isSeparator id = false)
    (hrest : ∀ f ∈ rest, f.separates id = false) {k : Nat} {m₂ : Machine e.setting}
    (hlead : Machine.Leads k m m₂) (hinherits : m.stage.Inherits id m₂.stage) {f : Frame}
    (hf : f ∈ parts) (hstill : f.id ∈ m₂.frames.map (·.id)) :
    ∀ f' ∈ m₂.frames, f'.separates id = false := by
  obtain ⟨up, lower, rfl⟩ := List.append_of_mem hf
  have hsplit : m.frames = up ++ f :: (lower ++ rest) := by simp [hframes]
  obtain ⟨⟨up', f₁, hframes₂, -⟩, -⟩ := hm.isolates hlead hsplit hstill
  intro f' hf'
  refine Bool.eq_false_iff.2 fun hs => ?_
  obtain ⟨f₀, hf₀, hid, hs₀⟩ := hinherits.separators f' hf' (Frame.isSeparator_of_separates hs)
  rw [show m.stage.frames = _ from hframes] at hf₀
  rcases List.mem_append.1 hf₀ with hf₀ | hf₀
  · simp [hparts f₀ hf₀] at hs₀
  · have hmem : f₀ ∈ m₂.stage.frames := by simp [Machine.stage, hframes₂, hf₀]
    obtain rfl := (hm.lead hlead).coherent.eq_of_id hmem hf' hid
    simp [hrest f₀ hf₀] at hs

/-- In all that a run comes to, the innermost repeater is suppressed exactly while a separator of it
runs. Then the tags that run code if the index passes a test do not run it, those that run it unless
the index passes one do, and the index is shown as 0. Otherwise they tell of its index. When a
repetition has begun, then as long as the text before, the item or the text after is there, the
repeater is not suppressed, whatever has been run in between, and its index is that of the repetition
until it is counted. -/
theorem separators_suppress (e : Engine) (p : Pattern) (g : Generator) :
    (∀ m, e.Reaches p g m → ∀ r others, m.registers.repeaters = r :: others →
      (r.isSuppressed = true ↔ ∃ f ∈ m.frames, f.separates r.id = true) ∧
      (r.isSuppressed = true → m.Tells none r.count) ∧
      (r.isSuppressed = false → m.Tells (some r.index) r.count)) ∧
    ∀ m m₁ r base below, e.Reaches p g m → m.frames = base :: below →
      base.pre = [.iterate r.id] → m.registers.findRepeater? r.id = some r →
      r.isFinished = false → m.step = .ok m₁ →
      ∃ item parts separators, item.isSome ∧
        parts = Opening.frames (m.nextId + r.separatorOpenings.length) m.results.length
          (r.itemOpenings item).reverse ∧
        separators = Opening.frames m.nextId m.results.length r.separatorOpenings.reverse ∧
        m₁.frames = parts ++ separators ++ base :: below ∧
        ∀ k m₂ f, Machine.Leads k m₁ m₂ → f ∈ parts → f.id ∈ m₂.frames.map (·.id) →
          ∀ r' others, m₂.registers.repeaters = r' :: others → r'.id = r.id →
            r'.isSuppressed = false ∧ m₂.Tells (some r'.index) r'.count ∧
              ((∃ f' ∈ m₂.frames, .advance r.id ∈ f'.pending) → r'.index = r.index) := by
  have tells : ∀ m, e.Reaches p g m → ∀ r others, m.registers.repeaters = r :: others →
      (r.isSuppressed = true ↔ ∃ f ∈ m.frames, f.separates r.id = true) ∧
      (r.isSuppressed = true → m.Tells none r.count) ∧
      (r.isSuppressed = false → m.Tells (some r.index) r.count) := by
    intro m hm r others hr
    have hall := Machine.tells_of_repeaters hr
    refine ⟨hm.isSuppressed_iff (hr ▸ List.mem_cons_self), fun hs => ?_, fun hs => ?_⟩
    · simpa [Repeater.index?, hs] using hall
    · simpa [Repeater.index?, hs] using hall
  refine ⟨tells, fun m m₁ r base below hm hframes hpre hfind hrun hstep => ?_⟩
  obtain ⟨item, hitem, honce, hrepeaters, hframes₁⟩ := hm.begins hframes hpre hfind hrun hstep
  rw [r.openings_eq, List.reverse_append, Opening.frames_append, List.length_reverse] at hframes₁
  refine ⟨item, _, _, hitem, rfl, rfl, hframes₁, fun k m₂ f hlead hf hstill r' others hr' hid => ?_⟩
  have hm₁ : e.Reaches p g m₁ := hm.lead (.single (by simp [hframes]) hstep)
  have hinherits : m₁.stage.Inherits r.id m₂.stage := by
    obtain ⟨up, lower, hsplit⟩ := List.append_of_mem hf
    have hframes' := hframes₁
    rw [hsplit, List.append_assoc, List.append_assoc, List.cons_append] at hframes'
    refine hm₁.inherits hlead hframes' (?_ : base ∈ _) ?_ honce hstill
    · simp
    · simp [Frame.pending, hpre]
  have hquiet : ∀ f' ∈ m₂.frames, f'.separates r.id = false := by
    rw [List.append_assoc] at hframes₁
    refine hm₁.quiet hframes₁ (fun f hf => ?_) (fun f hf => ?_) hlead hinherits hf hstill
    · obtain ⟨o, ho, i, rfl⟩ := Opening.mem_frames hf
      exact Repeater.not_isSeparator_of_mem_itemOpenings (List.mem_reverse.1 ho) i _ r.id
    · rcases List.mem_append.1 hf with hf | hf
      · obtain ⟨o, ho, i, rfl⟩ := Opening.mem_frames hf
        have hmem : o ∈ r.openings item := by
          rw [r.openings_eq]
          exact List.mem_append_left _ (List.mem_reverse.1 ho)
        exact (r.isTidy_openings item o hmem i _).2 r.id
      · exact hm.not_separates hframes hpre f hf
  obtain ⟨hiff, -, hindex⟩ := tells m₂ (hm₁.lead hlead) r' others hr'
  have hshown : r'.isSuppressed = false := by
    refine Bool.eq_false_iff.2 fun hs => ?_
    obtain ⟨f', hf', hs'⟩ := hiff.1 hs
    simp [hid, hquiet f' hf'] at hs'
  refine ⟨hshown, hindex hshown, fun hexists => ?_⟩
  obtain ⟨f', hf', hpending⟩ := hexists
  have hpos : 0 < m₂.stage.advances r.id := by
    refine List.countP_pos_iff.2 ⟨_, List.mem_flatMap.2 ⟨f', hf', hpending⟩, ?_⟩
    simp [Deferred.advances]
  obtain ⟨r₀, hr₀, hid₀, hindex₀⟩ := hinherits.index hpos r' (hr' ▸ List.mem_cons_self) hid
  have hsame : r₀ = r := by
    have hnodup : (m.registers.repeaters.map (·.id)).Nodup :=
      (Registers.Unwinds.balances hm.coherent.unwinds).nodup
    exact List.inj_on_of_nodup_map hnodup (hrepeaters ▸ hr₀) (List.mem_of_find?_eq_some hfind) hid₀
  rw [← hindex₀, hsame]

/-- A pattern with a separator. -/
def separated : Pattern where
  name := "separated"
  code := "[rep:2][sep:-]\x7ba\x7d"
  tokens := #[⟨.leftSquare, "[", ⟨1, 1, 0⟩⟩, ⟨.text, "rep", ⟨1, 2, 1⟩⟩, ⟨.colon, ":", ⟨1, 5, 4⟩⟩,
    ⟨.text, "2", ⟨1, 6, 5⟩⟩, ⟨.rightSquare, "]", ⟨1, 7, 6⟩⟩, ⟨.leftSquare, "[", ⟨1, 8, 7⟩⟩,
    ⟨.text, "sep", ⟨1, 9, 8⟩⟩, ⟨.colon, ":", ⟨1, 12, 11⟩⟩, ⟨.hyphen, "-", ⟨1, 13, 12⟩⟩,
    ⟨.rightSquare, "]", ⟨1, 14, 13⟩⟩, ⟨.leftCurly, "\x7b", ⟨1, 15, 14⟩⟩, ⟨.text, "a", ⟨1, 16, 15⟩⟩,
    ⟨.rightCurly, "\x7d", ⟨1, 17, 16⟩⟩]
  tokenize_code := by with_unfolding_all rfl

/-- Behind the first repetition its repeater is suppressed, and shows no index. -/
theorem separators_suppress_dash : ∃ (e : Engine) (g : Generator) (m : Machine e.setting)
    (r : Repeater) (others : List Repeater), e.Reaches separated g m ∧
      m.registers.repeaters = r :: others ∧ r.index = 1 ∧ r.isSuppressed = true ∧
        m.Tells none r.count := by
  let e : Engine := .build .standard .empty .empty
  have hafter : ((e.start separated (.ofSeed 42)).bind (Machine.after 8)).toOption.map
      (fun m => m.registers.repeaters.map fun r => (r.index, r.isSuppressed)) =
        some [(1, true)] := by decide +kernel
  obtain ⟨m, hm, hseen⟩ := exists_reaches_of_after hafter
  obtain ⟨r, others, hr, hfirst, -⟩ := List.map_eq_cons_iff.1 hseen
  obtain ⟨hindex, hsuppressed⟩ := Prod.mk.inj hfirst
  exact ⟨e, .ofSeed 42, m, r, others, hm, hr, hindex, hsuppressed,
    ((separators_suppress e separated (.ofSeed 42)).1 m hm r others hr).2.1 hsuppressed⟩

/-- A tag that runs its code unless this is the first repetition runs it in a separator. -/
theorem unless_in_separator :
    ((build .standard .empty .empty).runSource "separator" "[rep:2][sep:[notfirst:x]]\x7ba\x7d"
      (.ofSeed 42)).1 = .ok ⟨[("main", "axa")]⟩ :=
  runSource_eq_of_after (n := 40) (by decide +kernel)

end Engine

end Wordsmith
