import Wordsmith.Proofs.Blocks.Jobs
import Wordsmith.Proofs.Blocks.Weights
import Wordsmith.Proofs.Likeness.Steps

/-!
# Repetitions of a block

A block whose items are plain texts weighs all of them 1, so it is entered, and from then on its
repeater says which repetition is next. A repetition queues the text before, the item, the text after
and, unless it is the last one, the separator. The text after ends the repetition, so the repeater
has advanced when the separator runs, and the separator leaves it as it is. Which item it is depends
on how often one was chosen: on the generation of the generator, or on what the order has dealt.

Main results: `Machine.At.leads_repetition`, and from it `Machine.At.leads_repetitions`.
-/

namespace Wordsmith

open Machine Text

/-! ## Items -/

/-- An item that does not begin with a parenthesis has no weight of its own. -/
theorem BlockItem.ofPassage_of_head {p : Passage}
    (h : ∀ t ∈ p.tokens.head?, t.kind ≠ .leftParen) : ofPassage p = ⟨1, p⟩ := by
  unfold ofPassage
  split
  · next opener number closer rest htokens =>
    rw [htokens] at h
    rw [if_neg fun hall => h opener rfl hall.1]
  · rfl

theorem BlockItem.ofPassage_of_plain {p : Passage} (h : ∀ t ∈ p.tokens, t.IsPlain) :
    ofPassage p = ⟨1, p⟩ := by
  refine ofPassage_of_head fun t ht hkind => ?_
  have hmem := (h t (List.mem_of_mem_head? ht)).kind
  rw [hkind] at hmem
  simp at hmem

theorem Block.reads_readItems {items : List String} {ks : List (List Token)} {k l : List Token}
    {closer : Token} (hks : Separated .pipe ks k)
    (hall : List.Forall₂ (fun item k => Wordsmith.Writes [.ofText item] k) items ks)
    (hplain : ∀ item ∈ items, IsPlainText item) (hcloser : closer.kind = .rightCurly) :
    Scan.Reads readItems (k ++ [closer]) l
      (List.Forall₂ Passage.Writes · (items.map Phrase.ofText)) := by
  have hmark : TokenKind.ofSymbol? '|' = some .pipe := rfl
  refine Writes.reads_arguments Block.isBracket_scope rfl hmark rfl hks
    (List.forall₂_map_left_iff.2 hall) (fun a ha => ?_) hcloser
  obtain ⟨item, hitem, rfl⟩ := List.mem_map.1 ha
  exact (hplain item hitem).notMem rfl

theorem Act.run_order {α : Type} {f : SharedOrders → α × SharedOrders} {scene : Scene} {x : α}
    {orders : SharedOrders} (h : f scene.registers.orders = (x, orders)) :
    (Act.order f).run scene =
      .ok (x, { scene with registers := { scene.registers with orders := orders } }) := by
  have hrun : (Act.order f).run scene = .ok ((f scene.registers.orders).1, { scene with
      registers := { scene.registers with orders := (f scene.registers.orders).2 } }) := rfl
  rw [hrun, h]

/-- Among items that weigh 1, one is drawn by its place. -/
theorem run_drawItem {B : Block} (hones : ∀ w ∈ B.weights, w = 1) (q : Registers)
    (o : ChannelStack) : (drawItem B).run ⟨q, o⟩ = .ok ((q.generator.lessThan B.size).1,
      ⟨{ q with generator := (q.generator.lessThan B.size).2 }, o⟩) := by
  have huniform : B.isUniform = true := by
    rw [Block.isUniform, List.all_eq_true]
    intro w hw
    rw [hones w hw]
    rfl
  rw [drawItem, if_pos huniform]
  rfl

namespace PlainBlock

variable {b : PlainBlock} {seed : UInt64} {i : Nat} {B : Block} {q : Registers} {r : Repeater}

/-- The items of a block that was read write the texts. -/
structure Fills (b : PlainBlock) (B : Block) : Prop where
  items : List.Forall₂ (fun (item : BlockItem) text => item.code.Writes (.ofText text))
    B.items.toList b.items
  weights : ∀ w ∈ B.weights, w = 1

/-- The attributes are those of the block. -/
structure Shapes (b : PlainBlock) (a : Attributes) : Prop where
  repetitions : a.repetitions = .count b.count
  separator : ∃ p : Passage, a.separator = some p ∧ p.Writes (.ofText b.separator)
  before : ∃ p : Passage, a.before = some p ∧ p.Writes (.ofText b.before)
  after : ∃ p : Passage, a.after = some p ∧ p.Writes (.ofText b.after)
  order : a.order = b.order.map fun x => trimmed x.1
  chance : a.chance = 100
  persistence : a.persistence = .off

namespace Fills

theorem ofPassages {ps : List Passage}
    (h : List.Forall₂ Passage.Writes ps (b.items.map Phrase.ofText)) : b.Fills (.ofPassages ps) := by
  have hitems : List.Forall₂ (fun (item : BlockItem) text =>
      item.weight = 1 ∧ item.code.Writes (.ofText text)) (ps.map BlockItem.ofPassage) b.items := by
    rw [List.forall₂_map_left_iff]
    refine (List.forall₂_map_right_iff.1 h).imp fun p text hp => ?_
    rw [BlockItem.ofPassage_of_plain hp.forall_isPlain]
    exact ⟨rfl, hp⟩
  refine ⟨hitems.imp fun _ _ => And.right, fun w hw => ?_⟩
  obtain ⟨item, hitem, rfl⟩ := List.mem_map.1 hw
  obtain ⟨n, hn, rfl⟩ := List.getElem_of_mem hitem
  exact (List.forall₂_iff_get.1 hitems).2 n hn (hitems.length_eq ▸ hn) |>.1

theorem size_eq (h : b.Fills B) : B.size = b.items.length := h.items.length_eq

/-- The item at a place writes the text at this place. -/
theorem exists_item (h : b.Fills B) (hi : i < b.items.length) :
    ∃ p : Passage, B.items[i]?.map (·.code) = some p ∧ p.Writes (.ofText (b.items.getD i "")) := by
  have hsize : i < B.items.toList.length := by rw [h.items.length_eq]; exact hi
  refine ⟨B.items[i].code, ?_, ?_⟩
  · rw [Array.getElem?_eq_getElem hsize, Option.map_some]
  · rw [List.getD_eq_getElem?_getD, List.getElem?_eq_getElem hi, Option.getD_some]
    exact (List.forall₂_iff_get.1 h.items).2 i hsize hi

end Fills

/-! ## Choosing items -/

/-- Where the draws of the block stand after it has chosen a number of items: the order has dealt as
often, or the generator has drawn as often. -/
def Stands (b : PlainBlock) (seed : UInt64) (i : Nat) (q : Registers) : Prop :=
  match b.order with
  | none => q.generator = ⟨⟨seed, .ofNat i⟩, []⟩
  | some (name, kind) => q.generator = .ofSeed seed ∧ q.orders.get? (trimmed name) = some
      ((Order.ofSeed kind (Draw.word (Draw.keyWord (trimmed name)) seed)).afterDeals
        b.items.length i)

theorem place_lt (seed : UInt64) (i : Nat) (hne : b.items ≠ []) :
    b.place seed i < b.items.length := by
  have hpos := List.length_pos_iff.2 hne
  unfold place
  split
  · exact Nat.mod_lt _ hpos
  · exact Order.dealt_lt (Order.isFair_ofSeed _ _) hpos i

/-- The item of a repetition is chosen. -/
theorem Stands.choose (h : b.Stands seed i q) (hB : b.Fills B) (hne : b.items ≠ []) :
    ∃ q', b.Stands seed (i + 1) q' ∧ q'.repeaters = q.repeaters ∧
      ∀ (budget : Budget) (o : ChannelStack),
        (chooseItem B (b.order.map fun x => trimmed x.1)).run ⟨{ q with budget := budget }, o⟩ =
          .ok (b.place seed i, ⟨{ q' with budget := budget }, o⟩) := by
  have hplace := place_lt seed i hne
  unfold Stands at h ⊢
  unfold place at hplace ⊢
  cases horder : b.order with
  | none =>
    simp only [horder] at h ⊢
    refine ⟨{ q with generator := ⟨⟨seed, .ofNat (i + 1)⟩, []⟩ }, rfl, rfl, fun budget o => ?_⟩
    have hbits : (Draw.word seed (.ofNat i) &&& 0x7FFFFFFF).toNat =
        (Draw.word seed (.ofNat i)).toNat % 0x80000000 := by
      rw [UInt64.toNat_and]
      exact Nat.and_two_pow_sub_one_eq_mod _ 31
    have hsize : B.size ≠ 0 := by
      rw [hB.size_eq]
      exact mt List.length_eq_zero_iff.1 hne
    have hdraw : q.generator.lessThan B.size =
        ((Draw.word seed (.ofNat i) &&& 0x7FFFFFFF).toNat % b.items.length,
          ⟨⟨seed, .ofNat (i + 1)⟩, []⟩) := by
      rw [hbits, ← hB.size_eq, h, UInt64.ofNat_add]
      simp only [Generator.lessThan, if_neg hsize]
      rfl
    rw [Option.map_none, chooseItem, run_drawItem hB.weights, hdraw]
  | some x =>
    obtain ⟨name, kind⟩ := x
    simp only [horder] at h hplace ⊢
    obtain ⟨hgenerator, hget⟩ := h
    generalize Order.ofSeed kind (Draw.word (Draw.keyWord (trimmed name)) seed) = order at *
    let orders : SharedOrders := { q.orders with
      table := q.orders.table.insert (trimmed name) (order.afterDeals b.items.length (i + 1)) }
    refine ⟨{ q with orders := orders }, ⟨hgenerator, Named.get?_insert_self ..⟩, rfl,
      fun budget o => ?_⟩
    have hnext : q.orders.next (trimmed name) B.size =
        (some (order.dealt b.items.length i), orders) := by
      have hget : q.orders.table.get? (trimmed name) =
          some (order.afterDeals b.items.length i) := hget
      simp only [SharedOrders.next, hget, hB.size_eq]
      rfl
    have hmin : min (order.dealt b.items.length i) (B.size - 1) = order.dealt b.items.length i := by
      rw [hB.size_eq]
      omega
    rw [Option.map_some, chooseItem, StateT.run_bind, Act.run_order hnext]
    show Except.ok (min _ _, _) = _
    rw [hmin]

/-! ## Turns -/

/-- The repeater of the block is the only one, and so many repetitions are over. -/
structure Turns (b : PlainBlock) (seed : UInt64) (i : Nat) (r : Repeater) (q : Registers) : Prop where
  repeaters : q.repeaters = [r]
  index : r.index = i
  count : r.count = b.count
  shapes : b.Shapes r.attributes
  fills : b.Fills r.block
  stands : b.Stands seed i q

theorem Turns.find (h : b.Turns seed i r q) : q.findRepeater? r.id = some r := by
  simp [Registers.findRepeater?, h.repeaters]

theorem Turns.isFinished_iff (h : b.Turns seed i r q) : r.isFinished = true ↔ b.count ≤ i := by
  rw [Repeater.isFinished, h.index, h.count, decide_eq_true_iff]

/-- What a repetition prints last. -/
def gap (b : PlainBlock) (i : Nat) : String := if i + 1 < b.count then trimmed b.separator else ""

/-- The jobs of a repetition. The one of the text after ends the repetition; while a separator runs,
the repeater is suppressed. -/
inductive Runs (b : PlainBlock) (seed : UInt64) (i id : Nat) : List Job → Prop
  | mk {before item after separator : Passage} (hbefore : before.Writes (.ofText b.before))
    (hitem : item.Writes (.ofText (b.items.getD (b.place seed i) "")))
    (hafter : after.Writes (.ofText b.after))
    (hseparator : separator.Writes (.ofText b.separator)) :
    Runs b seed i id (⟨before, [], []⟩ :: ⟨item, [], []⟩ :: ⟨after, [], [.advance id]⟩ ::
      if i + 1 < b.count then [⟨separator, [.suppress id], [.restore id]⟩] else [])

end PlainBlock

theorem Passage.Writes.alwaysPrints {p : Passage} {text : String} (h : p.Writes (.ofText text)) :
    p.AlwaysPrints (trimmed text) := fun _ _ => h.prints

/-- A repeater that was suppressed and restored is as it was. -/
theorem Registers.restore_suppress (q : Registers) (id : Nat) :
    (q.modifyRepeater id (·.suppress)).modifyRepeater id (·.restore) = q := by
  have hsame : ∀ x : Repeater, ((fun x : Repeater => if x.id = id then x.restore else x) ∘
      fun x : Repeater => if x.id = id then x.suppress else x) x = x := fun x => by
    by_cases hx : x.id = id
    · have hback : x.suppress.restore = x := rfl
      have hid : x.suppress.id = id := hx
      simp only [Function.comp_apply, if_pos hx, if_pos hid, hback]
    · simp only [Function.comp_apply, if_neg hx]
  simp only [modifyRepeater, List.map_map, List.map_id'' hsame]

namespace Machine

variable {s : Setting} {m : Machine s} {c : Surroundings} {text : String} {tokens : List Token}
  {b : PlainBlock} {seed : UInt64} {i : Nat} {r : Repeater} {q : Registers} {js : List Job}

/-- What a repetition runs is queued. -/
theorem Queues.beginRepetition (h : m.Queues c [] text tokens)
    (hr : b.Turns seed i r c.registers) (hne : b.items ≠ [])
    (hroom : c.below.length + 5 ≤ s.maxDepth) : ∃ (m' : Machine s) (q' : Registers) (js : List Job),
      m.beginRepetition r = .ok m' ∧ b.Stands seed (i + 1) q' ∧ q'.repeaters = [r] ∧
        b.Runs seed i r.id js ∧ m'.Queues { c with registers := q' } js text tokens := by
  obtain ⟨separator, hseparator, hwrites⟩ := hr.shapes.separator
  obtain ⟨before, hbefore, hwritesBefore⟩ := hr.shapes.before
  obtain ⟨after, hafter, hwritesAfter⟩ := hr.shapes.after
  obtain ⟨item, hitem, hwritesItem⟩ :=
    hr.fills.exists_item (PlainBlock.place_lt seed i hne)
  obtain ⟨q', hstands, hrepeaters, hchoose⟩ := hr.stands.choose hr.fills hne
  obtain ⟨m₁, hm₁, hpush₁⟩ : ∃ m₁ : Machine s,
      m₁.Queues c (if i + 1 < b.count then [⟨separator, [.suppress r.id], [.restore r.id]⟩] else [])
        text tokens ∧ m.pushAny (if r.index + 1 < r.count then r.attributes.separator else none)
          [.suppress r.id] [.restore r.id] = .ok m₁ := by
    rw [hr.index, hr.count, hseparator]
    split
    · obtain ⟨m₁, hpush, hm₁⟩ :=
        h.push (by simp; omega) ⟨separator, [.suppress r.id], [.restore r.id]⟩
      exact ⟨m₁, hm₁, hpush⟩
    · exact ⟨m, h, rfl⟩
  have hshort : (if i + 1 < b.count then [(⟨separator, [.suppress r.id], [.restore r.id]⟩ : Job)]
      else []).length ≤ 1 := by
    split <;> simp
  obtain ⟨m₂, hpush₂, hm₂⟩ := hm₁.push (by omega) ⟨after, [], [.advance r.id]⟩
  obtain ⟨m₃, hact, hm₃⟩ := hm₂.act hchoose
  obtain ⟨m₄, hpush₄, hm₄⟩ := hm₃.push (by simp only [List.length_cons]; omega) ⟨item, [], []⟩
  obtain ⟨m₅, hpush₅, hm₅⟩ := hm₄.push (by simp only [List.length_cons]; omega) ⟨before, [], []⟩
  refine ⟨m₅, q', _, ?_, hstands, hrepeaters.trans hr.repeaters,
    .mk hwritesBefore hwritesItem hwritesAfter hwrites, hm₅⟩
  have hact : m₂.act (chooseItem r.block r.attributes.order) = .ok (b.place seed i, m₃) := by
    rw [hr.shapes.order, hact]
  simp only [Machine.beginRepetition, hpush₁, bind, Except.bind]
  simp only [hafter, hbefore, pushAny, hpush₂, hact, hitem, Option.isSome_some, if_true, hpush₄,
    hpush₅]

/-- What a repetition runs is done. -/
theorem Queues.leads_jobs {id : Nat} (h : m.Queues c js text tokens) (hjs : b.Runs seed i id js) :
    ∃ n m', Leads n m m' ∧
      m'.At { c with registers := c.registers.modifyRepeater id (·.advance) }
        (text ++ b.repetition seed i ++ b.gap i) tokens := by
  cases hjs with
  | @mk before item after separator hbefore hitem hafter hseparator =>
    obtain ⟨n₁, m₁, hlead₁, hm₁⟩ := h.leads_job .nil .nil hbefore.alwaysPrints
    obtain ⟨n₂, m₂, hlead₂, hm₂⟩ := hm₁.leads_job .nil .nil hitem.alwaysPrints
    obtain ⟨n₃, m₃, hlead₃, hm₃⟩ := hm₂.leads_job .nil
      (.single (f := (·.modifyRepeater id (·.advance))) (fun _ => rfl) fun _ _ => rfl)
      hafter.alwaysPrints
    have htext : text ++ trimmed b.before ++ trimmed (b.items.getD (b.place seed i) "") ++
        trimmed b.after = text ++ b.repetition seed i := by
      simp only [PlainBlock.repetition, String.append_assoc]
    rw [htext] at hm₃
    have hlead := hlead₁.trans (hlead₂.trans hlead₃)
    unfold PlainBlock.gap
    split at hm₃
    · next hlast =>
      obtain ⟨n₄, m₄, hlead₄, hm₄⟩ := hm₃.leads_job
        (.single (f := (·.modifyRepeater id (·.suppress))) (fun _ => rfl) fun _ _ => rfl)
        (.single (f := (·.modifyRepeater id (·.restore))) (fun _ => rfl) fun _ _ => rfl)
        hseparator.alwaysPrints
      rw [Registers.restore_suppress] at hm₄
      rw [if_pos hlast]
      exact ⟨_, m₄, hlead.trans hlead₄, Queues.nil_iff.1 hm₄⟩
    · next hlast =>
      rw [if_neg hlast, String.append_empty]
      exact ⟨_, m₃, hlead, Queues.nil_iff.1 hm₃⟩

/-! ## The loop -/

/-- The next repetition of a repeater begins. -/
theorem At.step_iterate {id : Nat} (hfind : c.registers.findRepeater? id = some r)
    (hopen : r.isFinished = false) (h : m.At (c.defer (.iterate id)) text tokens) :
    ∃ m₁ : Machine s, m₁.At (c.defer (.iterate id)) text tokens ∧
      m.step = m₁.beginRepetition r := by
  obtain ⟨m₁, hm₁, hstep⟩ := At.step_take h
  have hfind : m₁.registers.findRepeater? id = some r := by
    obtain ⟨_, -, hregisters⟩ := hm₁.registers
    rw [hregisters]
    exact hfind
  refine ⟨_, hm₁.defer (.iterate id), ?_⟩
  rw [hstep]
  simp only [take, iterate, hfind, hopen, Bool.false_eq_true, if_false]

/-- Behind its last repetition, a repeater is removed. -/
theorem At.step_finished {id : Nat} (hfind : c.registers.findRepeater? id = some r)
    (hfinished : r.isFinished = true) (h : m.At (c.defer (.iterate id)) text tokens) :
    ∃ m', m.step = .ok m' ∧ m'.At { c with registers := c.registers.removeRepeater id } text
      tokens := by
  obtain ⟨m₁, hm₁, hstep⟩ := At.step_take h
  have hfind : m₁.registers.findRepeater? id = some r := by
    obtain ⟨_, -, hregisters⟩ := hm₁.registers
    rw [hregisters]
    exact hfind
  refine ⟨m₁.change (·.removeRepeater id), ?_, hm₁.change fun _ _ => rfl⟩
  rw [hstep]
  simp only [take, iterate, hfind, hfinished, if_true]
  rfl

/-- One repetition runs. -/
theorem At.leads_repetition (hr : b.Turns seed i r q) (hne : b.items ≠ []) (hi : i < b.count)
    (hroom : c.below.length + 5 ≤ s.maxDepth)
    (h : m.At ({ c with registers := q }.defer (.iterate r.id)) text tokens) : ∃ n m' r' q',
      Leads n m m' ∧ b.Turns seed (i + 1) r' q' ∧
        m'.At ({ c with registers := q' }.defer (.iterate r'.id))
          (text ++ b.repetition seed i ++ b.gap i) tokens := by
  have hopen : r.isFinished = false := by
    rw [Bool.eq_false_iff, Ne, hr.isFinished_iff]
    omega
  obtain ⟨m₁, hm₁, hstep⟩ := At.step_iterate hr.find hopen h
  obtain ⟨m₂, q', js, hbegin, hstands, hrepeaters, hjs, hm₂⟩ :=
    (Queues.nil_iff.2 hm₁).beginRepetition hr hne hroom
  obtain ⟨n, m₃, hlead, hm₃⟩ := hm₂.leads_jobs hjs
  have hadvance : r.advance = { r with index := r.index + 1 } := by
    rw [Repeater.advance, hopen]
    rfl
  refine ⟨n + 1, m₃, r.advance, q'.modifyRepeater r.id (·.advance),
    .step h.frames_ne_nil (hstep.trans hbegin) hlead, ?_, ?_⟩
  · rw [hadvance]
    refine ⟨?_, congrArg (· + 1) hr.index, hr.count, hr.shapes, hr.fills, hstands⟩
    simp [Registers.modifyRepeater, hrepeaters, hadvance]
  · rw [hadvance]
    exact hm₃

/-- All repetitions that are left run. -/
theorem At.leads_repetitions (hr : b.Turns seed i r q) (hne : b.items ≠ []) (hi : i ≤ b.count)
    (hroom : c.below.length + 5 ≤ s.maxDepth)
    (h : m.At ({ c with registers := q }.defer (.iterate r.id)) text tokens) : ∃ n m' q',
      Leads n m m' ∧ b.Stands seed b.count q' ∧ m'.At { c with registers := q' }
        (text ++ (trimmed b.separator).intercalate
          ((List.range' i (b.count - i)).map (b.repetition seed))) tokens := by
  induction hleft : b.count - i generalizing m i r q text with
  | zero =>
    obtain rfl : i = b.count := by omega
    obtain ⟨m', hstep, hm'⟩ := At.step_finished hr.find (hr.isFinished_iff.2 (Nat.le_refl _)) h
    have hnone : (trimmed b.separator).intercalate ([].map (b.repetition seed)) = "" := rfl
    rw [List.range'_zero, hnone, String.append_empty]
    exact ⟨1, m', q.removeRepeater r.id, .single h.frames_ne_nil hstep, hr.stands, hm'⟩
  | succ left ih =>
    obtain ⟨n, m₁, r', q', hlead, hr', hm₁⟩ := At.leads_repetition hr hne (by omega) hroom h
    obtain ⟨k, m', q'', hlead', hstands, hm'⟩ := ih hr' (by omega) hm₁ (by omega)
    refine ⟨n + k, m', q'', hlead.trans hlead', hstands, ?_⟩
    have htext : b.repetition seed i ++ b.gap i ++ (trimmed b.separator).intercalate
        ((List.range' (i + 1) left).map (b.repetition seed)) =
          (trimmed b.separator).intercalate ((List.range' i (left + 1)).map (b.repetition seed)) := by
      rw [List.range'_succ, List.map_cons, PlainBlock.gap]
      cases left with
      | zero => simp [show ¬ i + 1 < b.count by omega]
      | succ left =>
        rw [if_pos (by omega), List.range'_succ, List.map_cons, String.intercalate_cons_cons]
    rw [← htext, ← String.append_assoc, ← String.append_assoc]
    exact hm'

end Machine

end Wordsmith
