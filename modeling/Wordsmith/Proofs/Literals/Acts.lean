import Wordsmith.Machine.Step
import Wordsmith.Proofs.Likeness.Reading

/-!
# Acts that see no ids

An act reads the innermost repeater, but neither its id nor the id of the frame that its block is in,
and how much was written is of no consequence to it as long as no limit is in force. So in two scenes
that differ in nothing else, it does the same: it fails with the same fault, or it has the same result
and leaves scenes that still differ in nothing else.

Main results: `Act.Blind` for what acts have in common, and `Tag.blind_perform` for all tags.
-/

namespace Wordsmith

/-! ## Scenes -/

/-- The repeaters are the same but for their ids. -/
inductive Repeater.Twin (r : Repeater) : Repeater → Prop
  | intro (id base : Nat) : Twin r { r with id := id, base := base }

namespace Registers

/-- The registers with other repeaters and another budget. -/
def refit (r : Registers) (repeaters : List Repeater) (budget : Budget) : Registers :=
  { r with repeaters := repeaters, budget := budget }

/-- No limit is in force, and the registers are the same but for how much was written and for the ids
of the repeaters. -/
inductive Twin (r : Registers) : Registers → Prop
  | intro {repeaters : List Repeater} {budget : Budget}
      (hrepeaters : List.Forall₂ Repeater.Twin r.repeaters repeaters)
      (hlimit : r.budget.limit = none) (hlimit' : budget.limit = none) :
      Twin r (r.refit repeaters budget)

/-- The change neither sees nor touches the repeaters and the budget. -/
def SparesTwins (f : Registers → Registers) : Prop :=
  ∀ (r : Registers) repeaters budget, f (r.refit repeaters budget) = (f r).refit repeaters budget

namespace Twin

variable {r r' : Registers}

theorem change (h : r.Twin r') {f : Registers → Registers} (hf : SparesTwins f) :
    (f r).Twin (f r') := by
  cases h with
  | @intro repeaters budget hrepeaters hlimit hlimit' =>
    have hsame : f r = (f r).refit r.repeaters r.budget := hf r r.repeaters r.budget
    have hkept := congrArg Registers.repeaters hsame
    have hunspent := congrArg Registers.budget hsame
    rw [hf]
    exact .intro (hkept.symm ▸ hrepeaters) (hunspent.symm ▸ hlimit) hlimit'

/-- What is neither a repeater nor the budget is the same. -/
theorem rest_eq {α : Type} (h : r.Twin r') {f : Registers → α}
    (hf : ∀ (r : Registers) repeaters budget, f (r.refit repeaters budget) = f r) :
    f r' = f r := by
  cases h with
  | intro => exact hf _ _ _

theorem generator_eq (h : r.Twin r') : r'.generator = r.generator :=
  h.rest_eq (f := Registers.generator) fun _ _ _ => rfl

theorem unlimited (h : r.Twin r') : r'.budget.limit = none := by
  cases h with
  | intro _ _ hlimit' => exact hlimit'

/-- How much was written does not count. -/
theorem spend (h : r.Twin r') {budget : Budget} (hbudget : budget.limit = none) :
    r.Twin { r' with budget := budget } := by
  cases h with
  | intro hrepeaters hlimit => exact .intro hrepeaters hlimit hbudget

theorem repeaters (h : r.Twin r') : List.Forall₂ Repeater.Twin r.repeaters r'.repeaters := by
  cases h with
  | intro hrepeaters => exact hrepeaters

theorem repeater? (h : r.Twin r') : Option.Rel Repeater.Twin r.repeater? r'.repeater? := by
  have hall := h.repeaters
  unfold Registers.repeater?
  generalize r.repeaters = rs, r'.repeaters = rs' at hall
  cases hall with
  | nil => exact .none
  | cons h _ => exact .some h

end Twin

theorem sparesTwins_foldl {α : Type} {f : Registers → α → Registers}
    (hf : ∀ a, SparesTwins fun r => f r a) (l : List α) : SparesTwins fun r => l.foldl f r := by
  intro r repeaters budget
  induction l generalizing r with
  | nil => rfl
  | cons a l ih =>
    have hfirst : f (r.refit repeaters budget) a = (f r a).refit repeaters budget :=
      hf a r repeaters budget
    show l.foldl f (f (r.refit repeaters budget) a) = _
    rw [hfirst]
    exact ih (f r a)

theorem sparesTwins_setFlag (flag : String) : SparesTwins (·.setFlag flag) := by
  intro r repeaters budget
  have hsame : (r.refit repeaters budget).hasFlag flag = r.hasFlag flag := rfl
  simp only [setFlag, hsame]
  split <;> rfl

theorem sparesTwins_clearFlag (flag : String) : SparesTwins (·.clearFlag flag) :=
  fun _ _ _ => rfl

end Registers

/-- The registers are twins and the outputs are the same. -/
structure Scene.Twin (t t' : Scene) : Prop where
  registers : t.registers.Twin t'.registers
  output : t.output = t'.output

/-! ## Writing without a limit -/

namespace ChannelStack

/-- Without a limit, a write succeeds and leaves the same output, whatever was written before. -/
def WritesFreely (f : Budget → Except LimitExceeded (ChannelStack × Budget)) : Prop :=
  ∃ o, ∀ b : Budget, b.limit = none → ∃ b', f b = .ok (o, b') ∧ b'.limit = none

theorem writesFreely_spend (o : ChannelStack) (count : Nat) : WritesFreely fun b =>
    match b.spend count with
    | .error e => .error e
    | .ok b => .ok (o, b) := by
  refine ⟨o, fun ⟨limit, used⟩ hlimit => ?_⟩
  obtain rfl : limit = none := hlimit
  exact ⟨_, rfl, rfl⟩

theorem writesFreely_write (o : ChannelStack) (text : String) : WritesFreely (o.write text) := by
  unfold WritesFreely write
  split
  · exact ⟨o, fun b hb => ⟨b, rfl, hb⟩⟩
  · exact writesFreely_spend _ _

theorem writesFreely_writeArticle (o : ChannelStack) : WritesFreely o.writeArticle :=
  writesFreely_spend _ _

theorem writesFreely_writeTarget (o : ChannelStack) (name value : String) (overwrite : Bool) :
    WritesFreely (o.writeTarget name value overwrite) := writesFreely_spend _ _

end ChannelStack

/-! ## Acts -/

namespace Act

variable {α β γ : Type}

/-- In scenes that are twins, the act fails with the same fault, or it has the same result and leaves
twins. -/
structure Blind (a : Act α) : Prop where
  from_twins : ∀ t t' : Scene, t.Twin t' →
    Matches Eq (fun x y => x.1 = y.1 ∧ x.2.Twin y.2) (a t) (a t')

namespace Blind

theorem pure {x : α} : (Pure.pure x : Act α).Blind := ⟨fun _ _ ht => .ok ⟨rfl, ht⟩⟩

theorem throw {f : Fault} : (MonadExcept.throw f : Act α).Blind := ⟨fun _ _ _ => .error rfl⟩

theorem bind {a : Act α} {f : α → Act β} (ha : a.Blind) (hf : ∀ x, (f x).Blind) :
    (a >>= f).Blind := by
  refine ⟨fun t t' ht => (ha.from_twins t t' ht).bind fun ⟨x, u⟩ ⟨y, u'⟩ ⟨hxy, hu⟩ => ?_⟩
  obtain rfl : x = y := hxy
  exact (hf x).from_twins u u' hu

theorem ite {c : Prop} [Decidable c] {a b : Act α} (ha : a.Blind) (hb : b.Blind) :
    (if c then a else b).Blind := by
  split
  · exact ha
  · exact hb

theorem stay {a : Act α} (ha : a.Blind) : (a >>= fun _ => Pure.pure Next.stay).Blind :=
  ha.bind fun _ => .pure

theorem foldlM {f : α → γ → Act α} (hf : ∀ x c, (f x c).Blind) (l : List γ) (x : α) :
    (l.foldlM f x).Blind := by
  induction l generalizing x with
  | nil => exact .pure
  | cons c l ih => exact (hf x c).bind ih

end Blind

/-- An act that goes on with the scene, in the same way in twins. -/
theorem blind_get {k : Scene → Act α} (hsame : ∀ t t' : Scene, t.Twin t' → k t = k t')
    (hk : ∀ t, (k t).Blind) : (MonadState.get >>= k).Blind := by
  refine ⟨fun t t' ht => ?_⟩
  show Matches Eq _ (k t t) (k t' t')
  rw [← hsame t t' ht]
  exact (hk t).from_twins t t' ht

theorem blind_read {f : Registers → α} (hf : ∀ r r' : Registers, r.Twin r' → f r = f r') :
    (read f).Blind := ⟨fun _ _ ht => .ok ⟨hf _ _ ht.registers, ht⟩⟩

/-- What is read is neither a repeater nor the budget. -/
theorem blind_read_rest {f : Registers → α}
    (hf : ∀ (r : Registers) repeaters budget, f (r.refit repeaters budget) = f r) :
    (read f).Blind :=
  blind_read fun _ _ h => (h.rest_eq hf).symm

theorem blind_change {f : Registers → Registers} (hf : Registers.SparesTwins f) :
    (change f).Blind := ⟨fun _ _ ht => .ok ⟨rfl, ht.registers.change hf, ht.output⟩⟩

theorem blind_shape (f : Attributes → Attributes) : (shape f).Blind := blind_change fun _ _ _ => rfl

theorem blind_draw (f : Generator → α × Generator) : (draw f).Blind := by
  refine ⟨fun ⟨r, o⟩ ⟨r', o'⟩ ⟨hr, ho⟩ => ?_⟩
  cases hr with
  | intro hrepeaters hlimit hlimit' => exact .ok ⟨rfl, .intro hrepeaters hlimit hlimit', ho⟩

theorem blind_order (f : SharedOrders → α × SharedOrders) : (order f).Blind := by
  refine ⟨fun ⟨r, o⟩ ⟨r', o'⟩ ⟨hr, ho⟩ => ?_⟩
  cases hr with
  | intro hrepeaters hlimit hlimit' => exact .ok ⟨rfl, .intro hrepeaters hlimit hlimit', ho⟩

theorem blind_channels (f : ChannelStack → ChannelStack) : (channels f).Blind :=
  ⟨fun _ _ ht => .ok ⟨rfl, ht.registers, congrArg f ht.output⟩⟩

theorem blind_spend {f : ChannelStack → Budget → Except LimitExceeded (ChannelStack × Budget)}
    (hf : ∀ o, ChannelStack.WritesFreely (f o)) : (spend f).Blind := by
  refine ⟨fun ⟨r, o⟩ ⟨r', o'⟩ ⟨hr, ho⟩ => ?_⟩
  obtain rfl : o = o' := ho
  obtain ⟨written, hwritten⟩ := hf o
  cases hr with
  | @intro repeaters budget hrepeaters hlimit hlimit' =>
    obtain ⟨b, hb, hblimit⟩ := hwritten r.budget hlimit
    obtain ⟨b', hb', hblimit'⟩ := hwritten budget hlimit'
    dsimp only [spend]
    rw [hb, hb']
    exact .ok ⟨rfl, .intro hrepeaters hblimit hblimit', rfl⟩

theorem blind_print (text : String) : (print text).Blind :=
  blind_spend fun o => o.writesFreely_write text

theorem blind_printArticle : printArticle.Blind := blind_spend fun o => o.writesFreely_writeArticle

theorem blind_printInteger (n : Int) : (printInteger n).Blind :=
  (blind_read_rest fun _ _ _ => rfl).bind fun _ => blind_print _

theorem blind_printValue (x : Float) : (printValue x).Blind := by
  unfold printValue
  split
  · exact blind_printInteger _
  · exact blind_print _

end Act

open Act

/-! ## Calls -/

namespace Call

variable {α : Type} (c : Call)

theorem blind_complain (complaint : Complaint) : (c.complain complaint : Act α).Blind := .throw

theorem blind_integer (value : String) : (c.integer value).Blind := by
  unfold integer
  split
  · exact .pure
  · exact c.blind_complain _

theorem blind_choice (i : Nat) (read : String → Except String α) : (c.choice i read).Blind := by
  unfold choice
  split
  · exact .pure
  · exact c.blind_complain _

theorem blind_repetitions : c.repetitions.Blind := by
  unfold repetitions
  dsimp only
  split
  · exact (blind_shape _).stay
  · refine (c.blind_integer _).bind fun n => ?_
    split
    · exact (c.blind_complain _).stay
    · exact (blind_shape _).stay

theorem blind_chance : c.chance.Blind := by
  unfold chance
  dsimp only
  split
  · exact (blind_shape _).stay
  · exact (c.blind_complain _).stay

/-- What is done with the innermost repeater is told from it without its ids. -/
theorem blind_withRepeater {k : Option Repeater → Act α} (hnone : (k none).Blind)
    (hsome : ∀ r, (k (some r)).Blind)
    (hk : ∀ r r' : Repeater, r.Twin r' → k (some r') = k (some r)) :
    (Act.read (·.repeater?) >>= k).Blind := by
  refine ⟨fun t t' ht => ?_⟩
  show Matches Eq _ (k t.registers.repeater? t) (k t'.registers.repeater? t')
  have hrel := ht.registers.repeater?
  generalize t.registers.repeater? = x, t'.registers.repeater? = y at hrel
  cases hrel with
  | none => exact hnone.from_twins t t' ht
  | some hr =>
    rw [hk _ _ hr]
    exact (hsome _).from_twins t t' ht

theorem blind_printRepeater {f : Repeater → Nat} (hf : ∀ r r' : Repeater, r.Twin r' → f r' = f r) :
    (c.printRepeater f).Blind := by
  refine blind_withRepeater (c.blind_complain _).stay (fun r => (blind_printInteger _).stay) ?_
  intro r r' h
  dsimp only
  rw [hf r r' h]

theorem blind_runIf (i : Nat) {holds : Repeater → Bool}
    (hholds : ∀ r r' : Repeater, r.Twin r' → holds r' = holds r) : (c.runIf i holds).Blind := by
  refine blind_withRepeater .pure (fun _ => .pure) fun r r' h => ?_
  simp only [Option.any_some, hholds r r' h]

theorem blind_runIfNth (i : Nat) (interval offset : String) :
    (c.runIfNth i interval offset).Blind := by
  refine (c.blind_integer _).bind fun _ => (c.blind_integer _).bind fun _ => ?_
  exact .ite .throw (.ite .throw (c.blind_runIf i fun _ _ h => by cases h; rfl))

theorem blind_requireOrder (name : String) (known : Bool) : (requireOrder name known).Blind :=
  .ite .pure .throw

theorem blind_createOrder : c.createOrder.Blind :=
  (c.blind_choice _ _).bind fun _ => (blind_read_rest fun _ _ _ => rfl).bind fun _ => blind_order _

theorem blind_measure (f : ChannelStack → String → String → Option α) : (c.measure f).Blind := by
  refine blind_get (fun t t' ht => by rw [ht.output]) fun t => ?_
  split
  · exact .pure
  · exact .throw

theorem blind_send (overwrite : Bool) : (c.send overwrite).Blind :=
  blind_spend fun o => o.writesFreely_writeTarget _ _ _

theorem blind_hook (s : Setting) : (c.hook s).Blind := by
  unfold hook
  split
  · exact blind_print _
  · exact .throw

theorem blind_printCharacters (count : Nat) : (c.printCharacters count).Blind := by
  unfold printCharacters
  split
  · exact (blind_draw _).bind fun _ => blind_print _
  · exact c.blind_complain _

theorem blind_printCountedCharacters : c.printCountedCharacters.Blind :=
  (c.blind_integer _).bind fun _ => .ite (c.blind_complain _) (c.blind_printCharacters _)

theorem blind_printNumber : c.printNumber.Blind :=
  (c.blind_integer _).bind fun _ => (c.blind_integer _).bind fun _ =>
    .ite (c.blind_complain _) ((blind_draw _).bind fun _ => blind_printInteger _)

theorem blind_argument : c.argument.Blind := by
  refine (blind_read_rest fun _ _ _ => rfl).bind fun tables => ?_
  split
  · exact (blind_print _).stay
  · exact .pure
  · exact .throw

theorem blind_branchOn (holds : Bool) : (c.branchOn holds).Blind :=
  (blind_change fun _ _ _ => rfl).bind fun _ => .pure

theorem blind_anyHolds : c.anyHolds.Blind := by
  refine (blind_read_rest fun _ _ _ => rfl).bind fun comparisons => ?_
  split
  · exact c.blind_complain _
  · refine .foldlM (fun found condition => ?_) _ _
    split
    · exact .pure
    · exact c.blind_complain _

end Call

/-! ## Tags -/

namespace Tag

theorem blind_perform (s : Setting) (source : String) (c : Call) (tag : Tag) :
    (tag.perform s source c).Blind := by
  cases tag with
  | repetitions => exact c.blind_repetitions
  | separator | before | after | unbindOrder => exact (blind_shape _).stay
  | chance => exact c.blind_chance
  | persistence => exact (c.blind_choice _ _).bind fun _ => (blind_shape _).stay
  | leave => exact .pure
  | repetitionNumber | repetitionIndex | repetitionCount =>
    exact c.blind_printRepeater fun _ _ h => by cases h; rfl
  | ifFirst | ifLast | ifMiddle | unlessFirst | unlessLast | unlessMiddle | ifOdd | ifEven =>
    exact c.blind_runIf _ fun _ _ h => by cases h; rfl
  | ifNth | ifNthFrom => exact c.blind_runIfNth _ _ _
  | bindOrder =>
    exact (blind_read_rest fun _ _ _ => rfl).bind fun _ =>
      (Call.blind_requireOrder _ _).bind fun _ => (blind_shape _).bind fun _ => .pure
  | createBoundOrder => exact c.blind_createOrder.bind fun _ => (blind_shape _).stay
  | createOrder => exact c.blind_createOrder.stay
  | resetOrder | reseedOrder | stepOrder =>
    exact (blind_order _).bind fun _ => Call.blind_requireOrder _ _
  | pinOrder | unpinOrder => exact (blind_order _).stay
  | branch => exact (blind_draw _).stay
  | branchFor => exact (blind_draw _).bind fun _ => .pure
  | merge => exact (blind_change fun _ _ _ => rfl).stay
  | generation => exact (blind_read_rest fun _ _ _ => rfl).bind fun _ => (blind_print _).stay
  | setGeneration =>
    dsimp only [perform]
    split
    · exact (blind_draw _).stay
    · exact (c.blind_complain _).stay
  | ifNothing | ifAnything =>
    exact blind_get (fun t t' ht => by rw [ht.output]) fun _ => .pure
  | argument => exact c.blind_argument
  | wholeMatch | matchGroup =>
    refine (blind_read_rest fun _ _ _ => rfl).bind fun _ => ?_
    split
    · exact (blind_print _).stay
    · exact .pure
  | caseMode => exact (c.blind_choice _ _).bind fun _ => (blind_channels _).stay
  | inferCaseMode =>
    dsimp only [perform]
    split
    · exact (blind_channels _).stay
    · exact .pure
  | numberFormat =>
    exact (c.blind_choice _ _).bind fun _ => (blind_change fun _ _ _ => rfl).stay
  | visit | close | mark | target | clearTarget => exact (blind_channels _).stay
  | visitAs => exact (c.blind_choice _ _).bind fun _ => (blind_channels _).stay
  | distance => exact (c.blind_measure _).bind fun _ => (blind_printInteger _).stay
  | copy => exact (c.blind_measure _).bind fun _ => (blind_print _).stay
  | send | overwrite => exact (c.blind_send _).stay
  | article => exact blind_printArticle.stay
  | hook => exact (c.blind_hook s).stay
  | length => exact (blind_printInteger _).stay
  | character => exact (c.blind_printCharacters _).stay
  | characters => exact c.blind_printCountedCharacters.stay
  | number => exact c.blind_printNumber.stay
  | fraction => exact (blind_draw _).bind fun _ => (blind_print _).stay
  | code => exact (blind_print _).stay
  | define =>
    exact (blind_change (Registers.sparesTwins_foldl Registers.sparesTwins_setFlag _)).stay
  | undefine =>
    exact (blind_change (Registers.sparesTwins_foldl Registers.sparesTwins_clearFlag _)).stay
  | ifDefined | unlessDefined =>
    exact (blind_read_rest fun _ _ _ => rfl).bind fun _ => c.blind_branchOn _
  | otherwise =>
    refine (blind_read_rest fun _ _ _ => rfl).bind fun armed => ?_
    split
    · exact (blind_change fun _ _ _ => rfl).bind fun _ => .pure
    · exact .pure
  | compare => exact (blind_change fun _ _ _ => rfl).bind fun _ => .pure
  | ifCompared => exact c.blind_anyHolds.bind fun _ => c.blind_branchOn _

end Tag

/-! ## Tokens and blocks -/

namespace Machine

theorem blind_isEntered (b : Block) (a : Attributes) : (isEntered b a).Blind :=
  .ite .pure (.ite ((blind_draw _).bind fun _ => .pure) .pure)

theorem blind_drawItem (b : Block) : (drawItem b).Blind := by
  unfold drawItem
  split
  · exact blind_draw _
  · split
    · exact blind_draw _
    · exact .throw

theorem blind_chooseItem (b : Block) (order : Option String) : (chooseItem b order).Blind := by
  unfold chooseItem
  split
  · exact blind_drawItem b
  · refine (blind_order _).bind fun dealt => ?_
    split
    · exact .pure
    · exact blind_drawItem b

theorem blind_printFound (s : Setting) (found : Except QueryError String) :
    (printFound s found).Blind := by
  cases found with
  | ok word => exact blind_print word
  | error e => exact .ite .throw (blind_print _)

theorem blind_query (s : Setting) (text : String) : (query s text).Blind := by
  unfold query
  split
  · exact .throw
  · refine blind_get (fun t t' ht => ?_) fun t => ?_
    · obtain ⟨r, o⟩ := t
      obtain ⟨r', o'⟩ := t'
      obtain ⟨hr, -⟩ := ht
      cases hr
      rfl
    · exact (blind_change fun _ _ _ => rfl).bind fun _ => blind_printFound s _

theorem blind_printArticles (n : Nat) : (printArticles n).Blind := by
  induction n with
  | zero => exact .pure
  | succ n ih => exact blind_printArticle.bind fun _ => ih

theorem blind_escape (literal : String) : (escape literal).Blind := by
  unfold escape
  split
  · exact .throw
  · exact blind_printArticles _
  · exact (blind_draw _).bind fun _ => blind_print _
  · exact blind_print _

end Machine

end Wordsmith
