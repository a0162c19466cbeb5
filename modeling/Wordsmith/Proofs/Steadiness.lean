import Wordsmith.Proofs.Stepping

/-!
# What leaves verdicts and branches alone

Whether the last condition failed and the branches of the generator are remembered for the run as a
whole, not for a frame. Hardly anything changes them. A draw goes on with the top branch and leaves
those below it alone. Only a handful of tags do more, and the action that takes back what one of
them did, which waits in a frame until it is due: the conditions and their alternative, the tags
that branch and merge, and the one that leaves a block. Everything else is steady. It changes
neither the last verdict nor the branches, nor how many of them the frames are going to take back.

Main results: `Tag.proceedsSteadily_perform` for tags, and `Machine.step_steady`, a step is steady
or takes one of these actions.
-/

namespace Wordsmith

/-- The last verdict is the same, and so are the branches below the top one. -/
structure Registers.Steady (r r' : Registers) : Prop where
  elseArmed : r'.elseArmed = r.elseArmed
  below : r'.generator.below = r.generator.below

namespace Registers

variable {r r₁ r₂ : Registers}

theorem Steady.refl (r : Registers) : r.Steady r := ⟨rfl, rfl⟩

theorem Steady.of_eq (h : r₁ = r) : r.Steady r₁ := h ▸ .refl r

theorem Steady.trans (h : r.Steady r₁) (h' : r₁.Steady r₂) : r.Steady r₂ :=
  ⟨h'.elseArmed.trans h.elseArmed, h'.below.trans h.below⟩

theorem steady_setFlag (r : Registers) (flag : String) : r.Steady (r.setFlag flag) := by
  unfold setFlag
  split <;> exact ⟨rfl, rfl⟩

theorem steady_clearFlag (r : Registers) (flag : String) : r.Steady (r.clearFlag flag) := ⟨rfl, rfl⟩

theorem steady_foldl {α : Type} {f : Registers → α → Registers}
    (hf : ∀ (r : Registers) a, r.Steady (f r a)) (l : List α) (r : Registers) :
    r.Steady (l.foldl f r) := by
  induction l generalizing r with
  | nil => exact .refl r
  | cons a l ih => exact (hf r a).trans (ih (f r a))

end Registers

/-! ## Merges to come -/

namespace Deferred

/-- The action takes a branch back. -/
def isMerge : Deferred → Bool
  | finish .merge => true
  | _ => false

end Deferred

/-- The number of branches that frames are still going to take back. -/
def mergesDue (frames : List Frame) : Nat :=
  (frames.flatMap Frame.pending).countP (·.isMerge)

@[simp]
theorem mergesDue_nil : mergesDue [] = 0 := rfl

@[simp]
theorem mergesDue_cons (f : Frame) (frames : List Frame) :
    mergesDue (f :: frames) = f.pending.countP (·.isMerge) + mergesDue frames := by
  rw [mergesDue, List.flatMap_cons, List.countP_append]
  rfl

@[simp]
theorem mergesDue_append (frames frames' : List Frame) :
    mergesDue (frames ++ frames') = mergesDue frames + mergesDue frames' := by
  rw [mergesDue, List.flatMap_append, List.countP_append]
  rfl

theorem mergesDue_modifyHead {g : Frame → Frame}
    (h : ∀ f, (g f).pending.countP (·.isMerge) = f.pending.countP (·.isMerge))
    (frames : List Frame) : mergesDue (frames.modifyHead g) = mergesDue frames := by
  cases frames with
  | nil => rfl
  | cons f frames => rw [List.modifyHead_cons, mergesDue_cons, mergesDue_cons, h]

/-- Passages that begin without one bring no merges. -/
theorem mergesDue_enterAll (x : Stage) {os : List Opening}
    (h : ∀ o ∈ os, (o.pre ++ o.post).countP (·.isMerge) = 0) :
    mergesDue (x.enterAll os).frames = mergesDue x.frames := by
  induction os generalizing x with
  | nil => rfl
  | cons o os ih =>
    obtain ⟨ho, hos⟩ := List.forall_mem_cons.1 h
    have hentered : mergesDue (x.enter o).frames = mergesDue x.frames := by
      rw [Stage.enter, mergesDue_cons, Opening.pending_frame, ho, Nat.zero_add]
    exact (ih _ hos).trans hentered

/-! ## Draws -/

namespace CharacterSet

theorem below_drawOnto (s : CharacterSet) (n : Nat) (g : Generator) (drawn : List Char) :
    (s.drawOnto n g drawn).2.below = g.below := by
  induction n generalizing g drawn with
  | zero => rfl
  | succ n ih => exact ih _ _

end CharacterSet

theorem Machine.below_escapedOnto (letter : Char) (n : Nat) (g : Generator) (drawn : List Char) :
    (escapedOnto letter n g drawn).2.below = g.below := by
  induction n generalizing g drawn with
  | zero => rfl
  | succ n ih =>
    have hescaped : (escaped g letter).2.below = g.below := by
      unfold escaped
      split <;> rfl
    exact (ih _ _).trans hescaped

/-! ## Acts -/

/-- The run goes on within its block, and no branch is taken back later. -/
def Next.IsSteady : Next → Prop
  | leave | runThen _ .merge => False
  | _ => True

namespace Act

variable {α β : Type}

/-- If the act succeeds, it is steady. -/
def Steady (a : Act α) : Prop := a.Makes fun s _ t => s.registers.Steady t.registers

/-- If the act succeeds, it is steady, and so is how the run goes on. -/
def ProceedsSteadily (a : Act Next) : Prop :=
  a.Makes fun s next t => next.IsSteady ∧ s.registers.Steady t.registers

/-- What an act does is put together from what its parts do. -/
theorem Makes.bind {P : Scene → α → Scene → Prop} {Q R : Scene → β → Scene → Prop} {a : Act α}
    {f : α → Act β} (ha : a.Makes P) (hf : ∀ x, (f x).Makes Q)
    (hR : ∀ s x t y u, P s x t → Q t y u → R s y u) : (a >>= f).Makes R := by
  refine ⟨fun s y u hy => ?_⟩
  simp only [Bind.bind, StateT.bind, Except.bind] at hy
  split at hy
  · cases hy
  · next v hv => exact hR s v.1 v.2 y u (ha.of_ok s v.1 v.2 hv) ((hf v.1).of_ok v.2 y u hy)

namespace Steady

theorem pure {x : α} : (Pure.pure x : Act α).Steady := Makes.pure fun s => .refl s.registers

theorem throw {e : Fault} : (MonadExcept.throw e : Act α).Steady := Makes.throw

theorem bind {a : Act α} {f : α → Act β} (ha : a.Steady) (hf : ∀ x, (f x).Steady) :
    (a >>= f).Steady :=
  Makes.bind ha hf fun _ _ _ _ _ => .trans

theorem ite {c : Prop} [Decidable c] {a b : Act α} (ha : a.Steady) (hb : b.Steady) :
    (if c then a else b).Steady := by
  split
  · exact ha
  · exact hb

theorem proceed {a : Act α} {f : α → Act Next} (ha : a.Steady)
    (hf : ∀ x, (f x).ProceedsSteadily) : (a >>= f).ProceedsSteadily :=
  Makes.bind ha hf fun _ _ _ _ _ hst ⟨hnext, htu⟩ => ⟨hnext, hst.trans htu⟩

end Steady

namespace ProceedsSteadily

theorem pure {next : Next} (h : next.IsSteady) : (Pure.pure next : Act Next).ProceedsSteadily :=
  Makes.pure fun s => ⟨h, .refl s.registers⟩

theorem throw {e : Fault} : (MonadExcept.throw e : Act Next).ProceedsSteadily := Makes.throw

theorem ite {c : Prop} [Decidable c] {a b : Act Next} (ha : a.ProceedsSteadily)
    (hb : b.ProceedsSteadily) : (if c then a else b).ProceedsSteadily := by
  split
  · exact ha
  · exact hb

/-- A steady act after it is clear how the run goes on. -/
theorem andSteady {a : Act Next} {b : Act α} (ha : a.ProceedsSteadily) (hb : b.Steady) :
    (a >>= fun next => b >>= fun _ => Pure.pure next).ProceedsSteadily := by
  refine ⟨fun s next u h => ?_⟩
  simp only [Bind.bind, StateT.bind, Except.bind] at h
  split at h
  · cases h
  · next x t hx =>
    split at h
    · cases h
    · next y v hy =>
      cases h
      obtain ⟨hnext, hst⟩ := ha.of_ok _ _ _ hx
      exact ⟨hnext, hst.trans (hb.of_ok _ _ _ hy)⟩

end ProceedsSteadily

theorem Steady.stay {a : Act α} (ha : a.Steady) :
    (a >>= fun _ => Pure.pure Next.stay).ProceedsSteadily :=
  ha.proceed fun _ => .pure trivial

theorem steady_get : (MonadState.get : Act Scene).Steady := ⟨fun s _ _ h => by
  cases h
  exact .refl s.registers⟩

theorem steady_read (f : Registers → α) : (read f).Steady := steady_get.bind fun _ => .pure

theorem steady_change (f : Registers → Registers) (h : ∀ r : Registers, r.Steady (f r)) :
    (change f).Steady := ⟨fun s _ _ hs => by
  cases hs
  exact h s.registers⟩

theorem steady_draw {f : Generator → α × Generator} (h : ∀ g, (f g).2.below = g.below) :
    (draw f).Steady := ⟨fun s _ _ hs => by
  cases hs
  exact ⟨rfl, h s.registers.generator⟩⟩

theorem steady_shape (f : Attributes → Attributes) : (shape f).Steady :=
  steady_change _ fun _ => ⟨rfl, rfl⟩

theorem steady_order (f : SharedOrders → α × SharedOrders) : (order f).Steady :=
  ⟨fun _ _ _ hs => by
    cases hs
    exact ⟨rfl, rfl⟩⟩

theorem steady_channels (f : ChannelStack → ChannelStack) : (channels f).Steady :=
  ⟨fun _ _ _ hs => by
    cases hs
    exact ⟨rfl, rfl⟩⟩

theorem steady_spend (f : ChannelStack → Budget → Except LimitExceeded (ChannelStack × Budget)) :
    (spend f).Steady := by
  refine ⟨fun s _ _ hs => ?_⟩
  simp only [spend] at hs
  split at hs
  · cases hs
  · cases hs
    exact ⟨rfl, rfl⟩

theorem steady_print (text : String) : (print text).Steady := steady_spend _

theorem steady_printInteger (n : Int) : (printInteger n).Steady :=
  (steady_read _).bind fun _ => steady_print _

theorem steady_printValue (x : Float) : (printValue x).Steady := by
  unfold printValue
  split
  · exact steady_printInteger _
  · exact steady_print _

end Act

open Act

/-! ## Calls -/

namespace Call

variable {α : Type}

theorem isSteady_run (c : Call) (i : Nat) : (c.run i).IsSteady := by
  unfold run
  split <;> trivial

theorem isSteady_ite_run (c : Call) (i : Nat) (b : Prop) [Decidable b] :
    (if b then c.run i else .stay).IsSteady := by
  split
  · exact c.isSteady_run i
  · trivial

theorem steady_complain (c : Call) (complaint : Complaint) :
    (c.complain complaint : Act α).Steady := .throw

theorem steady_integer (c : Call) (value : String) : (c.integer value).Steady := by
  unfold integer
  split
  · exact .pure
  · exact c.steady_complain _

theorem steady_choice (c : Call) (i : Nat) (read : String → Except String α) :
    (c.choice i read).Steady := by
  unfold choice
  split
  · exact .pure
  · exact c.steady_complain _

theorem proceedsSteadily_repetitions (c : Call) : c.repetitions.ProceedsSteadily := by
  unfold repetitions
  dsimp only
  split
  · exact (steady_shape _).stay
  · refine (c.steady_integer _).proceed fun n => ?_
    split
    · exact (c.steady_complain _).stay
    · exact (steady_shape _).stay

theorem proceedsSteadily_chance (c : Call) : c.chance.ProceedsSteadily := by
  unfold chance
  dsimp only
  split
  · exact (steady_shape _).stay
  · exact (c.steady_complain _).stay

theorem proceedsSteadily_printRepeater (c : Call) (f : Repeater → Nat) :
    (c.printRepeater f).ProceedsSteadily := by
  refine (steady_read _).proceed fun r => ?_
  split
  · exact (steady_printInteger _).stay
  · exact (c.steady_complain _).stay

theorem proceedsSteadily_runIf (c : Call) (i : Nat) (holds : Repeater → Bool) :
    (c.runIf i holds).ProceedsSteadily :=
  (steady_read _).proceed fun _ => .pure (c.isSteady_ite_run i _)

theorem proceedsSteadily_runIfNth (c : Call) (i : Nat) (interval offset : String) :
    (c.runIfNth i interval offset).ProceedsSteadily := by
  refine (c.steady_integer _).proceed fun _ => (c.steady_integer _).proceed fun _ => ?_
  exact .ite .throw (.ite .throw (c.proceedsSteadily_runIf i _))

theorem proceedsSteadily_requireOrder (name : String) (known : Bool) :
    (requireOrder name known).ProceedsSteadily :=
  .ite (.pure trivial) .throw

theorem steady_createOrder (c : Call) : c.createOrder.Steady :=
  (c.steady_choice _ _).bind fun _ => (steady_read _).bind fun _ => steady_order _

theorem steady_measure (c : Call) (f : ChannelStack → String → String → Option α) :
    (c.measure f).Steady := by
  refine steady_get.bind fun s => ?_
  split
  · exact .pure
  · exact .throw

theorem steady_hook (c : Call) (s : Setting) : (c.hook s).Steady := by
  unfold hook
  split
  · exact steady_print _
  · exact .throw

theorem steady_printCharacters (c : Call) (count : Nat) : (c.printCharacters count).Steady := by
  unfold printCharacters
  split
  · next set _ =>
    have hdraw : (draw (set.drawMany count)).Steady :=
      steady_draw fun g => set.below_drawOnto count g []
    exact hdraw.bind fun _ => steady_print _
  · exact c.steady_complain _

theorem steady_printCountedCharacters (c : Call) : c.printCountedCharacters.Steady :=
  (c.steady_integer _).bind fun _ => .ite (c.steady_complain _) (c.steady_printCharacters _)

theorem steady_printNumber (c : Call) : c.printNumber.Steady :=
  (c.steady_integer _).bind fun _ => (c.steady_integer _).bind fun _ =>
    .ite (c.steady_complain _) ((steady_draw fun _ => rfl).bind fun _ => steady_printInteger _)

theorem proceedsSteadily_argument (c : Call) : c.argument.ProceedsSteadily := by
  refine (steady_read _).proceed fun tables => ?_
  split
  · exact (steady_print _).stay
  · exact .pure trivial
  · exact .throw

end Call

/-! ## Tags -/

namespace Tag

/-- The tag is no condition and no alternative of one, it does not branch or merge, and it does not
leave a block. -/
def IsSteady : Tag → Prop
  | ifDefined | unlessDefined | ifCompared | otherwise | branch | branchFor | merge | leave => False
  | _ => True

theorem proceedsSteadily_perform (s : Setting) (source : String) (c : Call) {tag : Tag}
    (h : tag.IsSteady) : (tag.perform s source c).ProceedsSteadily := by
  cases tag with
  | ifDefined | unlessDefined | ifCompared | otherwise | branch | branchFor | merge | leave =>
    exact h.elim
  | repetitions => exact c.proceedsSteadily_repetitions
  | separator | before | after | unbindOrder => exact (steady_shape _).stay
  | chance => exact c.proceedsSteadily_chance
  | persistence => exact (c.steady_choice _ _).proceed fun _ => (steady_shape _).stay
  | repetitionNumber | repetitionIndex | repetitionCount =>
    exact c.proceedsSteadily_printRepeater _
  | ifFirst | ifLast | ifMiddle | unlessFirst | unlessLast | unlessMiddle | ifOdd | ifEven =>
    exact c.proceedsSteadily_runIf _ _
  | ifNth | ifNthFrom => exact c.proceedsSteadily_runIfNth _ _ _
  | bindOrder =>
    exact (steady_read _).proceed fun _ =>
      (Call.proceedsSteadily_requireOrder _ _).andSteady (steady_shape _)
  | createBoundOrder => exact c.steady_createOrder.proceed fun _ => (steady_shape _).stay
  | createOrder => exact c.steady_createOrder.stay
  | resetOrder | reseedOrder | stepOrder =>
    exact (steady_order _).proceed fun _ => Call.proceedsSteadily_requireOrder _ _
  | pinOrder | unpinOrder => exact (steady_order _).stay
  | generation => exact (steady_read _).proceed fun _ => (steady_print _).stay
  | setGeneration =>
    dsimp only [perform]
    split
    · exact (steady_draw fun _ => rfl).stay
    · exact (c.steady_complain _).stay
  | ifNothing | ifAnything =>
    refine steady_get.proceed fun _ => .pure ?_
    unfold Call.test
    split <;> trivial
  | argument => exact c.proceedsSteadily_argument
  | wholeMatch | matchGroup =>
    refine (steady_read _).proceed fun _ => ?_
    split
    · exact (steady_print _).stay
    · exact .pure trivial
  | caseMode => exact (c.steady_choice _ _).proceed fun _ => (steady_channels _).stay
  | inferCaseMode =>
    dsimp only [perform]
    split
    · exact (steady_channels _).stay
    · exact .pure trivial
  | numberFormat =>
    exact (c.steady_choice _ _).proceed fun format =>
      (steady_change (fun r => { r with numberFormat := format }) fun _ => ⟨rfl, rfl⟩).stay
  | visit | close | mark | target | clearTarget => exact (steady_channels _).stay
  | visitAs => exact (c.steady_choice _ _).proceed fun _ => (steady_channels _).stay
  | distance => exact (c.steady_measure _).proceed fun _ => (steady_printInteger _).stay
  | copy => exact (c.steady_measure _).proceed fun _ => (steady_print _).stay
  | send | overwrite | article => exact (steady_spend _).stay
  | hook => exact (c.steady_hook s).stay
  | length => exact (steady_printInteger _).stay
  | character => exact (c.steady_printCharacters _).stay
  | characters => exact c.steady_printCountedCharacters.stay
  | number => exact c.steady_printNumber.stay
  | fraction => exact (steady_draw fun _ => rfl).proceed fun _ => (steady_print _).stay
  | code => exact (steady_print _).stay
  | define =>
    exact (steady_change _ fun r => Registers.steady_foldl Registers.steady_setFlag _ r).stay
  | undefine =>
    exact (steady_change _ fun r => Registers.steady_foldl Registers.steady_clearFlag _ r).stay
  | compare =>
    have hchange : (change fun r => { r with
        comparisons := ⟨c.text 0, c.text 1⟩ :: r.comparisons }).Steady :=
      steady_change _ fun _ => ⟨rfl, rfl⟩
    exact hchange.proceed fun _ => .pure trivial

end Tag

/-! ## Actions -/

/-- The action neither calls a tag that is not steady nor takes a branch back. -/
def Deferred.IsSteady : Deferred → Prop
  | callTag tag _ _ => tag.IsSteady
  | finish .merge => False
  | _ => True

theorem Deferred.IsSteady.isMerge {action : Deferred} (h : action.IsSteady) :
    action.isMerge = false := by
  cases action with
  | finish q =>
    cases q with
    | merge => exact h.elim
    | _ => rfl
  | _ => rfl

namespace Machine

variable {s : Setting} {m m₁ m₂ : Machine s} {α : Type}

/-- The registers of one machine are steady from those of another, and as many branches are going to
be taken back. -/
structure Steady (m m' : Machine s) : Prop where
  registers : m.registers.Steady m'.registers
  merges : mergesDue m'.frames = mergesDue m.frames

theorem Steady.refl (m : Machine s) : m.Steady m := ⟨.refl _, rfl⟩

theorem Steady.trans (h : m.Steady m₁) (h' : m₁.Steady m₂) : m.Steady m₂ :=
  ⟨h.registers.trans h'.registers, h'.merges.trans h.merges⟩

theorem steady_moveTo (m : Machine s) (position : Position) : m.Steady (m.moveTo position) :=
  ⟨.refl _, rfl⟩

theorem steady_takeResults (m : Machine s) (n : Nat) : m.Steady (m.takeResults n).2 :=
  ⟨.refl _, rfl⟩

theorem steady_of_stage {x : Stage} (hregisters : x.registers = m.registers)
    (hmerges : mergesDue x.frames = mergesDue m.frames) (h : m₁.stage = x) : m.Steady m₁ :=
  ⟨.of_eq ((congrArg Stage.registers h).trans hregisters),
    (congrArg (mergesDue ∘ Stage.frames) h).trans hmerges⟩

theorem steady_modifyTop (m : Machine s) {g : Frame → Frame}
    (h : ∀ f, (g f).pending.countP (·.isMerge) = f.pending.countP (·.isMerge)) :
    m.Steady (m.modifyTop g) := ⟨.refl _, mergesDue_modifyHead h m.frames⟩

theorem steady_withReader (m : Machine s) (r : Reader) : m.Steady (m.withReader r) :=
  m.steady_modifyTop fun _ => rfl

theorem steady_defer (m : Machine s) {action : Deferred} (h : action.isMerge = false) :
    m.Steady (m.defer action) :=
  m.steady_modifyTop fun _ => List.countP_cons_of_neg (by simp [h])

theorem registers_enterAll (x : Stage) (os : List Opening) :
    (x.enterAll os).registers = x.registers := by
  induction os generalizing x with
  | nil => rfl
  | cons o os ih => exact ih _

theorem steady_enterAll {os : List Opening}
    (hos : ∀ o ∈ os, (o.pre ++ o.post).countP (·.isMerge) = 0)
    (h : m₁.stage = m.stage.enterAll os) : m.Steady m₁ :=
  steady_of_stage (registers_enterAll m.stage os) (mergesDue_enterAll m.stage hos) h

theorem steady_push (m : Machine s) (p : Passage) (owns : Bool) (pre post : List Deferred)
    (h : (pre ++ post).countP (·.isMerge) = 0) : Ensures (m.push p owns pre post) m.Steady := by
  have hos : ∀ o ∈ [Opening.mk p owns pre post], (o.pre ++ o.post).countP (·.isMerge) = 0 :=
    List.forall_mem_singleton.2 h
  exact (m.push_stage ..).weaken fun _ => steady_enterAll hos

theorem steady_run (m : Machine s) (p : Passage) : Ensures (m.run p) m.Steady :=
  m.steady_push p false [] [] rfl

theorem steady_pushAny (m : Machine s) (p : Option Passage) (pre post : List Deferred)
    (h : (pre ++ post).countP (·.isMerge) = 0) : Ensures (m.pushAny p pre post) m.Steady := by
  cases p with
  | none => exact .pure (.refl m)
  | some p => exact m.steady_push p false pre post h

theorem steady_runApart (m : Machine s) (ps : List Passage) : Ensures (m.runApart ps) m.Steady :=
  (m.runApart_stage ps).weaken fun _ => steady_enterAll (by simp)

theorem steady_act {a : Act α} (ha : a.Steady) (m : Machine s) :
    Ensures (m.act a) fun r => m.Steady r.2 := by
  refine (m.act_stage a).weaken fun r ⟨t, ht, hr⟩ => ?_
  have hregisters : r.2.registers = t.registers := congrArg Stage.registers hr
  have hframes : r.2.frames = m.frames := congrArg Stage.frames hr
  exact ⟨(ha.of_ok _ _ _ ht).trans (.of_eq hregisters), congrArg mergesDue hframes⟩

theorem steady_change (m : Machine s) {g : Registers → Registers}
    (h : m.registers.Steady (g m.registers)) : m.Steady (m.change g) := ⟨h, rfl⟩

theorem steady_perform {a : Act Unit} (ha : a.Steady) (m : Machine s) :
    Ensures (m.perform a) m.Steady :=
  (steady_act ha m).bind fun _ h => .pure h

theorem steady_compilePrinted (m : Machine s) (name : String) :
    Ensures (m.compilePrinted name) fun r => m.Steady r.2 :=
  (m.compilePrinted_stage name).weaken fun _ => steady_of_stage rfl rfl

theorem steady_drawItem (b : Block) : (drawItem b).Steady := by
  unfold drawItem
  split
  · exact steady_draw fun _ => rfl
  · split
    · exact steady_draw fun _ => rfl
    · exact .throw

theorem steady_chooseItem (b : Block) (order : Option String) : (chooseItem b order).Steady := by
  cases order with
  | none => exact steady_drawItem b
  | some name =>
    refine (steady_order _).bind fun dealt => ?_
    cases dealt with
    | none => exact steady_drawItem b
    | some => exact .pure

theorem steady_beginRepetition (m : Machine s) (r : Repeater) :
    Ensures (m.beginRepetition r) m.Steady := by
  have hitem : (if r.attributes.after.isSome then [] else [Deferred.advance r.id]).countP
      (·.isMerge) = 0 := by split <;> rfl
  refine (m.steady_pushAny _ _ _ rfl).bind fun m₁ h₁ =>
    (m₁.steady_pushAny _ _ _ rfl).bind fun m₂ h₂ => ?_
  refine (steady_act (steady_chooseItem r.block r.attributes.order) m₂).bind fun (_, m₃) h₃ => ?_
  refine (m₃.steady_pushAny _ _ _ hitem).bind fun m₄ h₄ =>
    (m₄.steady_pushAny _ _ _ rfl).weaken fun m₅ h₅ => ?_
  exact h₁.trans (h₂.trans (h₃.trans (h₄.trans h₅)))

theorem steady_iterate (m : Machine s) (id : Nat) : Ensures (m.iterate id) m.Steady := by
  unfold iterate
  split
  · exact .pure (.refl m)
  · next r _ =>
    have hdefer : m.Steady (m.defer (.iterate id)) := m.steady_defer rfl
    exact .ite (fun _ => .pure (m.steady_change ⟨rfl, rfl⟩)) fun _ =>
      ((m.defer (.iterate id)).steady_beginRepetition r).weaken fun _ => hdefer.trans

theorem steady_follow (m : Machine s) {next : Next} (h : next.IsSteady) :
    Ensures (m.follow next) m.Steady := by
  cases next with
  | stay => exact .pure (.refl m)
  | run p => exact m.steady_run p
  | runThen code q =>
    have hdefer : m.Steady (m.defer (.finish q)) := m.steady_defer (by
      cases q with
      | merge => exact h.elim
      | _ => rfl)
    exact ((m.defer (.finish q)).steady_pushAny code [] [] rfl).weaken fun _ => hdefer.trans
  | leave => exact h.elim

/-- A steady tag is called. -/
theorem steady_callTag (m : Machine s) {tag : Tag} (h : tag.IsSteady) (name : Token)
    (arguments : List Argument) : Ensures (m.callTag tag name arguments) m.Steady := by
  refine (Machine.act_stage (m.moveTo name.position) _).bind fun (next, m₁) ⟨t, ht, hm₁⟩ => ?_
  obtain ⟨hnext, hsteady⟩ := (Tag.proceedsSteadily_perform s _ _ h).of_ok _ _ _ ht
  have hregisters : m₁.registers = t.registers := congrArg Stage.registers hm₁
  have hframes : m₁.frames = m.frames := congrArg Stage.frames hm₁
  have hact : m.Steady m₁ := ⟨hsteady.trans (.of_eq hregisters), congrArg mergesDue hframes⟩
  exact (m₁.steady_follow hnext).weaken fun _ => hact.trans

theorem steady_callSubroutine (m : Machine s) (called : Subroutine) (name : Token)
    (arguments : List Argument) : Ensures (m.callSubroutine called name arguments) m.Steady := by
  refine Ensures.weaken (steady_run (defer (change _ _) .dropArguments) called.body) fun m' hm => ?_
  refine Steady.trans ?_ ((steady_defer _ rfl).trans hm)
  exact ⟨⟨rfl, rfl⟩, rfl⟩

/-- What is neither the call of one of the tags nor takes a branch back is steady. -/
theorem steady_take (m : Machine s) {action : Deferred} (h : action.IsSteady) :
    Ensures (m.take action) m.Steady := by
  have htaken : ∀ position, m.Steady (m.moveTo position).takeResult.2 := fun _ => ⟨.refl _, rfl⟩
  cases action with
  | callTag tag name slots =>
    exact (steady_callTag (m.takeResults _).2 h name _).weaken fun _ =>
      (m.steady_takeResults _).trans
  | callSubroutine called name slots =>
    exact (steady_callSubroutine (m.takeResults _).2 called name _).weaken fun _ =>
      (m.steady_takeResults _).trans
  | dropArguments | advance | suppress | restore | enterMatch | leaveMatch =>
    exact .pure (m.steady_change ⟨rfl, rfl⟩)
  | define name _ position =>
    exact (steady_compilePrinted (m.moveTo position) name).bind fun r h =>
      .pure ((m.steady_moveTo position).trans (h.trans ⟨⟨rfl, rfl⟩, rfl⟩))
  | iterate id => exact m.steady_iterate id
  | finish q =>
    cases q with
    | merge => exact h.elim
    | dropComparison => exact .pure (m.steady_change ⟨rfl, rfl⟩)
    | ifNothing size code => exact .ite (fun _ => m.steady_run code) fun _ => .pure (.refl m)
    | ifAnything size code => exact .ite (fun _ => .pure (.refl m)) fun _ => m.steady_run code
  | runPrinted position =>
    exact (steady_compilePrinted (m.moveTo position) "meta").bind fun r h =>
      (r.2.steady_run _).weaken fun _ h' => (m.steady_moveTo position).trans (h.trans h')
  | evaluate isSilent position =>
    refine (steady_perform ?_ (m.moveTo position).takeResult.2).weaken fun _ => (htaken _).trans
    split
    · cases isSilent with
      | true => exact .pure
      | false => exact steady_printValue _
    · exact .throw
  | replace regex code position =>
    show Ensures ((m.moveTo position).replace regex code) _
    unfold replace
    dsimp only
    split
    · exact (steady_perform (steady_print _) (m.moveTo position).takeResult.2).weaken fun _ =>
        (htaken _).trans
    · refine (foldlM_push_stage (fun x => ⟨code, true, [.enterMatch x], [.leaveMatch]⟩) _ _).weaken
        fun m' hm => ?_
      refine (htaken position).trans ((steady_defer _ rfl).trans (steady_enterAll ?_ hm))
      intro o ho
      obtain ⟨x, -, rfl⟩ := List.mem_map.1 ho
      rfl
  | join text spans =>
    exact (steady_perform (steady_print _) (m.takeResults spans.length).2).weaken fun _ =>
      (m.steady_takeResults _).trans

/-! ## Tokens -/

theorem steady_isEntered (b : Block) (a : Attributes) : (isEntered b a).Steady := by
  unfold isEntered
  exact .ite .pure (.ite ((steady_draw fun _ => rfl).bind fun _ => .pure) .pure)

theorem steady_enterBlock (m : Machine s) (b : Block) : Ensures (m.enterBlock b) m.Steady := by
  have htaken : m.Steady
      (m.change fun r => { r with attributes := m.registers.attributes.afterTake }) :=
    m.steady_change ⟨rfl, rfl⟩
  refine (steady_act (steady_isEntered b m.registers.attributes) _).bind fun (_, m₁) h => ?_
  have hentered : m.Steady m₁ := htaken.trans h
  refine .ite (fun _ => .pure (hentered.trans ?_)) fun _ => .pure hentered
  refine Steady.trans ?_ (steady_defer _ rfl)
  exact ⟨⟨rfl, rfl⟩, rfl⟩

theorem steady_printFound (s : Setting) (found : Except QueryError String) :
    (printFound s found).Steady := by
  cases found with
  | ok word => exact steady_print word
  | error e => exact .ite .throw (steady_print _)

theorem steady_query (s : Setting) (text : String) : (query s text).Steady := by
  unfold query
  split
  · exact .throw
  · next q _ =>
    -- What the source draws depends on the scene in which it is asked.
    refine ⟨fun scene x t h => ?_⟩
    let found := s.vocabulary.answer q scene.registers.generator scene.registers.carriers
    let asked : Registers := { scene.registers with generator := found.2.1, carriers := found.2.2 }
    have hasked : scene.registers.Steady asked := ⟨rfl, s.vocabulary.below_answer q _ _⟩
    exact hasked.trans ((steady_printFound s found.1).of_ok ⟨asked, scene.output⟩ x t h)

theorem steady_printArticles (n : Nat) : (printArticles n).Steady := by
  induction n with
  | zero => exact .pure
  | succ n ih => exact (steady_spend _).bind fun _ => ih

theorem steady_escape (literal : String) : (escape literal).Steady := by
  unfold escape
  split
  · exact .throw
  · exact steady_printArticles _
  · next count letter _ _ =>
    exact (steady_draw fun g => below_escapedOnto letter count g []).bind fun _ => steady_print _
  · exact steady_print _

theorem steady_scan (m : Machine s) (r : Scan α) : Ensures (m.scan r) fun x => m.Steady x.2 := by
  unfold scan
  split
  · exact .error
  · split
    · exact .error
    · exact .ok (m.steady_modifyTop fun _ => rfl)

theorem steady_readBlock (m : Machine s) : Ensures m.readBlock fun x => m.Steady x.2 := by
  unfold readBlock
  split
  · exact m.steady_scan _
  · dsimp only
    split
    · exact .pure (m.steady_modifyTop fun _ => rfl)
    · exact (m.steady_scan _).bind fun _ h => .pure (h.trans ⟨.refl _, rfl⟩)

/-- An action waits for passages. -/
theorem steady_await (m : Machine s) {action : Deferred} (h : action.isMerge = false)
    (ps : List Passage) : Ensures ((m.defer action).runApart ps) m.Steady :=
  ((m.defer action).steady_runApart ps).weaken fun _ => (m.steady_defer h).trans

/-- Arguments are run, if there are any, before anything is done. -/
theorem steady_takeAfter (m : Machine s) {action : Deferred} (haction : action.isMerge = false)
    {ps : List Passage} (h : ps ≠ []) : Ensures (m.takeAfter action ps) m.Steady := by
  cases ps with
  | nil => exact absurd rfl h
  | cons p ps => exact m.steady_await haction (p :: ps)

theorem steady_runCall (m : Machine s) (name : Token) (arguments : List Passage) :
    Ensures (m.runCall name arguments) m.Steady := by
  unfold runCall
  dsimp only
  split
  · exact .throw
  · refine .ite (fun _ => ?_) fun _ => .throw
    unfold takeAfter
    split
    · refine Ensures.weaken (steady_take (m.moveTo name.position) ?_) fun _ =>
        (m.steady_moveTo _).trans
      trivial
    · exact (steady_await (m.moveTo name.position) rfl _).weaken fun _ =>
        (m.steady_moveTo _).trans

theorem steady_runReplacer (m : Machine s) (literal : Token) (arguments : List Passage) :
    Ensures (m.runReplacer literal arguments) m.Steady := by
  unfold runReplacer
  dsimp only
  split
  · exact .throw
  · split
    · exact (steady_await (m.moveTo literal.position) rfl _).weaken fun _ =>
        (m.steady_moveTo _).trans
    · exact .throw

/-- What stands in square brackets is steady unless it is a tag. -/
theorem steady_runBracket (m : Machine s) (opener : Token) {b : Bracket}
    (h : ∀ name arguments, b ≠ .tag name arguments) : Ensures (m.runBracket opener b) m.Steady := by
  cases b with
  | definition isMeta name parameters body =>
    exact .ite (fun _ => m.steady_await rfl [body]) fun _ => .pure (m.steady_change ⟨rfl, rfl⟩)
  | call name arguments => exact m.steady_runCall name arguments
  | metapattern body => exact m.steady_await rfl [body]
  | replacer literal arguments => exact m.steady_runReplacer literal arguments
  | tag name arguments => exact absurd rfl (h name arguments)

/-- Tokens that open no square brackets are steady. -/
theorem steady_runToken (m : Machine s) {t : Token} (h : t.kind ≠ .leftSquare) :
    Ensures (m.runToken t) m.Steady := by
  unfold runToken
  split
  · exact m.steady_readBlock.bind fun (b, m₁) hm₁ =>
      (m₁.steady_enterBlock b).weaken fun _ => hm₁.trans
  · next hkind => exact absurd hkind h
  · exact (m.steady_scan _).bind fun ((_, code), m₁) hm₁ =>
      (m₁.steady_await rfl [code]).weaken fun _ => hm₁.trans
  · exact (m.steady_scan _).bind fun (code, m₁) hm₁ =>
      (steady_perform (steady_query s code.text) m₁).weaken fun _ => hm₁.trans
  · exact steady_perform (steady_escape t.text) m
  · exact steady_perform (steady_print _) m
  iterate 4 exact .throw
  · exact steady_perform (steady_print _) m

/-! ## Steps -/

/-- The next step takes an action: one that is due before the next token or behind the last one, or
the call of a tag that is about to be read, if none of its arguments is run first. `m₁` is the
machine without it. -/
inductive Takes (m : Machine s) : Deferred → Machine s → Prop
  | pre {f : Frame} {below : List Frame} {action : Deferred} {pre : List Deferred}
      (hframes : m.frames = f :: below) (hpre : f.pre = action :: pre) :
      Takes m action (m.modifyTop fun f => { f with pre := pre })
  | tag {f : Frame} {below : List Frame} {name : Token} {arguments : List Passage} {r : Reader}
      {entry : TagEntry} {called : Signature} {slots : List Slot}
      (hframes : m.frames = f :: below) (hfaces : f.Faces name arguments r)
      (hfind : TagEntry.find? name.text = some entry)
      (hcalled : entry.signature? arguments.length = some called)
      (hready : Slot.prepare s.shortcuts.literals called.takesCode 0 arguments = (slots, [])) :
      Takes m (.callTag called.tag name slots) ((m.withReader r).moveTo name.position)
  | post {f : Frame} {below : List Frame} {action : Deferred} {post : List Deferred}
      (hframes : m.frames = f :: below) (hpre : f.pre = []) (hread : f.reader.read? = none)
      (hpost : f.post = action :: post) :
      Takes m action (m.modifyTop fun f => { f with post := post })

namespace Takes

variable {action : Deferred}

theorem frames_ne_nil (h : m.Takes action m₁) : m.frames ≠ [] := by
  cases h <;> simp_all

theorem rest_ne_nil (h : m.Takes action m₁) : m₁.frames ≠ [] := by
  cases h <;> simp_all [modifyTop, withReader, moveTo]

theorem step (h : m.Takes action m₁) : m.step = m₁.take action := by
  cases h with
  | pre hframes hpre => exact step_take hframes hpre
  | tag hframes hfaces hfind hcalled hready =>
    rw [step_tag hframes hfaces, runTag_of_find hfind hcalled, hready]
    rfl
  | post hframes hpre hread hpost => simp only [Machine.step, hframes, hpre, hread, hpost]

/-- Nothing else happens before the action is taken. -/
theorem registers (h : m.Takes action m₁) : m₁.registers = m.registers := by
  cases h <;> rfl

/-- The action is no longer due. -/
theorem merges (h : m.Takes action m₁) :
    mergesDue m.frames = (if action.isMerge then 1 else 0) + mergesDue m₁.frames := by
  cases h with
  | pre hframes hpre =>
    simp only [modifyTop, hframes, List.modifyHead_cons, mergesDue_cons, Frame.pending, hpre,
      List.cons_append, List.countP_cons]
    omega
  | @tag _ _ _ _ r => exact (m.steady_withReader r).merges.symm.trans (Nat.zero_add _).symm
  | post hframes hpre _ hpost =>
    simp only [modifyTop, hframes, List.modifyHead_cons, mergesDue_cons, Frame.pending, hpre, hpost,
      List.nil_append, List.countP_cons]
    omega

end Takes

/-- The call of a tag with a text and some code that is due before the next token, if one is: the
tag, its name, its arguments, and then the innermost frame without the call and the frames below. -/
def due? (m : Machine s) : Option (Tag × Token × Slot × Passage × Frame × List Frame) :=
  match m.frames with
  | [] => none
  | f :: below =>
    match f.pre with
    | [.callTag tag name [x, .code code]] =>
      some (tag, name, x, code, { f with pre := [] }, below)
    | _ => none

theorem takes_of_due? {tag : Tag} {name : Token} {x : Slot} {code : Passage} {f : Frame}
    {below : List Frame} (h : m.due? = some (tag, name, x, code, f, below)) :
    m.Takes (.callTag tag name [x, .code code]) (m.modifyTop fun f => { f with pre := [] }) ∧
      (m.modifyTop fun f => { f with pre := [] }).frames = f :: below := by
  unfold due? at h
  split at h
  · cases h
  · next hframes =>
    split at h
    · next hpre =>
      cases h
      exact ⟨.pre hframes hpre, frames_modifyTop hframes _⟩
    · cases h

/-- A step that is not steady takes an action that is not. -/
def Breaks (m : Machine s) : Prop := ∃ action m₁, m.Takes action m₁ ∧ ¬action.IsSteady

theorem steady_or_breaks {action : Deferred} (h : m.Takes action m₁) :
    Ensures m.step fun m' => m.Steady m' ∨ m.Breaks := by
  by_cases hsteady : action.IsSteady
  · have htaken : m.Steady m₁ := ⟨.of_eq h.registers, by simp [h.merges, hsteady.isMerge]⟩
    rw [h.step]
    exact (m₁.steady_take hsteady).weaken fun _ hm => .inl (htaken.trans hm)
  · exact ⟨fun _ _ => .inr ⟨action, m₁, h, hsteady⟩⟩

/-- The step that reads a tag is steady, unless it calls the tag at once and that is not. -/
theorem step_tag_steady {f : Frame} {below : List Frame} {name : Token} {arguments : List Passage}
    {r : Reader} (hframes : m.frames = f :: below) (hfaces : f.Faces name arguments r) :
    Ensures m.step fun m' => m.Steady m' ∨ m.Breaks := by
  cases hfind : TagEntry.find? name.text with
  | none =>
    simp only [step_tag hframes hfaces, runTag, hfind]
    exact .throw
  | some entry =>
    cases hcalled : entry.signature? arguments.length with
    | none =>
      simp only [step_tag hframes hfaces, runTag, hfind, hcalled]
      exact .throw
    | some called =>
      cases hprepare : Slot.prepare s.shortcuts.literals called.takesCode 0 arguments with
      | mk slots passages =>
        cases passages with
        | nil => exact steady_or_breaks (.tag hframes hfaces hfind hcalled hprepare)
        | cons p ps =>
          rw [step_tag hframes hfaces, runTag_of_find hfind hcalled, hprepare]
          have hmoved : m.Steady ((m.withReader r).moveTo name.position) :=
            (m.steady_withReader r).trans (steady_moveTo _ _)
          exact (steady_takeAfter ((m.withReader r).moveTo name.position) rfl (by simp)).weaken
            fun _ h => .inl (hmoved.trans h)

/-- Every step is steady, unless it takes an action that is not. -/
theorem step_steady (m : Machine s) : Ensures m.step fun m' => m.Steady m' ∨ m.Breaks := by
  cases hframes : m.frames with
  | nil =>
    refine ⟨fun m' h => .inl ?_⟩
    simp only [step, hframes] at h
    cases h
    exact .refl _
  | cons f below =>
    cases hpre : f.pre with
    | cons action pre => exact steady_or_breaks (.pre hframes hpre)
    | nil =>
      cases hread : f.reader.read? with
      | none =>
        cases hpost : f.post with
        | cons action post => exact steady_or_breaks (.post hframes hpre hread hpost)
        | nil =>
          rw [step_pop hframes hpre hread hpost]
          refine .ok (.inl ⟨.refl _, ?_⟩)
          simp [pop, hframes, Frame.pending, hpre, hpost]
      | some read =>
        obtain ⟨t, r⟩ := read
        have hsteady : ∀ r', m.Steady ((m.moveTo t.position).withReader r') := fun r' =>
          (m.steady_moveTo t.position).trans (steady_withReader _ r')
        have hmoved : (m.moveTo t.position).frames ≠ [] :=
          List.ne_nil_of_mem (hframes ▸ List.mem_cons_self)
        by_cases ht : t.kind = .leftSquare
        · cases hbracket : Bracket.read Bracket.readReplacement r with
          | mk result r' =>
            cases result with
            | error e =>
              rw [step_read hframes hpre hread]
              simp only [runToken, ht, scan_withReader hmoved, hbracket]
              exact .error
            | ok b =>
              by_cases htag : ∃ name arguments, b = .tag name arguments
              · obtain ⟨name, arguments, rfl⟩ := htag
                exact step_tag_steady hframes ⟨hpre, t, r, hread, ht, hbracket⟩
              · rw [step_read hframes hpre hread, runToken_bracket hmoved ht hbracket]
                have hnone : ∀ name arguments, b ≠ .tag name arguments := fun name arguments hb =>
                  htag ⟨name, arguments, hb⟩
                exact (steady_runBracket ((m.moveTo t.position).withReader r') t hnone).weaken
                  fun _ h => .inl ((hsteady r').trans h)
        · rw [step_read hframes hpre hread]
          exact (steady_runToken ((m.moveTo t.position).withReader r) ht).weaken fun _ h =>
            .inl ((hsteady r).trans h)

/-! ## Tags that branch, merge or leave -/

section Calls

variable (m : Machine s) (name : Token) (slots : List Slot)

theorem take_branch : m.take (.callTag .branch name slots) = .ok (m.afterCall name slots
    ⟨{ m.registers with
      generator := m.registers.generator.branchNamed ((m.call name slots).text 0) },
        m.output⟩) := by
  rw [take_callTag, Tag.perform, run_draw_bind]
  rfl

theorem take_branchFor : m.take (.callTag .branchFor name slots) = (m.afterCall name slots
    ⟨{ m.registers with
      generator := m.registers.generator.branchNamed ((m.call name slots).text 0) },
        m.output⟩).follow ((m.call name slots).runThen 1 .merge) := by
  rw [take_callTag, Tag.perform, run_draw_bind]
  rfl

theorem take_merge : m.take (.callTag .merge name slots) =
    .ok (m.afterCall name slots ⟨m.registers.mergeBranch, m.output⟩) := by
  rw [take_callTag, Tag.perform, run_change_bind]
  rfl

theorem take_leave : m.take (.callTag .leave name slots) =
    .ok (m.afterCall name slots ⟨m.registers, m.output⟩).leave := by
  rw [take_callTag, Tag.perform]
  rfl

end Calls

end Machine

end Wordsmith
