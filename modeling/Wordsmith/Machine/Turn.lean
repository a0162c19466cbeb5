import Wordsmith.Machine.Perform

/-!
# What acts do to a scene

Whatever a tag or a token does in its scene, it does in turns: it writes, it opens, visits or marks
something in the output, or it changes what the registers remember. None of this touches the
repeaters, the arguments, the comparisons and the matches, whose stacks belong to the frames. The
one exception is the tag that compares, which puts a comparison on its stack, and asks for it to be
dropped later.

Main results: `Call.turns_…` for what calls have in common, and `conducts_perform` for all tags.
-/

namespace Wordsmith

/-! ## Turns -/

/-- The registers differ in what no stack of the frames and no budget is made of. -/
structure Registers.Resembles (r r' : Registers) : Prop where
  repeaters : r'.repeaters = r.repeaters
  comparisons : r'.comparisons = r.comparisons
  arguments : r'.arguments = r.arguments
  matched : r'.matched = r.matched
  budget : r'.budget = r.budget

namespace Scene

/-- An elementary change of a scene. -/
inductive Turn : Scene → Scene → Prop
  | memory {r r' : Registers} {o : ChannelStack} (h : r.Resembles r') : Turn ⟨r, o⟩ ⟨r', o⟩
  | mode {r : Registers} {o : ChannelStack} (mode : CaseMode) : Turn ⟨r, o⟩ ⟨r, o.setMode mode⟩
  | visit {r : Registers} {o : ChannelStack} (name : String) (visibility : Visibility) :
      Turn ⟨r, o⟩ ⟨r, o.push name visibility⟩
  | close {r : Registers} {o : ChannelStack} (name : String) : Turn ⟨r, o⟩ ⟨r, o.pop name⟩
  | mark {r : Registers} {o : ChannelStack} (name : String) : Turn ⟨r, o⟩ ⟨r, o.setMarker name⟩
  | target {r : Registers} {o : ChannelStack} (name : String) :
      Turn ⟨r, o⟩ ⟨r, o.createTarget name⟩
  | clear {r : Registers} {o : ChannelStack} (name : String) :
      Turn ⟨r, o⟩ ⟨r, o.clearTarget name⟩
  | print {r : Registers} {o o' : ChannelStack} {b : Budget} (text : String)
      (h : o.write text r.budget = .ok (o', b)) : Turn ⟨r, o⟩ ⟨{ r with budget := b }, o'⟩
  | article {r : Registers} {o o' : ChannelStack} {b : Budget}
      (h : o.writeArticle r.budget = .ok (o', b)) : Turn ⟨r, o⟩ ⟨{ r with budget := b }, o'⟩
  | send {r : Registers} {o o' : ChannelStack} {b : Budget} (name value : String)
      (overwrite : Bool) (h : o.writeTarget name value overwrite r.budget = .ok (o', b)) :
      Turn ⟨r, o⟩ ⟨{ r with budget := b }, o'⟩

/-- One scene comes out of another by turns. -/
inductive Turns : Scene → Scene → Prop
  | refl (s : Scene) : Turns s s
  | tail {s t u : Scene} (hst : Turns s t) (htu : Turn t u) : Turns s u

namespace Turns

theorem single {s t : Scene} (h : Turn s t) : Turns s t := .tail (.refl s) h

theorem trans {s t u : Scene} (hst : Turns s t) (htu : Turns t u) : Turns s u := by
  induction htu with
  | refl => exact hst
  | tail _ h ih => exact .tail ih h

/-- What every turn keeps, turns keep. -/
theorem keeps {P : Scene → Prop} (hP : ∀ s t, Turn s t → P s → P t) {s t : Scene}
    (h : Turns s t) (hs : P s) : P t := by
  induction h with
  | refl => exact hs
  | tail _ h ih => exact hP _ _ h ih

/-- Turns leave the stacks of the frames alone. -/
theorem keeps_stacks {s t : Scene} (h : Turns s t) :
    t.registers.repeaters = s.registers.repeaters ∧
      t.registers.comparisons = s.registers.comparisons ∧
      t.registers.arguments = s.registers.arguments ∧
      t.registers.matched = s.registers.matched := by
  induction h with
  | refl => exact ⟨rfl, rfl, rfl, rfl⟩
  | tail _ h ih =>
    cases h with
    | memory h =>
      obtain ⟨h₁, h₂, h₃, h₄⟩ := ih
      exact ⟨h.repeaters.trans h₁, h.comparisons.trans h₂, h.arguments.trans h₃,
        h.matched.trans h₄⟩
    | _ => exact ih

end Turns

end Scene

open Scene

/-! ## Acts -/

namespace Act

variable {α β : Type}

/-- If the act succeeds, the scene before, its result and the scene after fulfil a condition. -/
structure Makes (a : Act α) (P : Scene → α → Scene → Prop) : Prop where
  of_ok : ∀ s x t, a s = .ok (x, t) → P s x t

/-- If the act succeeds, the scene came out of the former by turns. -/
def Turns (a : Act α) : Prop := a.Makes fun s _ t => Scene.Turns s t

namespace Makes

variable {P Q : Scene → α → Scene → Prop}

theorem weaken {a : Act α} (h : a.Makes P) (hPQ : ∀ s x t, P s x t → Q s x t) : a.Makes Q :=
  ⟨fun s x t ha => hPQ s x t (h.of_ok s x t ha)⟩

theorem pure {x : α} (h : ∀ s, P s x s) : (Pure.pure x : Act α).Makes P := by
  refine ⟨fun s y t ha => ?_⟩
  cases ha
  exact h s

theorem throw {e : Fault} : (MonadExcept.throw e : Act α).Makes P := ⟨fun _ _ _ ha => nomatch ha⟩

/-- A condition after turns that have been taken already. -/
theorem after {a : Act α} {f : α → Act β} {R : Scene → β → Scene → Prop} (ha : a.Turns)
    (hf : ∀ x, (f x).Makes R) (hR : ∀ s t y u, Scene.Turns s t → R t y u → R s y u) :
    (a >>= f).Makes R := by
  refine ⟨fun s y u hy => ?_⟩
  simp only [Bind.bind, StateT.bind, Except.bind] at hy
  split at hy
  · cases hy
  · next v hv =>
    exact hR s v.2 y u (ha.of_ok s v.1 v.2 hv) ((hf v.1).of_ok v.2 y u hy)

end Makes

namespace Turns

theorem pure {x : α} : (Pure.pure x : Act α).Turns := Makes.pure fun s => .refl s

theorem throw {e : Fault} : (MonadExcept.throw e : Act α).Turns := Makes.throw

theorem bind {a : Act α} {f : α → Act β} (ha : a.Turns) (hf : ∀ x, (f x).Turns) :
    (a >>= f).Turns :=
  Makes.after ha hf fun _ _ _ _ => .trans

theorem ite {c : Prop} [Decidable c] {a b : Act α} (ha : a.Turns) (hb : b.Turns) :
    (if c then a else b).Turns := by
  split
  · exact ha
  · exact hb

theorem foldlM {f : β → α → Act β} (hf : ∀ b a, (f b a).Turns) (l : List α) (b : β) :
    (l.foldlM f b).Turns := by
  induction l generalizing b with
  | nil => exact pure
  | cons a l ih => exact (hf b a).bind ih

end Turns

/-! ## Single acts -/

theorem turns_get : (MonadState.get : Act Scene).Turns := ⟨fun s _ _ h => by
  cases h
  exact .refl s⟩

theorem turns_read (f : Registers → α) : (read f).Turns := turns_get.bind fun _ => .pure

theorem turns_change (f : Registers → Registers) (h : ∀ r : Registers, r.Resembles (f r)) :
    (change f).Turns := ⟨fun s _ _ hs => by
  cases hs
  exact .single (.memory (h s.registers))⟩

theorem turns_draw (f : Generator → α × Generator) : (draw f).Turns := ⟨fun _ _ _ hs => by
  cases hs
  exact .single (.memory ⟨rfl, rfl, rfl, rfl, rfl⟩)⟩

theorem turns_shape (f : Attributes → Attributes) : (shape f).Turns :=
  turns_change _ fun _ => ⟨rfl, rfl, rfl, rfl, rfl⟩

theorem turns_order (f : SharedOrders → α × SharedOrders) : (order f).Turns := ⟨fun _ _ _ hs => by
  cases hs
  exact .single (.memory ⟨rfl, rfl, rfl, rfl, rfl⟩)⟩

theorem turns_channels {f : ChannelStack → ChannelStack}
    (h : ∀ r o, Turn ⟨r, o⟩ ⟨r, f o⟩) : (channels f).Turns := ⟨fun s _ _ hs => by
  cases hs
  exact .single (h s.registers s.output)⟩

theorem turns_spend {f : ChannelStack → Budget → Except LimitExceeded (ChannelStack × Budget)}
    (h : ∀ r o o' b, f o r.budget = .ok (o', b) → Turn ⟨r, o⟩ ⟨{ r with budget := b }, o'⟩) :
    (spend f).Turns := by
  refine ⟨fun s _ _ hs => ?_⟩
  simp only [spend] at hs
  split at hs
  · cases hs
  · next o' b hf =>
    cases hs
    exact .single (h s.registers s.output o' b hf)

theorem turns_print (text : String) : (print text).Turns := turns_spend fun _ _ _ _ => .print text

theorem turns_printArticle : printArticle.Turns := turns_spend fun _ _ _ _ => .article

theorem turns_printInteger (n : Int) : (printInteger n).Turns :=
  (turns_read _).bind fun _ => turns_print _

theorem turns_printValue (x : Float) : (printValue x).Turns := by
  unfold printValue
  split
  · exact turns_printInteger _
  · exact turns_print _

end Act

/-! ## Calls -/

/-- The run goes on within its block, and not with a comparison to be dropped. -/
def Next.IsPlain : Next → Prop
  | .leave | .runThen _ .dropComparison => False
  | _ => True

/-- The act takes turns, and the run goes on plainly. -/
def Act.Proceeds (a : Act Next) : Prop := a.Makes fun s next t => next.IsPlain ∧ Scene.Turns s t

namespace Act

variable {α : Type}

theorem Proceeds.pure {next : Next} (h : next.IsPlain) : (Pure.pure next : Act Next).Proceeds :=
  Makes.pure fun s => ⟨h, .refl s⟩

theorem Proceeds.throw {e : Fault} : (MonadExcept.throw e : Act Next).Proceeds := Makes.throw

theorem Proceeds.ite {c : Prop} [Decidable c] {a b : Act Next} (ha : a.Proceeds)
    (hb : b.Proceeds) : (if c then a else b).Proceeds := by
  split
  · exact ha
  · exact hb

theorem Turns.proceed {a : Act α} {f : α → Act Next} (ha : a.Turns)
    (hf : ∀ x, (f x).Proceeds) : (a >>= f).Proceeds :=
  Makes.after ha hf fun _ _ _ _ hst ⟨hnext, htu⟩ => ⟨hnext, hst.trans htu⟩

/-- Turns after it is clear how the run goes on. -/
theorem Proceeds.andTurns {a : Act Next} {b : Act α} (ha : a.Proceeds) (hb : b.Turns) :
    (a >>= fun next => b >>= fun _ => Pure.pure next).Proceeds := by
  refine ⟨fun s next u h => ?_⟩
  simp only [Bind.bind, StateT.bind, Except.bind] at h
  split at h
  · cases h
  · next x t hx =>
    split at h
    · cases h
    · next y v hy =>
      cases h
      obtain ⟨hnext, hst⟩ := ha.of_ok _ _ _ hx
      exact ⟨hnext, hst.trans (hb.of_ok _ _ _ hy)⟩

theorem Turns.stay {a : Act α} (ha : a.Turns) :
    (a >>= fun _ => Pure.pure Next.stay).Proceeds :=
  ha.proceed fun _ => .pure trivial

end Act

open Act

namespace Call

variable {α : Type}

theorem run_isPlain (c : Call) (i : Nat) : (c.run i).IsPlain := by
  unfold run
  split <;> trivial

theorem turns_complain (c : Call) (complaint : Complaint) :
    (c.complain complaint : Act α).Turns := .throw

theorem turns_integer (c : Call) (value : String) : (c.integer value).Turns := by
  unfold integer
  split
  · exact .pure
  · exact c.turns_complain _

theorem turns_choice (c : Call) (i : Nat) (read : String → Except String α) :
    (c.choice i read).Turns := by
  unfold choice
  split
  · exact .pure
  · exact c.turns_complain _

theorem proceeds_repetitions (c : Call) : c.repetitions.Proceeds := by
  unfold repetitions
  dsimp only
  split
  · exact (turns_shape _).stay
  · refine (c.turns_integer _).proceed fun n => ?_
    split
    · exact (c.turns_complain _).stay
    · exact (turns_shape _).stay

theorem proceeds_chance (c : Call) : c.chance.Proceeds := by
  unfold chance
  dsimp only
  split
  · exact (turns_shape _).stay
  · exact (c.turns_complain _).stay

theorem proceeds_printRepeater (c : Call) (f : Repeater → Nat) :
    (c.printRepeater f).Proceeds := by
  refine (turns_read _).proceed fun r => ?_
  split
  · exact (turns_printInteger _).stay
  · exact (c.turns_complain _).stay

theorem proceeds_runIf (c : Call) (i : Nat) (holds : Repeater → Bool) :
    (c.runIf i holds).Proceeds := by
  refine (turns_read _).proceed fun r => .pure ?_
  split
  · exact c.run_isPlain i
  · trivial

theorem proceeds_runIfNth (c : Call) (i : Nat) (interval offset : String) :
    (c.runIfNth i interval offset).Proceeds := by
  refine (c.turns_integer _).proceed fun _ => (c.turns_integer _).proceed fun _ => ?_
  exact .ite .throw (.ite .throw (c.proceeds_runIf i _))

theorem proceeds_requireOrder (name : String) (known : Bool) :
    (requireOrder name known).Proceeds :=
  .ite (.pure trivial) .throw

theorem turns_createOrder (c : Call) : c.createOrder.Turns :=
  (c.turns_choice _ _).bind fun _ => (turns_read _).bind fun _ => turns_order _

theorem turns_bindOrder (name : String) : (bindOrder name).Turns := turns_shape _

theorem turns_measure (c : Call) (f : ChannelStack → String → String → Option α) :
    (c.measure f).Turns := by
  refine turns_get.bind fun s => ?_
  split
  · exact .pure
  · exact .throw

theorem turns_send (c : Call) (overwrite : Bool) : (c.send overwrite).Turns :=
  turns_spend fun _ _ _ _ => .send _ _ _

theorem turns_hook (c : Call) (s : Setting) : (c.hook s).Turns := by
  unfold hook
  split
  · exact turns_print _
  · exact .throw

theorem turns_printCharacters (c : Call) (count : Nat) : (c.printCharacters count).Turns := by
  unfold printCharacters
  split
  · exact (turns_draw _).bind fun _ => turns_print _
  · exact c.turns_complain _

theorem turns_printCountedCharacters (c : Call) : c.printCountedCharacters.Turns :=
  (c.turns_integer _).bind fun _ => .ite (c.turns_complain _) (c.turns_printCharacters _)

theorem turns_printNumber (c : Call) : c.printNumber.Turns :=
  (c.turns_integer _).bind fun _ => (c.turns_integer _).bind fun _ =>
    .ite (c.turns_complain _) ((turns_draw _).bind fun _ => turns_printInteger _)

theorem proceeds_argument (c : Call) : c.argument.Proceeds := by
  refine (turns_read _).proceed fun tables => ?_
  split
  · exact (turns_print _).stay
  · exact .pure trivial
  · exact .throw

theorem proceeds_branchOn (c : Call) (holds : Bool) : (c.branchOn holds).Proceeds := by
  refine (turns_change (fun r => { r with elseArmed := !holds }) fun _ =>
    ⟨rfl, rfl, rfl, rfl, rfl⟩).proceed fun _ => .pure ?_
  split
  · exact c.run_isPlain 1
  · trivial

theorem turns_anyHolds (c : Call) : c.anyHolds.Turns := by
  refine (turns_read _).bind fun comparisons => ?_
  split
  · exact c.turns_complain _
  · refine Turns.foldlM (fun found condition => ?_) _ _
    split
    · exact .pure
    · exact c.turns_complain _

end Call

/-! ## Tags -/

/-- What a tag does to its scene, given how the run goes on after it. A comparison is there for as
long as the code after it runs, and a tag that leaves a block does nothing else. -/
def Next.Conducts (next : Next) (s t : Scene) : Prop :=
  match next with
  | .runThen _ .dropComparison =>
    ∃ c, t = ⟨{ s.registers with comparisons := c :: s.registers.comparisons }, s.output⟩
  | .leave => t = s
  | _ => Scene.Turns s t

namespace Registers

theorem resembles_setFlag (r : Registers) (flag : String) : r.Resembles (r.setFlag flag) := by
  unfold setFlag
  split <;> exact ⟨rfl, rfl, rfl, rfl, rfl⟩

theorem resembles_clearFlag (r : Registers) (flag : String) : r.Resembles (r.clearFlag flag) :=
  ⟨rfl, rfl, rfl, rfl, rfl⟩

theorem Resembles.trans {r₁ r₂ r₃ : Registers} (h₁ : r₁.Resembles r₂) (h₂ : r₂.Resembles r₃) :
    r₁.Resembles r₃ :=
  ⟨h₂.repeaters.trans h₁.repeaters, h₂.comparisons.trans h₁.comparisons,
    h₂.arguments.trans h₁.arguments, h₂.matched.trans h₁.matched, h₂.budget.trans h₁.budget⟩

theorem resembles_foldl {α : Type} {f : Registers → α → Registers}
    (hf : ∀ (r : Registers) a, r.Resembles (f r a)) (l : List α) (r : Registers) :
    r.Resembles (l.foldl f r) := by
  induction l generalizing r with
  | nil => exact ⟨rfl, rfl, rfl, rfl, rfl⟩
  | cons a l ih => exact (hf r a).trans (ih (f r a))

end Registers

namespace Tag

/-- Whatever a tag does, it takes turns, but for a comparison that goes on its stack. -/
theorem conducts_perform (s : Setting) (source : String) (c : Call) (tag : Tag) :
    (tag.perform s source c).Makes fun s next t => next.Conducts s t := by
  have plain : ∀ {a : Act Next}, a.Proceeds → a.Makes fun s next t => next.Conducts s t := by
    refine fun h => h.weaken fun s next t ⟨hnext, ht⟩ => ?_
    cases next with
    | stay => exact ht
    | run p => exact ht
    | runThen code q => cases q <;> first | exact ht | exact hnext.elim
    | leave => exact hnext.elim
  cases tag with
  | leave => exact .pure fun _ => rfl
  | compare =>
    refine ⟨fun s next t h => ?_⟩
    cases h
    exact ⟨_, rfl⟩
  | repetitions => exact plain c.proceeds_repetitions
  | separator | before | after | unbindOrder => exact plain (turns_shape _).stay
  | chance => exact plain c.proceeds_chance
  | persistence => exact plain ((c.turns_choice _ _).proceed fun _ => (turns_shape _).stay)
  | repetitionNumber | repetitionIndex | repetitionCount =>
    exact plain (c.proceeds_printRepeater _)
  | ifFirst | ifLast | ifMiddle | unlessFirst | unlessLast | unlessMiddle | ifOdd | ifEven =>
    exact plain (c.proceeds_runIf _ _)
  | ifNth | ifNthFrom => exact plain (c.proceeds_runIfNth _ _ _)
  | bindOrder =>
    exact plain ((turns_read _).proceed fun _ =>
      (Call.proceeds_requireOrder _ _).andTurns (Call.turns_bindOrder _))
  | createBoundOrder =>
    exact plain (c.turns_createOrder.proceed fun _ => (Call.turns_bindOrder _).stay)
  | createOrder => exact plain c.turns_createOrder.stay
  | resetOrder | reseedOrder | stepOrder =>
    exact plain ((turns_order _).proceed fun _ => Call.proceeds_requireOrder _ _)
  | pinOrder | unpinOrder => exact plain (turns_order _).stay
  | branch => exact plain (turns_draw _).stay
  | branchFor => exact plain ((turns_draw _).proceed fun _ => .pure trivial)
  | merge => exact plain (turns_change (·.mergeBranch) fun _ => ⟨rfl, rfl, rfl, rfl, rfl⟩).stay
  | generation => exact plain ((turns_read _).proceed fun _ => (turns_print _).stay)
  | setGeneration =>
    refine plain ?_
    dsimp only [perform]
    split
    · exact (turns_draw _).stay
    · exact (c.turns_complain _).stay
  | ifNothing | ifAnything =>
    refine plain (turns_get.proceed fun _ => .pure ?_)
    unfold Call.test
    split <;> trivial
  | argument => exact plain c.proceeds_argument
  | wholeMatch | matchGroup =>
    refine plain ((turns_read _).proceed fun _ => ?_)
    split
    · exact (turns_print _).stay
    · exact .pure trivial
  | caseMode =>
    exact plain ((c.turns_choice _ _).proceed fun mode =>
      (turns_channels fun _ _ => .mode mode).stay)
  | inferCaseMode =>
    refine plain ?_
    dsimp only [perform]
    split
    · exact (turns_channels fun _ _ => .mode _).stay
    · exact .pure trivial
  | numberFormat =>
    exact plain ((c.turns_choice _ _).proceed fun format =>
      (turns_change (fun r => { r with numberFormat := format }) fun _ =>
        ⟨rfl, rfl, rfl, rfl, rfl⟩).stay)
  | visit => exact plain (turns_channels fun _ _ => .visit _ _).stay
  | visitAs =>
    exact plain ((c.turns_choice _ _).proceed fun _ =>
      (turns_channels fun _ _ => .visit _ _).stay)
  | close => exact plain (turns_channels fun _ _ => .close _).stay
  | mark => exact plain (turns_channels fun _ _ => .mark _).stay
  | distance => exact plain ((c.turns_measure _).proceed fun _ => (turns_printInteger _).stay)
  | copy => exact plain ((c.turns_measure _).proceed fun _ => (turns_print _).stay)
  | target => exact plain (turns_channels fun _ _ => .target _).stay
  | send | overwrite => exact plain (c.turns_send _).stay
  | clearTarget => exact plain (turns_channels fun _ _ => .clear _).stay
  | article => exact plain turns_printArticle.stay
  | hook => exact plain (c.turns_hook s).stay
  | length => exact plain (turns_printInteger _).stay
  | character => exact plain (c.turns_printCharacters _).stay
  | characters => exact plain c.turns_printCountedCharacters.stay
  | number => exact plain c.turns_printNumber.stay
  | fraction => exact plain ((turns_draw _).proceed fun _ => (turns_print _).stay)
  | code => exact plain (turns_print _).stay
  | define =>
    exact plain (turns_change _ fun r =>
      Registers.resembles_foldl Registers.resembles_setFlag _ r).stay
  | undefine =>
    exact plain (turns_change _ fun r =>
      Registers.resembles_foldl Registers.resembles_clearFlag _ r).stay
  | ifDefined | unlessDefined =>
    exact plain ((turns_read _).proceed fun _ => c.proceeds_branchOn _)
  | otherwise =>
    refine plain ((turns_read _).proceed fun armed => ?_)
    split
    · exact (turns_change (fun r => { r with elseArmed := false }) fun _ =>
        ⟨rfl, rfl, rfl, rfl, rfl⟩).proceed fun _ => .pure (c.run_isPlain 0)
    · exact .pure trivial
  | ifCompared => exact plain (c.turns_anyHolds.proceed fun _ => c.proceeds_branchOn _)

end Tag

end Wordsmith
