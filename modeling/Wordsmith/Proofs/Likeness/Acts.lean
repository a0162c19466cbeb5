import Wordsmith.Machine.Perform
import Wordsmith.Proofs.Likeness.Standard

/-!
# Acts alike

What a tag does depends on the texts of its arguments and on what the registers remember, and code
is handed on as it is. So calls that are alike do the same in scenes that are alike, fail with the
same fault or go on alike. None of the faults says that a tag, a query or a regular expression
cannot be read.

Main results: `Act.Agrees` for what acts have in common, and `Tag.agrees_perform` for all tags.
-/

namespace Wordsmith

variable {S : Standard} {d : Nat}

/-! ## Faults -/

/-- The fault is no unknown tag, no wrong number of arguments, and it complains neither about a
query nor about a regular expression. -/
def Fault.IsMild : Fault → Prop
  | .unknownName kind _ => kind ≠ .tag
  | .arity _ _ => False
  | .invalidArgument name _ => name ≠ "query" ∧ name ≠ "regex"
  | .exceeded _ | .queryFailed _ => True

/-- The faults are the same, and mild unless the standard is lax. -/
def Fault.Like (S : Standard) (f f' : Fault) : Prop := f = f' ∧ (S.isLax ∨ f.IsMild)

theorem Fault.Like.of_isMild {f : Fault} (h : f.IsMild) : f.Like S f := ⟨rfl, .inr h⟩

/-- No tag is called like what complaints about queries and regular expressions name. -/
theorem TagEntry.ne_of_find?_isSome {name : String} (h : (find? name).isSome) :
    name ≠ "query" ∧ name ≠ "regex" := by
  have hquery : find? "query" = none := by decide +kernel
  have hregex : find? "regex" = none := by decide +kernel
  constructor
  · rintro rfl
    simp [hquery] at h
  · rintro rfl
    simp [hregex] at h

/-! ## Scenes -/

/-- The registers are alike and the outputs are the same. -/
structure Scene.Like (S : Standard) (d : Nat) (t t' : Scene) : Prop where
  registers : t.registers.Like S d t'.registers
  output : t.output = t'.output

namespace ChannelStack

variable {b b' : Budget}

/-- The outputs are the same and the budgets alike. -/
abbrev Written (x y : ChannelStack × Budget) : Prop := x.1 = y.1 ∧ x.2.Like y.2

theorem write_like (o : ChannelStack) (text : String) (h : b.Like b') :
    Matches Eq Written (o.write text b) (o.write text b') := by
  unfold write
  split
  · exact .ok ⟨rfl, h⟩
  · have hspend := h.spend (total (o.ofActive fun c => (c.prepare text).cost))
    generalize b.spend _ = x, b'.spend _ = x' at hspend
    cases hspend with
    | ok h => exact .ok ⟨rfl, h⟩
    | error h => exact .error h

theorem writeArticle_like (o : ChannelStack) (h : b.Like b') :
    Matches Eq Written (o.writeArticle b) (o.writeArticle b') := by
  unfold writeArticle
  have hspend := h.spend o.active.length
  generalize b.spend _ = x, b'.spend _ = x' at hspend
  cases hspend with
  | ok h => exact .ok ⟨rfl, h⟩
  | error h => exact .error h

theorem writeTarget_like (o : ChannelStack) (name value : String) (overwrite : Bool)
    (h : b.Like b') :
    Matches Eq Written (o.writeTarget name value overwrite b)
      (o.writeTarget name value overwrite b') := by
  unfold writeTarget
  have hspend := h.spend (total (o.ofActive fun c => c.targetCost name value overwrite))
  generalize b.spend _ = x, b'.spend _ = x' at hspend
  cases hspend with
  | ok h => exact .ok ⟨rfl, h⟩
  | error h => exact .error h

end ChannelStack

/-! ## Acts -/

namespace Act

variable {α α' β β' γ : Type}

/-- In scenes that are alike, the acts fail with the same fault, or have related results and leave
scenes that are alike. -/
structure Agrees (S : Standard) (d : Nat) (R : α → α' → Prop) (a : Act α) (a' : Act α') : Prop where
  from_alike : ∀ t t', t.Like S d t' →
    Matches (Fault.Like S) (fun x y => R x.1 y.1 ∧ x.2.Like S d y.2) (a t) (a' t')

namespace Agrees

variable {R : α → α' → Prop} {T : β → β' → Prop} {a b : Act α} {a' b' : Act α'}

theorem pure {x : α} {x' : α'} (h : R x x') :
    Agrees S d R (Pure.pure x : Act α) (Pure.pure x' : Act α') := ⟨fun _ _ ht => .ok ⟨h, ht⟩⟩

theorem throw {f : Fault} (h : f.IsMild) :
    Agrees S d R (MonadExcept.throw f : Act α) (MonadExcept.throw f : Act α') :=
  ⟨fun _ _ _ => .error (.of_isMild h)⟩

theorem bind {f : α → Act β} {f' : α' → Act β'} (ha : Agrees S d R a a')
    (hf : ∀ x x', R x x' → Agrees S d T (f x) (f' x')) : Agrees S d T (a >>= f) (a' >>= f') :=
  ⟨fun t t' ht => (ha.from_alike t t' ht).bind fun _ _ h => (hf _ _ h.1).from_alike _ _ h.2⟩

theorem ite {c : Prop} [Decidable c] (ha : Agrees S d R a a') (hb : Agrees S d R b b') :
    Agrees S d R (if c then a else b) (if c then a' else b') := by
  split
  · exact ha
  · exact hb

theorem foldlM {f f' : α → γ → Act α} (hf : ∀ x c, Agrees S d Eq (f x c) (f' x c)) (l : List γ)
    (x : α) : Agrees S d Eq (l.foldlM f x) (l.foldlM f' x) := by
  induction l generalizing x with
  | nil => exact pure rfl
  | cons c l ih =>
    refine (hf x c).bind fun y _ h => ?_
    subst h
    exact ih y

/-- The result of an act is the same on both sides, and the acts behind it agree. -/
theorem andThen {a a' : Act α} {f : α → Act β} {f' : α → Act β'} (ha : Agrees S d Eq a a')
    (hf : ∀ x, Agrees S d T (f x) (f' x)) : Agrees S d T (a >>= f) (a' >>= f') :=
  ha.bind fun x _ h => h ▸ hf x

end Agrees

theorem agrees_get : Agrees S d (Scene.Like S d) MonadState.get MonadState.get :=
  ⟨fun _ _ ht => .ok ⟨ht, ht⟩⟩

theorem agrees_read {R : α → α' → Prop} {f : Registers → α} {f' : Registers → α'}
    (h : ∀ r r', Registers.Like S d r r' → R (f r) (f' r')) : Agrees S d R (read f) (read f') :=
  agrees_get.bind fun _ _ ht => .pure (h _ _ ht.registers)

theorem agrees_change {f f' : Registers → Registers}
    (h : ∀ r r', Registers.Like S d r r' → (f r).Like S d (f' r')) :
    Agrees S d Eq (change f) (change f') :=
  ⟨fun _ _ ht => .ok ⟨rfl, h _ _ ht.registers, ht.output⟩⟩

theorem agrees_draw (f : Generator → α × Generator) : Agrees S d Eq (draw f) (draw f) :=
  ⟨fun t t' ht => by
    have hg := ht.registers.generator
    exact .ok ⟨congrArg (fun g => (f g).1) hg,
      { ht.registers with generator := congrArg (fun g => (f g).2) hg }, ht.output⟩⟩

theorem agrees_shape {f f' : Attributes → Attributes}
    (h : ∀ a a', Attributes.Like S a a' → (f a).Like S (f' a')) :
    Agrees S d Eq (shape f) (shape f') :=
  agrees_change fun _ _ hr => { hr with attributes := h _ _ hr.attributes }

theorem agrees_order (f : SharedOrders → α × SharedOrders) : Agrees S d Eq (order f) (order f) :=
  ⟨fun t t' ht => by
    have ho := ht.registers.orders
    exact .ok ⟨congrArg (fun o => (f o).1) ho,
      { ht.registers with orders := congrArg (fun o => (f o).2) ho }, ht.output⟩⟩

theorem agrees_channels (f : ChannelStack → ChannelStack) :
    Agrees S d Eq (channels f) (channels f) :=
  ⟨fun _ _ ht => .ok ⟨rfl, ht.registers, congrArg f ht.output⟩⟩

theorem agrees_spend {f : ChannelStack → Budget → Except LimitExceeded (ChannelStack × Budget)}
    (h : ∀ o b b', Budget.Like b b' → Matches Eq ChannelStack.Written (f o b) (f o b')) :
    Agrees S d Eq (spend f) (spend f) := by
  refine ⟨fun t t' ht => ?_⟩
  have hspend := h t.output _ _ ht.registers.budget
  rw [spend, spend, ← ht.output]
  generalize f t.output t.registers.budget = x, f t.output t'.registers.budget = x' at hspend
  cases hspend with
  | ok h => exact .ok ⟨rfl, { ht.registers with budget := h.2 }, h.1⟩
  | error h =>
    subst h
    exact .error (.of_isMild trivial)

theorem agrees_print (text : String) : Agrees S d Eq (print text) (print text) :=
  agrees_spend fun o _ _ => o.write_like text

theorem agrees_printArticle : Agrees S d Eq printArticle printArticle :=
  agrees_spend fun o _ _ => o.writeArticle_like

theorem agrees_printInteger (n : Int) : Agrees S d Eq (printInteger n) (printInteger n) :=
  .andThen (agrees_read fun _ _ h => h.numberFormat) fun _ => agrees_print _

theorem agrees_printValue (x : Float) : Agrees S d Eq (printValue x) (printValue x) := by
  unfold printValue
  split
  · exact agrees_printInteger _
  · exact agrees_print _

end Act

/-! ## Calls -/

/-- The run goes on the same way, with code that is alike. -/
inductive Next.Like (S : Standard) : Next → Next → Prop
  | stay : Like S .stay .stay
  | run {p q : Passage} (h : p.Like S q) : Like S (.run p) (.run q)
  | runThen {code code' : Option Passage} {q q' : Sequel}
      (hcode : Option.Rel (Passage.Like S) code code') (hq : q.Like S q') :
    Like S (.runThen code q) (.runThen code' q')
  | leave : Like S .leave .leave

/-- The calls are by one name, with arguments that are alike. Where the standard is not lax, the
name is that of a tag. -/
structure Call.Like (S : Standard) (c c' : Call) : Prop where
  name : c'.name = c.name
  known : S.isLax ∨ (TagEntry.find? c.name).isSome
  arguments : List.Forall₂ (Argument.Like S) c.arguments c'.arguments

open Act

theorem Act.Agrees.stay {α : Type} {a a' : Act α} (ha : Agrees S d Eq a a') :
    Agrees S d (Next.Like S) (a >>= fun _ => Pure.pure Next.stay)
      (a' >>= fun _ => Pure.pure Next.stay) :=
  ha.andThen fun _ => .pure .stay

namespace Call.Like

variable {c c' : Call} {α : Type}

theorem argument? (h : c.Like S c') (i : Nat) :
    Option.Rel (Argument.Like S) c.arguments[i]? c'.arguments[i]? := by
  have hall := h.arguments
  generalize c.arguments = l, c'.arguments = l' at hall
  induction hall generalizing i with
  | nil => exact .none
  | cons h _ ih =>
    cases i with
    | zero => exact .some h
    | succ i => exact ih i

theorem raw (h : c.Like S c') (i : Nat) : c'.raw i = c.raw i := by
  have harg := h.argument? i
  simp only [Call.raw]
  generalize c.arguments[i]? = x, c'.arguments[i]? = y at harg
  cases harg with
  | none => rfl
  | some h => cases h <;> rfl

theorem text (h : c.Like S c') (i : Nat) : c'.text i = c.text i := by
  rw [Call.text, Call.text, h.raw]

theorem texts (h : c.Like S c') : c'.texts = c.texts := by
  rw [Call.texts, Call.texts, h.arguments.length_eq]
  exact List.map_congr_left fun i _ => h.raw i

theorem conditions (h : c.Like S c') : c'.conditions = c.conditions := by
  rw [Call.conditions, Call.conditions, h.text]

theorem markerPair (h : c.Like S c') : c'.markerPair = c.markerPair := by
  rw [Call.markerPair, Call.markerPair, h.text, h.text]

theorem code? (h : c.Like S c') (i : Nat) :
    Option.Rel (Passage.Like S) (c.code? i) (c'.code? i) := by
  have harg := h.argument? i
  simp only [Call.code?]
  generalize c.arguments[i]? = x, c'.arguments[i]? = y at harg
  cases harg with
  | none => exact .none
  | some h =>
    cases h with
    | text => exact .none
    | code h => exact .some h

theorem run (h : c.Like S c') (i : Nat) : (c.run i).Like S (c'.run i) := by
  have hcode := h.code? i
  simp only [Call.run]
  generalize c.code? i = x, c'.code? i = y at hcode
  cases hcode with
  | none => exact .stay
  | some h => exact .run h

theorem runThen (h : c.Like S c') (i : Nat) {q q' : Sequel} (hq : q.Like S q') :
    (c.runThen i q).Like S (c'.runThen i q') := .runThen (h.code? i) hq

theorem test (h : c.Like S c') {sequel : Passage → Sequel}
    (hq : ∀ p q, Passage.Like S p q → (sequel p).Like S (sequel q)) :
    (c.test sequel).Like S (c'.test sequel) := by
  have htest := h.code? 0
  have hcode := h.code? 1
  simp only [Call.test]
  generalize c.code? 0 = x, c'.code? 0 = y at htest
  generalize c.code? 1 = z, c'.code? 1 = w at hcode
  cases htest with
  | none => exact .stay
  | some htest =>
    cases hcode with
    | none => exact .stay
    | some hcode => exact .runThen (.some htest) (hq _ _ hcode)

theorem agrees_complain (h : c.Like S c') {R : α → α → Prop} (complaint : Complaint) :
    Agrees S d R (c.complain complaint) (c'.complain complaint) := by
  refine ⟨fun _ _ _ => .error ⟨?_, ?_⟩⟩
  · rw [h.name]
  · exact h.known.imp id TagEntry.ne_of_find?_isSome

theorem agrees_integer (h : c.Like S c') (value : String) :
    Agrees S d Eq (c.integer value) (c'.integer value) := by
  unfold integer
  split
  · exact .pure rfl
  · exact h.agrees_complain _

theorem agrees_choice (h : c.Like S c') (i : Nat) (read : String → Except String α) :
    Agrees S d Eq (c.choice i read) (c'.choice i read) := by
  unfold choice
  rw [h.text]
  split
  · exact .pure rfl
  · exact h.agrees_complain _

theorem agrees_repetitions (h : c.Like S c') :
    Agrees S d (Next.Like S) c.repetitions c'.repetitions := by
  unfold repetitions
  simp only [h.text]
  split
  · exact .stay (agrees_shape fun _ _ ha => { ha with repetitions := rfl })
  · refine (h.agrees_integer _).andThen fun n => ?_
    split
    · exact .stay (h.agrees_complain _)
    · exact .stay (agrees_shape fun _ _ ha => { ha with repetitions := rfl })

theorem agrees_chance (h : c.Like S c') : Agrees S d (Next.Like S) c.chance c'.chance := by
  unfold chance
  simp only [h.text]
  split
  · exact .stay (agrees_shape fun _ _ ha => { ha with chance := rfl })
  · exact .stay (h.agrees_complain _)

theorem agrees_printRepeater (h : c.Like S c') {f : Repeater → Nat}
    (hf : ∀ r r', Repeater.Like S d r r' → f r = f r') :
    Agrees S d (Next.Like S) (c.printRepeater f) (c'.printRepeater f) := by
  refine .bind (agrees_read fun _ _ hr => hr.repeater?) fun x y hxy => ?_
  cases hxy with
  | none => exact .stay (h.agrees_complain _)
  | some hr =>
    dsimp only
    rw [hf _ _ hr]
    exact (agrees_printInteger _).stay

theorem agrees_runIf (h : c.Like S c') (i : Nat) {holds : Repeater → Bool}
    (hholds : ∀ r r', Repeater.Like S d r r' → holds r = holds r') :
    Agrees S d (Next.Like S) (c.runIf i holds) (c'.runIf i holds) := by
  refine .bind (agrees_read fun _ _ hr => hr.repeater?) fun x y hxy => .pure ?_
  have hany : x.any holds = y.any holds := by
    cases hxy with
    | none => rfl
    | some hr => exact hholds _ _ hr
  rw [hany]
  split
  · exact h.run i
  · exact .stay

theorem agrees_runIfNth (h : c.Like S c') (i : Nat) (interval offset : String) :
    Agrees S d (Next.Like S) (c.runIfNth i interval offset) (c'.runIfNth i interval offset) := by
  refine (h.agrees_integer _).andThen fun _ => (h.agrees_integer _).andThen fun _ => ?_
  refine .ite (h.agrees_complain _) (.ite (h.agrees_complain _) (h.agrees_runIf i ?_))
  intro r r' hr
  simp only [Repeater.isNth, hr.isSuppressed, hr.index]

theorem agrees_requireOrder (name : String) (known : Bool) :
    Agrees S d (Next.Like S) (requireOrder name known) (requireOrder name known) :=
  .ite (.pure .stay) (.throw nofun)

theorem agrees_createOrder (h : c.Like S c') : Agrees S d Eq c.createOrder c'.createOrder := by
  unfold createOrder
  rw [h.text]
  exact (h.agrees_choice _ _).andThen fun _ =>
    .andThen (agrees_read fun _ _ hr => congrArg _ hr.generator) fun _ => agrees_order _

theorem agrees_bindOrder (name : String) : Agrees S d Eq (bindOrder name) (bindOrder name) :=
  agrees_shape fun _ _ ha => { ha with order := rfl }

theorem agrees_measure (h : c.Like S c') (f : ChannelStack → String → String → Option α) :
    Agrees S d Eq (c.measure f) (c'.measure f) := by
  unfold measure
  simp only [h.text, h.markerPair]
  refine agrees_get.bind fun t t' ht => ?_
  rw [ht.output]
  split
  · exact .pure rfl
  · exact .throw nofun

theorem agrees_send (h : c.Like S c') (overwrite : Bool) :
    Agrees S d Eq (c.send overwrite) (c'.send overwrite) := by
  unfold send
  rw [h.text, h.raw]
  exact agrees_spend fun o _ _ => o.writeTarget_like _ _ _

theorem agrees_hook (h : c.Like S c') {s s' : Setting} (hs : s.hooks = s'.hooks) :
    Agrees S d Eq (c.hook s) (c'.hook s') := by
  unfold hook
  rw [h.text, h.texts, hs]
  split
  · exact agrees_print _
  · exact .throw nofun

theorem agrees_printCharacters (h : c.Like S c') (count : Nat) :
    Agrees S d Eq (c.printCharacters count) (c'.printCharacters count) := by
  unfold printCharacters
  rw [h.text]
  split
  · exact (agrees_draw _).andThen fun _ => agrees_print _
  · exact h.agrees_complain _

theorem agrees_printCountedCharacters (h : c.Like S c') :
    Agrees S d Eq c.printCountedCharacters c'.printCountedCharacters := by
  unfold printCountedCharacters
  rw [h.text]
  exact (h.agrees_integer _).andThen fun _ =>
    .ite (h.agrees_complain _) (h.agrees_printCharacters _)

theorem agrees_printNumber (h : c.Like S c') : Agrees S d Eq c.printNumber c'.printNumber := by
  unfold printNumber
  rw [h.text, h.text]
  exact (h.agrees_integer _).andThen fun _ => (h.agrees_integer _).andThen fun _ =>
    .ite (h.agrees_complain _) ((agrees_draw _).andThen fun _ => agrees_printInteger _)

theorem agrees_argument (h : c.Like S c') :
    Agrees S d (Next.Like S) c.argument c'.argument := by
  unfold argument
  rw [h.text]
  refine .bind (agrees_read fun _ _ hr => hr.arguments) fun tables tables' htables => ?_
  have hfound : Option.Rel (Argument.Like S) (tables.head?.bind (·.get? (c.text 0)))
      (tables'.head?.bind (·.get? (c.text 0))) := by
    cases htables with
    | nil => exact .none
    | cons ht _ => exact ht.get? _
  generalize tables.head?.bind _ = x, tables'.head?.bind _ = y at hfound
  cases hfound with
  | none => exact .throw nofun
  | some harg =>
    cases harg with
    | text s => exact (agrees_print s).stay
    | code hp => exact .pure (.run hp)

theorem agrees_branchOn (h : c.Like S c') (holds : Bool) :
    Agrees S d (Next.Like S) (c.branchOn holds) (c'.branchOn holds) := by
  refine .andThen (agrees_change fun _ _ hr => { hr with elseArmed := rfl }) fun _ => .pure ?_
  split
  · exact h.run 1
  · exact .stay

theorem agrees_anyHolds (h : c.Like S c') : Agrees S d Eq c.anyHolds c'.anyHolds := by
  unfold anyHolds
  rw [h.conditions]
  refine .andThen (agrees_read fun _ _ hr => hr.comparisons) fun comparisons => ?_
  split
  · exact h.agrees_complain _
  · refine .foldlM (fun found condition => ?_) _ _
    split
    · exact .pure rfl
    · exact h.agrees_complain _

end Call.Like

/-! ## Tags -/

/-- The settings differ in nothing but how much more depth the second allows and whether blocks are
read more than once. -/
structure Setting.Alike (extra : Nat) (s s' : Setting) : Prop where
  vocabulary : s.vocabulary = s'.vocabulary
  hooks : s.hooks = s'.hooks
  sentinel : s.sentinel = s'.sentinel
  strictQueries : s.strictQueries = s'.strictQueries
  maxDepth : s'.maxDepth = s.maxDepth + extra
  literals : s.shortcuts.literals = s'.shortcuts.literals

namespace Registers.Like

variable {r r' : Registers}

theorem setFlag (h : r.Like S d r') (flag : String) :
    (r.setFlag flag).Like S d (r'.setFlag flag) := by
  have hflag : r.hasFlag flag = r'.hasFlag flag := congrArg (List.contains · flag) h.flags
  rw [Registers.setFlag, Registers.setFlag, hflag]
  split
  · exact h
  · exact { h with flags := congrArg (flag :: ·) h.flags }

theorem clearFlag (h : r.Like S d r') (flag : String) :
    (r.clearFlag flag).Like S d (r'.clearFlag flag) :=
  { h with flags := congrArg (List.filter (· != flag)) h.flags }

theorem foldl {α : Type} {f : Registers → α → Registers}
    (hf : ∀ (r r' : Registers) a, r.Like S d r' → (f r a).Like S d (f r' a)) (l : List α)
    (h : r.Like S d r') : (l.foldl f r).Like S d (l.foldl f r') := by
  induction l generalizing r r' with
  | nil => exact h
  | cons a l ih => exact ih (hf _ _ a h)

end Registers.Like

namespace Tag

/-- Calls of one tag that are alike do alike. -/
theorem agrees_perform {extra : Nat} {s s' : Setting} (hs : s.Alike extra s') (source : String)
    {c c' : Call} (h : c.Like S c') (tag : Tag) :
    Agrees S d (Next.Like S) (tag.perform s source c) (tag.perform s' source c') := by
  cases tag with
  | leave => exact .pure .leave
  | repetitions => exact h.agrees_repetitions
  | separator => exact .stay (agrees_shape fun _ _ ha => { ha with separator := h.code? 0 })
  | before => exact .stay (agrees_shape fun _ _ ha => { ha with before := h.code? 0 })
  | after => exact .stay (agrees_shape fun _ _ ha => { ha with after := h.code? 0 })
  | chance => exact h.agrees_chance
  | persistence =>
    exact (h.agrees_choice _ _).andThen fun _ =>
      .stay (agrees_shape fun _ _ ha => { ha with persistence := rfl })
  | repetitionNumber =>
    exact h.agrees_printRepeater fun _ _ hr => congrArg (· + 1) hr.visibleIndex
  | repetitionIndex => exact h.agrees_printRepeater fun _ _ => Repeater.Like.visibleIndex
  | repetitionCount => exact h.agrees_printRepeater fun _ _ => Repeater.Like.count
  | ifFirst | ifLast | ifMiddle | unlessFirst | unlessLast | unlessMiddle | ifOdd | ifEven =>
    refine h.agrees_runIf 0 fun _ _ hr => ?_
    simp only [Repeater.isFirst, Repeater.isLast, Repeater.isMiddle, Repeater.isOdd,
      Repeater.isEven, hr.isSuppressed, hr.index, hr.count]
  | ifNth | ifNthFrom =>
    simp only [perform, h.text]
    exact h.agrees_runIfNth _ _ _
  | bindOrder =>
    simp only [perform, h.text]
    refine .andThen (agrees_read fun _ _ hr => congrArg (SharedOrders.contains · _) hr.orders) ?_
    exact fun _ =>
      (Call.Like.agrees_requireOrder _ _).bind fun _ _ hnext =>
        (Call.Like.agrees_bindOrder _).andThen fun _ => .pure hnext
  | createBoundOrder =>
    simp only [perform, h.text]
    exact h.agrees_createOrder.andThen fun _ => (Call.Like.agrees_bindOrder _).stay
  | createOrder => exact h.agrees_createOrder.stay
  | resetOrder | reseedOrder | stepOrder =>
    simp only [perform, h.text]
    exact (agrees_order _).andThen fun _ => Call.Like.agrees_requireOrder _ _
  | unbindOrder => exact .stay (agrees_shape fun _ _ ha => { ha with order := rfl })
  | pinOrder | unpinOrder =>
    simp only [perform, h.text]
    exact (agrees_order _).stay
  | branch =>
    simp only [perform, h.text]
    exact (agrees_draw _).stay
  | branchFor =>
    simp only [perform, h.text]
    exact (agrees_draw _).andThen fun _ => .pure (h.runThen 1 .merge)
  | merge => exact .stay (agrees_change fun _ _ => Registers.Like.mergeBranch)
  | generation =>
    exact .andThen (agrees_read fun _ _ hr => congrArg _ hr.generator) fun _ =>
      (agrees_print _).stay
  | setGeneration =>
    simp only [perform, h.text]
    split
    · exact (agrees_draw _).stay
    · exact .stay (h.agrees_complain _)
  | ifNothing =>
    refine agrees_get.bind fun _ _ ht => .pure ?_
    rw [ht.output]
    exact h.test fun _ _ => .ifNothing _
  | ifAnything =>
    refine agrees_get.bind fun _ _ ht => .pure ?_
    rw [ht.output]
    exact h.test fun _ _ => .ifAnything _
  | argument => exact h.agrees_argument
  | wholeMatch =>
    refine .andThen (agrees_read fun _ _ hr => hr.matched) fun matched => ?_
    split
    · exact (agrees_print _).stay
    · exact .pure .stay
  | matchGroup =>
    simp only [perform, h.text]
    refine .andThen (agrees_read fun _ _ hr => hr.matched) fun matched => ?_
    split
    · exact (agrees_print _).stay
    · exact .pure .stay
  | caseMode => exact (h.agrees_choice _ _).andThen fun _ => (agrees_channels _).stay
  | inferCaseMode =>
    simp only [perform, h.text]
    split
    · exact (agrees_channels _).stay
    · exact .pure .stay
  | numberFormat =>
    exact (h.agrees_choice _ _).andThen fun _ =>
      .stay (agrees_change fun _ _ hr => { hr with numberFormat := rfl })
  | visitAs =>
    simp only [perform, h.text]
    exact (h.agrees_choice _ _).andThen fun _ => (agrees_channels _).stay
  | visit | close | mark | target | clearTarget =>
    simp only [perform, h.text]
    exact (agrees_channels _).stay
  | distance => exact (h.agrees_measure _).andThen fun _ => (agrees_printInteger _).stay
  | copy => exact (h.agrees_measure _).andThen fun _ => (agrees_print _).stay
  | send | overwrite => exact (h.agrees_send _).stay
  | article => exact agrees_printArticle.stay
  | hook => exact (h.agrees_hook hs.hooks).stay
  | length =>
    simp only [perform, h.raw]
    exact (agrees_printInteger _).stay
  | character => exact (h.agrees_printCharacters _).stay
  | characters => exact h.agrees_printCountedCharacters.stay
  | number => exact h.agrees_printNumber.stay
  | fraction => exact (agrees_draw _).andThen fun _ => (agrees_print _).stay
  | code => exact (agrees_print _).stay
  | define =>
    simp only [perform, h.texts]
    exact .stay (agrees_change fun _ _ hr =>
      hr.foldl (fun _ _ flag hr => hr.setFlag flag) _)
  | undefine =>
    simp only [perform, h.texts]
    exact .stay (agrees_change fun _ _ hr =>
      hr.foldl (fun _ _ flag hr => hr.clearFlag flag) _)
  | ifDefined | unlessDefined =>
    simp only [perform, h.text]
    exact .andThen (agrees_read fun _ _ hr => congrArg (List.contains · _) hr.flags) fun _ =>
      h.agrees_branchOn _
  | otherwise =>
    refine .andThen (agrees_read fun _ _ hr => hr.elseArmed) fun armed => ?_
    split
    · exact .andThen (agrees_change fun _ _ hr => { hr with elseArmed := rfl }) fun _ =>
        .pure (h.run 0)
    · exact .pure .stay
  | compare =>
    simp only [perform, h.text]
    exact .andThen (agrees_change fun _ _ hr =>
      { hr with comparisons := congrArg (_ :: ·) hr.comparisons }) fun _ =>
        .pure (h.runThen 2 .dropComparison)
  | ifCompared => exact h.agrees_anyHolds.andThen fun _ => h.agrees_branchOn _

end Tag

end Wordsmith
