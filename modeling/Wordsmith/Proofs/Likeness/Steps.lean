import Wordsmith.Proofs.Likeness.Machines
import Wordsmith.Proofs.Positions

/-!
# Steps alike

Machines that are alike take the same step: both fail, with errors that are alike, or both come to
machines that are alike again, or both end the last frame above the footing. A block is the one
thing that one of them may recall where the other reads it; as what is recalled is what would be
read, this makes no difference.

Main result: `Machine.Like.step`.
-/

namespace Wordsmith

/-- What a source is compiled to does not depend on its name. -/
theorem Pattern.compile_alike (name name' code : String) :
    Matches Eq (fun p q => p.passage.Alike q.passage) (compile name code) (compile name' code) := by
  unfold compile
  split
  · exact .error rfl
  · exact .ok ⟨rfl, rfl, rfl⟩

/-- Passages that are alike, and up to the standard. -/
theorem Scan.AllAlike.like {S : Standard} {ps qs : List Passage} (h : AllAlike ps qs)
    (hS : ∀ p ∈ ps, S.reader (.ofPassage p)) : List.Forall₂ (Passage.Like S) ps qs := by
  induction h with
  | nil => exact .nil
  | cons h _ ih =>
    obtain ⟨hfirst, hothers⟩ := List.forall_mem_cons.1 hS
    exact .cons ⟨h, hfirst⟩ (ih hothers)

/-- The text of an escape begins with a backslash. -/
theorem Reader.escape_of_read? {r r₁ : Reader} {t : Token} (h : r.read? = some (t, r₁))
    (ht : t.kind = .escape) : t.text.toList.head? = some '\\' := by
  obtain ⟨t, hpeek, heq⟩ := Option.map_eq_some_iff.1 h
  cases heq
  unfold peek? Passage.token? at hpeek
  split at hpeek
  · have hmem : t ∈ r.passage.pattern.tokens.toList :=
      Array.mem_toList_iff.2 (Array.mem_of_getElem? hpeek)
    obtain ⟨_, _, _, hl, hkind, htext⟩ :=
      Lexer.exists_lexeme_of_lexLines r.passage.pattern.tokenize_code hmem
    obtain ⟨tail, -, htail⟩ := Lexer.escapeTail_of_lexeme hl (hkind ▸ ht)
    rw [htext, String.toList_ofList, htail]
    rfl
  · cases hpeek

namespace Machine

variable {S : Standard} {B : Footing} {s s' : Setting} {m : Machine s} {m' : Machine s'}
  {wrong : String → Nat → Prop} {r r' r₁ : Reader} {ps : List Passage}

/-! ## Reading blocks -/

theorem known?_mem {place : Pattern × Nat} {known : ReadBlock} (h : m.known? place = some known) :
    (place, known) ∈ m.blocks := by
  unfold known? at h
  split at h
  · obtain ⟨⟨place', known'⟩, hfind, rfl⟩ := Option.map_eq_some_iff.1 h
    have hplace : place' = place := by simpa using List.find?_some hfind
    exact hplace ▸ List.mem_of_find?_eq_some hfind
  · cases h

/-- Reads the items of a block, and says at which index it ends. -/
def readSized : Scan (Block × Nat) := do
  let items ← Block.readItems
  return (Block.ofPassages items, (← get).index)

theorem readSized_eq (r : Reader) : readSized r = match Block.readItems r with
    | (.ok ps, r₁) => (.ok (.ofPassages ps, r₁.index), r₁)
    | (.error e, r₁) => (.error e, r₁) := by
  simp only [readSized, Bind.bind, ExceptT.bind, ExceptT.mk, ExceptT.bindCont, StateT.bind]
  rcases Block.readItems r with ⟨_ | _, _⟩ <;> rfl

theorem top?_withReader (hframes : m.frames ≠ []) (r : Reader) :
    ∃ f, (m.withReader r).top? = some f ∧ f.reader = r := by
  obtain ⟨f, below, hf⟩ := List.exists_cons_of_ne_nil hframes
  exact ⟨{ f with reader := r }, by simp [top?, withReader, modifyTop, hf], rfl⟩

/-- A block that can be read comes out the same if it is recalled. -/
theorem readBlock_eq_ok (hframes : m.frames ≠ []) (hblocks : ∀ e ∈ m.blocks, e.2.IsGenuine e.1)
    (hstart : r.passage.start ≤ r.index) (hindex : 0 < r.index)
    (hread : Block.readItems r = (.ok ps, r₁)) : ∃ blocks,
    (m.withReader r).readBlock = .ok (.ofPassages ps, { m.withReader r₁ with blocks := blocks }) ∧
      ∀ e ∈ blocks, e.2.IsGenuine e.1 := by
  obtain ⟨f, htop, hreader⟩ := top?_withReader hframes r
  simp only [readBlock, htop, hreader]
  cases hknown : (m.withReader r).known? (r.passage.pattern, r.index - 1) with
  | some known =>
    have hgenuine : known.IsGenuine (r.passage.pattern, r.index - 1) :=
      hblocks _ (known?_mem hknown)
    obtain ⟨hblock, hjump⟩ := hgenuine.matches_read hstart hindex hread
    obtain ⟨f, below, hf⟩ := List.exists_cons_of_ne_nil hframes
    refine ⟨m.blocks, ?_, hblocks⟩
    simp [hblock, withReader, modifyTop, hf, hjump, Pure.pure, Except.pure]
  | none =>
    refine ⟨((r.passage.pattern, r.index - 1), ⟨.ofPassages ps, r₁.index⟩) :: m.blocks, ?_,
      List.forall_mem_cons.2 ⟨ReadBlock.IsGenuine.of_read hstart hindex hread, hblocks⟩⟩
    show ((m.withReader r).scan readSized >>= _) = _
    rw [scan_withReader hframes, readSized_eq, hread]
    rfl

/-- A block that cannot be read was not read before by a reader of whom it can be recalled. -/
theorem readBlock_eq_error (hframes : m.frames ≠ []) (hblocks : ∀ e ∈ m.blocks, e.2.IsGenuine e.1)
    (hindex : 0 < r.index) {e : ScopeError} (hread : Block.readItems r = (.error e, r₁))
    (hrecalls : ∀ {r₀ ps r₀'}, r₀.passage.start ≤ r₀.index →
      r₀.passage.pattern = r.passage.pattern → r₀.index = r.index →
        Block.readItems r₀ = (.ok ps, r₀') → ∃ qs r₂, Block.readItems r = (.ok qs, r₂)) :
    (m.withReader r).readBlock = .error (.scope e) := by
  obtain ⟨f, htop, hreader⟩ := top?_withReader hframes r
  simp only [readBlock, htop, hreader]
  cases hknown : (m.withReader r).known? (r.passage.pattern, r.index - 1) with
  | some known =>
    obtain ⟨r₀, ps, r₀', hstart₀, hpattern, hindex₀, hread₀, -⟩ := hblocks _ (known?_mem hknown)
    obtain ⟨qs, r₂, hok⟩ :=
      hrecalls hstart₀ hpattern (hindex₀.trans (Nat.sub_add_cancel hindex)) hread₀
    cases hread.symm.trans hok
  | none =>
    show ((m.withReader r).scan readSized >>= _) = _
    rw [scan_withReader hframes, readSized_eq, hread]
    rfl

/-- A reader behind a token that it has just read. -/
theorem index_pos_of_read? {t : Token} (h : r.read? = some (t, r₁)) : 0 < r₁.index := by
  obtain ⟨_, _, heq⟩ := Option.map_eq_some_iff.1 h
  cases heq
  exact Nat.succ_pos _

/-- The next step calls a subroutine with a wrong number of arguments. -/
def Miscalls (m : Machine s) (name : String) (count : Nat) : Prop :=
  ∃ f below t r₁ token arguments r₂ called, m.frames = f :: below ∧ f.pre = [] ∧
    f.reader.read? = some (t, r₁) ∧ t.kind = .leftSquare ∧
    Bracket.read Bracket.readReplacement r₁ = (.ok (.call token arguments), r₂) ∧
    m.registers.subroutines.get? token.text = some called ∧ called.name = name ∧
    arguments.length = count ∧ called.arity ≠ count

/-- Both machines have ended their last frame above the footing. What it printed is a result on the
first side, and on the second if there is no footing; else it is in the output of the footing. -/
structure Done (S : Standard) (B : Footing) (m : Machine s) (m' : Machine s') : Prop where
  frames : m.frames = []
  frames' : m'.frames = B.frames
  registers : m.registers.Like S B.shift m'.registers
  results : if B.frames = [] then m.results = m'.results
    else m.results = m'.output.output :: m'.results

namespace Like

variable {t : Token}

/-- Behind the opener of a block, both machines come to blocks that are alike. -/
theorem readBlock (h : m.Like S B m') {r₀ r₀' : Reader} (hr₀ : r₀.Alike r₀') (hS : S.reader r₀)
    (hread : r₀.read? = some (t, r)) (hread' : r₀'.read? = some (t, r')) (hr : r.Alike r')
    (ht : t.kind = .leftCurly) :
    Matches (RunError.Like S wrong) (fun x y => x.1.Like S y.1 ∧ x.2.Like S B y.2)
      (m.withReader r).readBlock (m'.withReader r').readBlock := by
  have hends := Block.agrees_readItems.from_alike r r' hr
  have hpass := S.block hS hread ht
  have hindex := index_pos_of_read? hread
  have hindex' := index_pos_of_read? hread'
  unfold Scan.Passes at hpass
  rcases hitems : Block.readItems r with ⟨x, r₁⟩
  rcases hitems' : Block.readItems r' with ⟨x', r₁'⟩
  rw [hitems] at hends hpass
  rw [hitems'] at hends
  cases hends with
  | ok hps hr₁ =>
    obtain ⟨blocks, heq, hgenuine⟩ :=
      readBlock_eq_ok h.frames_ne_nil h.blocks hr.start_le hindex hitems
    obtain ⟨blocks', heq', hgenuine'⟩ :=
      readBlock_eq_ok h.frames_ne_nil' h.blocks' hr.start_le' hindex' hitems'
    rw [heq, heq']
    exact .ok ⟨.ofPassages hps hpass.1,
      { h.withReader hr₁ hpass.2 with blocks := hgenuine, blocks' := hgenuine' }⟩
  | error he =>
    rw [readBlock_eq_error h.frames_ne_nil h.blocks hindex hitems (S.recalls hS hread ht),
      readBlock_eq_error h.frames_ne_nil' h.blocks' hindex' hitems'
        (S.recalls (S.alike hS hr₀) hread' ht)]
    exact .error (.scope he hpass)

/-! ## Blocks -/

theorem agrees_isEntered {d : Nat} {b b' : Block} (hb : b.Like S b') {a a' : Attributes}
    (ha : a.Like S a') : Act.Agrees S d Eq (isEntered b a) (isEntered b' a') := by
  unfold isEntered
  rw [← hb.size, ← hb.totalWeight, ← ha.chance]
  exact .ite (.pure rfl) (.ite ((Act.agrees_draw _).andThen fun _ => .pure rfl) (.pure rfl))

theorem enterBlock (h : m.Like S B m') {b b' : Block} (hb : b.Like S b') :
    Goes S B wrong (m.enterBlock b) (m'.enterBlock b') := by
  have ha := h.registers.attributes
  have hm : (m.change fun r => { r with attributes := m.registers.attributes.afterTake }).Like S B
      (m'.change fun r => { r with attributes := m'.registers.attributes.afterTake }) :=
    h.change fun _ _ hr => { hr with attributes := ha.afterTake }
  unfold Machine.enterBlock
  refine (hm.act (agrees_isEntered hb ha)).bind fun ⟨entered, m₁⟩ ⟨entered', m₁'⟩ h₁ => ?_
  obtain rfl : entered = entered' := h₁.1
  have hm₁ : m₁.Like S B m₁' := h₁.2
  dsimp only
  refine .ite (.pure ?_) (.pure hm₁)
  have hbase : (m₁'.top?.map (·.id)).getD 0 = (m₁.top?.map (·.id)).getD 0 + B.shift := by
    obtain ⟨f, below, f', below', hf, hf', hlike⟩ := hm₁.frames.exists_head
    simp only [Machine.top?, hf, hf', List.head?_cons, Option.map_some, Option.getD_some, hlike.id]
  have hnext : Like S B ({ m₁ with nextId := m₁.nextId + 1 } : Machine s)
      ({ m₁' with nextId := m₁.nextId + B.shift + 1 } : Machine s') :=
    { hm₁ with nextId := Nat.add_right_comm .. }
  rw [hbase, hm₁.nextId]
  refine defer (change hnext fun _ _ hr => ?_) (.iterate _)
  exact { hr with repeaters := .cons (.start hb ha) hr.repeaters }

theorem agrees_drawItem {d : Nat} {b b' : Block} (hb : b.Like S b') :
    Act.Agrees S d Eq (drawItem b) (drawItem b') := by
  unfold drawItem
  rw [← hb.isUniform, ← hb.size, ← hb.weights]
  split
  · exact Act.agrees_draw _
  · split
    · exact Act.agrees_draw _
    · exact .throw (by simp [Fault.IsMild])

theorem agrees_chooseItem {d : Nat} {b b' : Block} (hb : b.Like S b') {order order' : Option String}
    (horder : order = order') : Act.Agrees S d Eq (chooseItem b order) (chooseItem b' order') := by
  subst horder
  unfold chooseItem
  rw [← hb.size]
  cases order with
  | none => exact agrees_drawItem hb
  | some name =>
    refine (Act.agrees_order _).andThen fun dealt => ?_
    cases dealt with
    | none => exact agrees_drawItem hb
    | some i => exact .pure rfl

theorem beginRepetition (hs : s.Alike B.frames.length s') (h : m.Like S B m') {x x' : Repeater}
    (hx : x.Like S B.shift x') : Goes S B wrong (m.beginRepetition x) (m'.beginRepetition x') := by
  have ha := hx.attributes
  have hafter : x.attributes.after.isSome = x'.attributes.after.isSome := by
    have hrel := ha.after
    generalize x.attributes.after = p, x'.attributes.after = q at hrel
    cases hrel <;> rfl
  have hseparator : Option.Rel (Passage.Like S)
      (if x.index + 1 < x.count then x.attributes.separator else none)
      (if x'.index + 1 < x'.count then x'.attributes.separator else none) := by
    rw [← hx.index, ← hx.count]
    split
    · exact ha.separator
    · exact .none
  unfold Machine.beginRepetition
  rw [hx.id]
  refine (h.pushAny hs hseparator (.cons (.suppress _) .nil) (.cons (.restore _) .nil)).bind
    fun m₁ m₁' h₁ => ?_
  refine (h₁.pushAny hs ha.after .nil (.cons (.advance _) .nil)).bind fun m₂ m₂' h₂ => ?_
  refine (h₂.act (agrees_chooseItem hx.block ha.order)).bind fun ⟨i, m₃⟩ ⟨i', m₃'⟩ h₃ => ?_
  obtain rfl : i = i' := h₃.1
  refine (h₃.2.pushAny hs (hx.block.code i) .nil ?_).bind fun m₄ m₄' h₄ => ?_
  · rw [← hafter]
    split
    · exact .nil
    · exact .cons (.advance _) .nil
  · exact h₄.pushAny hs ha.before .nil .nil

theorem iterate (hs : s.Alike B.frames.length s') (h : m.Like S B m') (id : Nat) :
    Goes S B wrong (m.iterate id) (m'.iterate (id + B.shift)) := by
  have hfound := h.registers.findRepeater? id
  unfold Machine.iterate
  generalize m.registers.findRepeater? id = x, m'.registers.findRepeater? (id + B.shift) = x'
    at hfound
  cases hfound with
  | none => exact .pure h
  | some hx =>
    dsimp only
    rw [← hx.isFinished]
    exact .ite (.pure (h.change fun _ _ hr => hr.removeRepeater id))
      ((h.defer (.iterate id)).beginRepetition hs hx)

/-! ## Calls -/

theorem follow (hs : s.Alike B.frames.length s') (h : m.Like S B m') {next next' : Next}
    (hnext : next.Like S next') : Goes S B wrong (m.follow next) (m'.follow next') := by
  cases hnext with
  | stay => exact .pure h
  | run hp => exact h.run hs hp
  | runThen hcode hq => exact (h.defer (.finish hq)).pushAny hs hcode .nil .nil
  | leave => exact .pure h.leave

theorem callTag (hs : s.Alike B.frames.length s') (h : m.Like S B m') (tag : Tag) {name : Token}
    (hname : S.isLax ∨ (TagEntry.find? name.text).isSome) {arguments arguments' : List Argument}
    (harguments : List.Forall₂ (Argument.Like S) arguments arguments') :
    Goes S B wrong (m.callTag tag name arguments) (m'.callTag tag name arguments') := by
  have hm := h.moveTo name.position name.position
  unfold Machine.callTag
  dsimp only
  rw [← hm.patternCode]
  have hcall : Call.Like S ⟨name.text, arguments⟩ ⟨name.text, arguments'⟩ :=
    ⟨rfl, hname, harguments⟩
  refine (hm.act (Tag.agrees_perform hs _ hcall tag)).bind fun ⟨next, m₁⟩ ⟨next', m₁'⟩ h₁ => ?_
  exact follow hs h₁.2 h₁.1

theorem table {parameters : List Parameter} {arguments arguments' : List Argument}
    (h : List.Forall₂ (Argument.Like S) arguments arguments') {t t' : Named Argument}
    (ht : t.Like (Argument.Like S) t') :
    ((parameters.zip arguments).foldl (fun t (p, a) => t.insert p.name a) t).Like (Argument.Like S)
      ((parameters.zip arguments').foldl (fun t (p, a) => t.insert p.name a) t') := by
  induction h generalizing parameters t t' with
  | nil => simpa using ht
  | cons ha _ ih =>
    cases parameters with
    | nil => exact ht
    | cons p parameters => exact ih (ht.insert p.name ha)

theorem callSubroutine (hs : s.Alike B.frames.length s') (h : m.Like S B m')
    {called called' : Subroutine} (hcalled : called.Like S called') (name : Token)
    {arguments arguments' : List Argument}
    (harguments : List.Forall₂ (Argument.Like S) arguments arguments') :
    Goes S B wrong (m.callSubroutine called name arguments)
      (m'.callSubroutine called' name arguments') := by
  unfold Machine.callSubroutine
  rw [← hcalled.parameters]
  refine run hs (defer (change (h.moveTo _ _) fun _ _ hr => ?_) .dropArguments) hcalled.body
  exact { hr with arguments := .cons (table harguments .empty) hr.arguments }

/-! ## What was printed -/

theorem compilePrinted (h : m.Like S B m') (hmakes : S.makesCode) (name : String) :
    Matches (RunError.Like S wrong)
      (fun x y => x.1.passage.Like S y.1.passage ∧ x.2.Like S B y.2)
      (m.compilePrinted name) (m'.compilePrinted name) := by
  obtain ⟨htext, hm⟩ := h.takeResult
  unfold Machine.compilePrinted
  dsimp only
  rw [← htext]
  generalize m.takeResult.2.patternName = p, m'.takeResult.2.patternName = q
  have hcompile := Pattern.compile_alike s!"{p}#{name}" s!"{q}#{name}" m.takeResult.1
  generalize Pattern.compile s!"{p}#{name}" m.takeResult.1 = x,
    Pattern.compile s!"{q}#{name}" m.takeResult.1 = y at hcompile
  cases hcompile with
  | ok hp => exact .ok ⟨⟨hp, S.compiled hmakes _⟩, hm⟩
  | error he =>
    subst he
    exact .error ⟨.lex _, .inl (S.lax_of_makesCode hmakes), fun _ h => RunError.noConfusion h⟩

theorem define (h : m.Like S B m') {made made' : Subroutine} (hmade : made.Like S made') :
    (m.define made).Like S B (m'.define made') := by
  unfold Machine.define
  rw [← hmade.name]
  exact h.change fun _ _ hr => { hr with subroutines := hr.subroutines.insert _ hmade }

theorem agrees_evaluated {d : Nat} (isSilent : Bool) (text : String) :
    Act.Agrees S d Eq
      (match Expression.evaluate text with
        | .ok x => unless isSilent do Act.printValue x
        | .error e => throw (.invalidArgument "expression" (.badExpression e)) : Act Unit)
      (match Expression.evaluate text with
        | .ok x => unless isSilent do Act.printValue x
        | .error e => throw (.invalidArgument "expression" (.badExpression e)) : Act Unit) := by
  split
  · exact .ite (.pure rfl) (Act.agrees_printValue _)
  · exact .throw (by simp [Fault.IsMild])

theorem evaluate (h : m.Like S B m') (isSilent : Bool) :
    Goes S B wrong (m.evaluate isSilent) (m'.evaluate isSilent) := by
  obtain ⟨htext, hm⟩ := h.takeResult
  unfold Machine.evaluate
  dsimp only
  rw [← htext]
  exact hm.perform (agrees_evaluated isSilent _)

theorem replace (hs : s.Alike B.frames.length s') (h : m.Like S B m') (regex : Regex)
    {code code' : Passage} (hcode : code.Like S code') :
    Goes S B wrong (m.replace regex code) (m'.replace regex code') := by
  obtain ⟨htext, hm⟩ := h.takeResult
  unfold Machine.replace
  dsimp only
  rw [← htext]
  split
  · exact hm.perform (Act.agrees_print _)
  · next found _ =>
    refine .foldlM (Q := Eq) (fun _ _ x _ hm hx => ?_) (List.forall₂_refl _)
      (hm.defer (.join _ _))
    subst hx
    exact hm.push hs hcode true (.cons (.enterMatch x) .nil) (.cons .leaveMatch .nil)

theorem finish (hs : s.Alike B.frames.length s') (h : m.Like S B m') {q q' : Sequel}
    (hq : q.Like S q') : Goes S B wrong (m.finish q) (m'.finish q') := by
  cases hq with
  | merge => exact .pure (h.change fun _ _ => Registers.Like.mergeBranch)
  | dropComparison =>
    exact .pure (h.change fun _ _ hr =>
      { hr with comparisons := congrArg List.tail hr.comparisons })
  | ifNothing size hp =>
    simp only [Machine.finish, ← h.output]
    exact .ite (h.run hs hp) (.pure h)
  | ifAnything size hp =>
    simp only [Machine.finish, ← h.output]
    exact .ite (.pure h) (h.run hs hp)

/-! ## Actions -/

theorem take (hs : s.Alike B.frames.length s') (h : m.Like S B m') {a a' : Deferred}
    (ha : a.Like S B.shift a') : Goes S B wrong (m.take a) (m'.take a') := by
  cases ha with
  | @callTag tag name slots _ hname hslots =>
    simp only [Machine.take, ← Slot.countP_like hslots]
    obtain ⟨htexts, hm⟩ := h.takeResults (slots.countP (·.isEvaluated))
    rw [← htexts]
    exact hm.callTag hs tag hname (Slot.fill_like hslots _)
  | @callSubroutine _ _ name slots _ hcalled hslots =>
    simp only [Machine.take, ← Slot.countP_like hslots]
    obtain ⟨htexts, hm⟩ := h.takeResults (slots.countP (·.isEvaluated))
    rw [← htexts]
    exact hm.callSubroutine hs hcalled name (Slot.fill_like hslots _)
  | dropArguments =>
    exact .pure (h.change fun _ _ hr => { hr with arguments := forall₂_tail hr.arguments })
  | define hmakes name parameters position =>
    exact ((h.moveTo position position).compilePrinted hmakes name).bind fun _ _ h₁ =>
      .pure (h₁.2.define ⟨rfl, rfl, h₁.1⟩)
  | iterate id => exact h.iterate hs id
  | advance id =>
    exact .pure (h.change fun _ _ hr => hr.modifyRepeater id fun _ _ => Repeater.Like.advance)
  | suppress id =>
    exact .pure (h.change fun _ _ hr => hr.modifyRepeater id fun _ _ => Repeater.Like.suppress)
  | restore id =>
    exact .pure (h.change fun _ _ hr => hr.modifyRepeater id fun _ _ => Repeater.Like.restore)
  | finish hq => exact h.finish hs hq
  | runPrinted hmakes position =>
    exact ((h.moveTo position position).compilePrinted hmakes "meta").bind fun _ _ h₁ =>
      h₁.2.run hs h₁.1
  | evaluate isSilent position => exact (h.moveTo position position).evaluate isSilent
  | replace regex hp position => exact (h.moveTo position position).replace hs regex hp
  | join text spans =>
    obtain ⟨htexts, hm⟩ := h.takeResults spans.length
    simp only [Machine.take]
    rw [← htexts]
    exact hm.perform (Act.agrees_print _)
  | enterMatch x =>
    exact .pure (h.change fun _ _ hr => { hr with matched := congrArg (x :: ·) hr.matched })
  | leaveMatch =>
    exact .pure (h.change fun _ _ hr => { hr with matched := congrArg List.tail hr.matched })

theorem takeAfter (hs : s.Alike B.frames.length s') (h : m.Like S B m') {a a' : Deferred}
    (ha : a.Like S B.shift a') {ps qs : List Passage}
    (hps : List.Forall₂ (Passage.Like S) ps qs) :
    Goes S B wrong (m.takeAfter a ps) (m'.takeAfter a' qs) := by
  cases hps with
  | nil => exact h.take hs ha
  | cons hp hps => exact (h.defer ha).runApart hs (.cons hp hps)

/-! ## Square brackets -/

theorem runTag (hs : s.Alike B.frames.length s') (h : m.Like S B m') (name : Token)
    {ps qs : List Passage} (hps : List.Forall₂ (Passage.Like S) ps qs)
    (hsound : S.isLax ∨ (Bracket.tag name ps).IsSound) :
    Goes S B wrong (m.runTag name ps) (m'.runTag name qs) := by
  have hm := h.moveTo name.position name.position
  have hlength := hps.length_eq
  unfold Machine.runTag
  dsimp only
  cases hfind : TagEntry.find? name.text with
  | none =>
    refine .throw (like_fault_of (.refl _) (hsound.imp id ?_))
    rintro ⟨_, _, hfind', -⟩
    cases hfind.symm.trans hfind'
  | some entry =>
    dsimp only
    rw [← hlength]
    cases hsignature : entry.signature? ps.length with
    | none =>
      refine .throw (like_fault_of (.refl _) (hsound.imp id ?_))
      rintro ⟨_, _, hfind', hsignature'⟩
      cases hfind.symm.trans hfind'
      cases hsignature.symm.trans hsignature'
    | some called =>
      obtain ⟨hslots, hpassages⟩ := Slot.prepare_like hps s.shortcuts.literals called.takesCode 0
      dsimp only
      rw [← hs.literals]
      exact hm.takeAfter hs (.callTag _ (.inr (by rw [hfind]; rfl)) hslots) hpassages

theorem runCall (hs : s.Alike B.frames.length s') (h : m.Like S B m') (name : Token)
    {ps qs : List Passage} (hps : List.Forall₂ (Passage.Like S) ps qs)
    (hwrong : ∀ called, m.registers.subroutines.get? name.text = some called →
      called.arity ≠ ps.length → wrong called.name ps.length) :
    Goes S B wrong (m.runCall name ps) (m'.runCall name qs) := by
  have hm := h.moveTo name.position name.position
  have hget := h.registers.subroutines.get? name.text
  unfold Machine.runCall
  simp only [Machine.moveTo]
  generalize m'.registers.subroutines.get? name.text = y at hget
  cases hx : m.registers.subroutines.get? name.text with
  | none =>
    rw [hx] at hget
    cases hget
    exact .throw (like_fault (by simp [Fault.IsMild]))
  | some called =>
    rw [hx] at hget
    cases hget with
    | @some _ called' hcalled =>
    have harity : called.arity = called'.arity := congrArg List.length hcalled.parameters
    have htakes : called.takesCode = called'.takesCode := by
      funext i
      rw [Subroutine.takesCode, Subroutine.takesCode, hcalled.parameters]
    obtain ⟨hslots, hpassages⟩ := Slot.prepare_like hps s.shortcuts.literals called.takesCode 0
    dsimp only
    rw [← hps.length_eq, ← harity, ← htakes, ← hs.literals, ← hcalled.name]
    split
    · exact hm.takeAfter hs (.callSubroutine name hcalled hslots) hpassages
    · next hne => exact .throw (like_arity (hwrong called hx hne))

theorem runReplacer (hs : s.Alike B.frames.length s') (h : m.Like S B m') (literal : Token)
    {ps qs : List Passage} (hps : List.Forall₂ (Passage.Like S) ps qs)
    (hsound : S.isLax ∨ (Bracket.replacer literal ps).IsSound) :
    Goes S B wrong (m.runReplacer literal ps) (m'.runReplacer literal qs) := by
  have hm := h.moveTo literal.position literal.position
  unfold Machine.runReplacer
  dsimp only
  split
  · next hregex =>
    refine .throw (like_fault_of (.refl _) (hsound.imp id ?_))
    rintro ⟨⟨_, hregex'⟩, -⟩
    cases hregex.symm.trans hregex'
  · have hother : ps.length ≠ 2 → RunError.Like S wrong
        ((m.moveTo literal.position).fault (.arity "replacer" ps.length))
        ((m'.moveTo literal.position).fault (.arity "replacer" qs.length)) := fun hne =>
      like_fault_of (hps.length_eq ▸ .refl _) (hsound.imp id fun hs => absurd hs.2 hne)
    match hps with
    | .nil => exact .throw (hother (by simp))
    | .cons _ .nil => exact .throw (hother (by simp))
    | .cons hinput (.cons hcode .nil) =>
      exact (hm.defer (.replace _ hcode _)).runApart hs (.cons hinput .nil)
    | .cons _ (.cons _ (.cons _ _)) => exact .throw (hother (by simp))

/-- The call that square brackets are, if they are one, is with a wrong number of arguments only
where such calls are expected. -/
def Expects (wrong : String → Nat → Prop) (subroutines : Named Subroutine) : Bracket → Prop
  | .call name arguments => ∀ called, subroutines.get? name.text = some called →
    called.arity ≠ arguments.length → wrong called.name arguments.length
  | _ => True

theorem runBracket (hs : s.Alike B.frames.length s') (h : m.Like S B m') (opener : Token)
    {b b' : Bracket} (hb : b.Alike b') (hreader : ∀ p ∈ b.passages, S.reader (.ofPassage p))
    (hsound : S.isLax ∨ b.IsSound) (hmakes : S.makesCode ∨ ¬b.MakesCode)
    (hwrong : Expects wrong m.registers.subroutines b) :
    Goes S B wrong (m.runBracket opener b) (m'.runBracket opener b') := by
  have hps := Scan.AllAlike.like hb.passages hreader
  cases hb with
  | definition isMeta name parameters hp =>
    have hbody : Passage.Like S _ _ := (List.forall₂_cons.1 hps).1
    cases isMeta with
    | false => exact .pure (h.define ⟨rfl, rfl, hbody⟩)
    | true =>
      have hmade : S.makesCode := hmakes.resolve_right (absurd rfl)
      exact (h.defer (.define hmade _ _ _)).runApart hs hps
  | call name _ => exact h.runCall hs name hps hwrong
  | metapattern hp =>
    have hmade : S.makesCode := hmakes.resolve_right (absurd trivial)
    exact (h.defer (.runPrinted hmade _)).runApart hs hps
  | replacer literal _ => exact h.runReplacer hs literal hps hsound
  | tag name _ => exact h.runTag hs name hps hsound

/-! ## Tokens -/

theorem agrees_printFound {d extra : Nat} (hs : s.Alike extra s')
    (found : Except QueryError String) :
    Act.Agrees S d Eq (printFound s found) (printFound s' found) := by
  unfold printFound
  rw [← hs.strictQueries, ← hs.sentinel]
  cases found with
  | ok word => exact Act.agrees_print word
  | error e => exact .ite (.throw trivial) (Act.agrees_print _)

theorem agrees_query {d extra : Nat} (hs : s.Alike extra s') {text : String}
    (hquery : S.isLax ∨ ∃ q, Query.ofText text = .ok q) :
    Act.Agrees S d Eq (query s text) (query s' text) := by
  unfold query
  rw [← hs.vocabulary]
  cases hof : Query.ofText text with
  | error e =>
    refine ⟨fun _ _ _ => .error ⟨rfl, hquery.imp id ?_⟩⟩
    rintro ⟨q, hq⟩
    cases hof.symm.trans hq
  | ok q =>
    dsimp only
    refine Act.agrees_get.bind fun t t' ht => ?_
    rw [← ht.registers.generator, ← ht.registers.carriers]
    exact .andThen (Act.agrees_change fun _ _ hr => { hr with generator := rfl, carriers := rfl })
      fun _ => agrees_printFound hs _

theorem agrees_printArticles {d : Nat} (n : Nat) :
    Act.Agrees S d Eq (printArticles n) (printArticles n) := by
  induction n with
  | zero => exact .pure rfl
  | succ n ih => exact Act.agrees_printArticle.andThen fun _ => ih

theorem agrees_escape {d : Nat} {literal : String} (h : literal.toList.head? = some '\\') :
    Act.Agrees S d Eq (escape literal) (escape literal) := by
  unfold escape
  split
  · refine .throw ⟨?_, ?_⟩
    · rintro rfl
      simp at h
    · rintro rfl
      simp at h
  · exact agrees_printArticles _
  · exact (Act.agrees_draw _).andThen fun _ => Act.agrees_print _
  · exact Act.agrees_print _

/-- Both machines run a token that they have just read. -/
theorem runToken (hs : s.Alike B.frames.length s') (h : m.Like S B m') {r₀ r₀' : Reader}
    (hr₀ : r₀.Alike r₀') (hS : S.reader r₀) {t : Token} (hread : r₀.read? = some (t, r))
    (hread' : r₀'.read? = some (t, r')) (hr : r.Alike r')
    (hwrong : t.kind = .leftSquare → ∀ b r₁, Bracket.read Bracket.readReplacement r = (.ok b, r₁) →
      Expects wrong m.registers.subroutines b) :
    Goes S B wrong ((m.withReader r).runToken t) ((m'.withReader r').runToken t) := by
  have hplain : t.kind ∉ [.leftCurly, .leftSquare, .leftParen, .leftAngle] →
      t.kind ∉ [.rightCurly, .rightSquare, .rightParen, .rightAngle] →
        (m.withReader r).Like S B (m'.withReader r') := fun hopens hcloses =>
    h.withReader hr (S.plain hS hread hopens hcloses)
  unfold Machine.runToken
  split
  · next ht => exact (h.readBlock hr₀ hS hread hread' hr ht).bind fun _ _ h₁ => h₁.2.enterBlock h₁.1
  · next ht =>
    have hends := (Bracket.agrees_read Bracket.agrees_readReplacement).from_alike r r' hr
    have hpass := S.bracket hS hread ht
    rw [scan_withReader h.frames_ne_nil, scan_withReader h.frames_ne_nil']
    unfold Scan.Passes at hpass
    rcases hb : Bracket.read Bracket.readReplacement r with ⟨x, r₁⟩
    rcases hb' : Bracket.read Bracket.readReplacement r' with ⟨x', r₁'⟩
    rw [hb] at hends hpass
    rw [hb'] at hends
    cases hends with
    | ok halike hr₁ =>
      obtain ⟨hsound, hmakes, hpassages, hreader⟩ := hpass
      exact (h.withReader hr₁ hreader).runBracket hs t halike hpassages hsound hmakes
        (hwrong ht _ _ hb)
    | error he => exact .error (.scope he hpass)
  · next ht =>
    refine (h.scan hr Scan.agrees_expression (S.expression hS hread ht)).bind
      fun ⟨⟨isSilent, code⟩, m₁⟩ ⟨⟨isSilent', code'⟩, m₁'⟩ ⟨⟨he, hcode⟩, hm₁⟩ => ?_
    obtain ⟨rfl, hcode'⟩ : isSilent = isSilent' ∧ code.Alike code' := he
    exact (hm₁.defer (.evaluate _ _)).runApart hs (.cons ⟨hcode', hcode⟩ .nil)
  · next ht =>
    refine (h.scan hr Scan.agrees_query (S.query hS hread ht)).bind
      fun ⟨code, m₁⟩ ⟨code', m₁'⟩ ⟨⟨hcode, hquery⟩, hm₁⟩ => ?_
    dsimp only at hcode
    dsimp only
    rw [← hcode.text]
    exact hm₁.perform (agrees_query hs hquery)
  · next ht =>
    exact (hplain (by simp [ht]) (by simp [ht])).perform (agrees_escape (Reader.escape_of_read? hread ht))
  · next ht => exact (hplain (by simp [ht]) (by simp [ht])).perform (Act.agrees_print _)
  iterate 4
    next ht => exact .throw (.scope (.refl _) (S.closer hS hread (by simp [ht])))
  · next hcurly hsquare hparen hangle _ _ hcurly' hsquare' hparen' hangle' =>
    refine (hplain ?_ ?_).perform (Act.agrees_print _) <;>
      simp only [List.mem_cons, List.not_mem_nil, or_false, not_or]
    · exact ⟨hcurly, hsquare, hparen, hangle⟩
    · exact ⟨hcurly', hsquare', hparen', hangle'⟩

/-- The innermost frames end on both sides. -/
theorem pop (h : m.Like S B m') : m.pop.Like S B m'.pop ∨ m.pop.Done S B m'.pop := by
  rcases h.frames.root_or_cons with
    ⟨f, f', hf, hf', howns, howns'⟩ | ⟨f, f', below, below', hf, hf', howns, hbelow⟩
  · refine .inr ⟨by simp [Machine.pop, hf], by simp [Machine.pop, hf'], h.registers, ?_⟩
    cases hB : B.frames with
    | nil =>
      simp [Machine.pop, Machine.top?, hf, hf', howns, howns', hB, h.output, h.results]
    | cons g others =>
      have houtput : m'.pop.output = m.output := by
        simp [Machine.pop, Machine.top?, Machine.output, hf', howns', hB, h.outputs]
      rw [if_neg (List.cons_ne_nil g others), houtput]
      simp [Machine.pop, Machine.top?, hf, hf', howns, howns', hB, h.results]
  · refine .inl { h with frames := ?_, outputs := ?_, results := ?_ }
    · simpa [Machine.pop, hf, hf'] using hbelow
    · simp [Machine.pop, Machine.top?, hf, hf', howns, h.outputs]
    · simp [Machine.pop, Machine.top?, hf, hf', howns, h.output, h.results]

theorem withPre (h : m.Like S B m') {pre pre' : List Deferred}
    (hpre : List.Forall₂ (Deferred.Like S B.shift) pre pre') :
    (m.modifyTop fun f => { f with pre := pre }).Like S B
      (m'.modifyTop fun f => { f with pre := pre' }) :=
  h.modifyTop (fun _ _ hf => { hf with pre := hpre }) (fun _ => rfl) fun _ => rfl

theorem withPost (h : m.Like S B m') {post post' : List Deferred}
    (hpost : List.Forall₂ (Deferred.Like S B.shift) post post') :
    (m.modifyTop fun f => { f with post := post }).Like S B
      (m'.modifyTop fun f => { f with post := post' }) :=
  h.modifyTop (fun _ _ hf => { hf with post := hpost }) (fun _ => rfl) fun _ => rfl

/-- Machines that are alike take the same step. -/
theorem step (hs : s.Alike B.frames.length s') (h : m.Like S B m') :
    Matches (RunError.Like S m.Miscalls) (fun x y => x.Like S B y ∨ x.Done S B y) m.step
      m'.step := by
  have goes : ∀ {x : Except RunError (Machine s)} {x' : Except RunError (Machine s')},
      Goes S B m.Miscalls x x' →
        Matches (RunError.Like S m.Miscalls) (fun x y => x.Like S B y ∨ x.Done S B y) x x' :=
    fun h => h.weaken (fun _ _ => id) fun _ _ => .inl
  obtain ⟨f, below, f', below', hf, hf', hlike⟩ := h.frames.exists_head
  have hpre := hlike.pre
  have hpost := hlike.post
  have hreads := hlike.reader.read?
  simp only [Machine.step, hf, hf']
  rcases hx : f.pre with _ | ⟨a, pre⟩
  · rw [hx] at hpre
    rw [List.forall₂_nil_left_iff.1 hpre]
    rcases hread : f.reader.read? with _ | ⟨t, r⟩ <;>
      rcases hread' : f'.reader.read? with _ | ⟨t', r'⟩ <;> rw [hread, hread'] at hreads
    · rcases hy : f.post with _ | ⟨a, post⟩
      · rw [hy] at hpost
        rw [List.forall₂_nil_left_iff.1 hpost]
        exact .pure h.pop
      · rw [hy] at hpost
        obtain ⟨a', post', ha, hpost, hy'⟩ := List.forall₂_cons_left_iff.1 hpost
        rw [hy']
        exact goes ((h.withPost hpost).take hs ha)
    · cases hreads
    · cases hreads
    · obtain ⟨rfl, hr⟩ : t = t' ∧ r.Alike r' := by
        cases hreads with
        | some h => exact h
      refine goes ((h.moveTo t.position t.position).runToken hs hlike.reader hlike.standard hread
        hread' hr fun ht b r₁ hb => ?_)
      cases b with
      | call name arguments =>
        exact fun called hget hne =>
          ⟨f, below, t, r, name, arguments, r₁, called, hf, hx, hread, ht, hb, hget, rfl, rfl, hne⟩
      | _ => trivial
  · rw [hx] at hpre
    obtain ⟨a', pre', ha, hpre, hx'⟩ := List.forall₂_cons_left_iff.1 hpre
    rw [hx']
    exact goes ((h.withPre hpre).take hs ha)

end Like

end Machine

end Wordsmith
