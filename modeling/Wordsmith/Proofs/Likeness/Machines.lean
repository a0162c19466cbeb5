import Wordsmith.Machine.Step
import Wordsmith.Proofs.Likeness.Acts
import Wordsmith.Proofs.Likeness.Recall

/-!
# Machines alike

Two machines are alike if their frames are, one by one, and so is what they remember, print and have
printed. The second may stand on a footing of some frames of its own, which the first does not have,
so its ids are ahead; then its lowest frame that the first has as well prints to the output of the
footing, where the first prints to an output of its own.

Main results: what every operation on a machine makes of two machines that are alike.
-/

namespace Wordsmith

variable {S : Standard}

/-! ## Frames -/

/-- The frames are at the same token of code that is alike, and the same is left to be done. -/
structure Frame.Like (S : Standard) (d : Nat) (f f' : Frame) : Prop where
  id : f'.id = f.id + d
  reader : f.reader.Alike f'.reader
  standard : S.reader f.reader
  mark : f.mark = f'.mark
  pre : List.Forall₂ (Deferred.Like S d) f.pre f'.pre
  post : List.Forall₂ (Deferred.Like S d) f.post f'.post

/-- The frames that only the second of two machines has, below all others, and how far its ids are
ahead. -/
structure Footing where
  frames : List Frame
  shift : Nat
  id_lt : ∀ f ∈ frames, f.id < shift

/-- No frames, and no shift. -/
def Footing.none : Footing := ⟨[], 0, nofun⟩

/-- The frames above the footing are alike. All but the lowest of them own an output on both sides
or on none; the lowest owns one on the first side, and on the second if there is no footing. -/
inductive Frame.Stacks (S : Standard) (B : Footing) : List Frame → List Frame → Prop
  | root {f f' : Frame} (h : f.Like S B.shift f') (howns : f.owns = true)
    (howns' : f'.owns = B.frames.isEmpty) : Stacks S B [f] (f' :: B.frames)
  | cons {f f' : Frame} {below below' : List Frame} (h : f.Like S B.shift f')
    (howns : f.owns = f'.owns) (hbelow : Stacks S B below below') :
    Stacks S B (f :: below) (f' :: below')

namespace Frame.Stacks

variable {B : Footing} {frames frames' : List Frame}

theorem length (h : Stacks S B frames frames') :
    frames'.length = frames.length + B.frames.length := by
  induction h with
  | root => simp [Nat.add_comm]
  | cons _ _ _ ih =>
    rw [List.length_cons, List.length_cons, ih]
    omega

theorem exists_head (h : Stacks S B frames frames') :
    ∃ f below f' below', frames = f :: below ∧ frames' = f' :: below' ∧ f.Like S B.shift f' := by
  cases h with
  | root h => exact ⟨_, _, _, _, rfl, rfl, h⟩
  | cons h => exact ⟨_, _, _, _, rfl, rfl, h⟩

/-- The innermost frames are the lowest ones above the footing, or stand on others. -/
theorem root_or_cons (h : Stacks S B frames frames') :
    (∃ f f', frames = [f] ∧ frames' = f' :: B.frames ∧ f.owns = true ∧
      f'.owns = B.frames.isEmpty) ∨
    ∃ f f' below below', frames = f :: below ∧ frames' = f' :: below' ∧ f.owns = f'.owns ∧
      Stacks S B below below' := by
  cases h with
  | root _ howns howns' => exact .inl ⟨_, _, rfl, rfl, howns, howns'⟩
  | cons _ howns hbelow => exact .inr ⟨_, _, _, _, rfl, rfl, howns, hbelow⟩

/-- The innermost frames have changed alike. -/
theorem modifyHead (h : Stacks S B frames frames') {g g' : Frame → Frame}
    (hg : ∀ f f', Frame.Like S B.shift f f' → (g f).Like S B.shift (g' f'))
    (howns : ∀ f, (g f).owns = f.owns) (howns' : ∀ f, (g' f).owns = f.owns) :
    Stacks S B (frames.modifyHead g) (frames'.modifyHead g') := by
  cases h with
  | root h hf hf' => exact .root (hg _ _ h) ((howns _).trans hf) ((howns' _).trans hf')
  | cons h hf hbelow =>
    exact .cons (hg _ _ h) ((howns _).trans (hf.trans (howns' _).symm)) hbelow

theorem findIdx? (h : Stacks S B frames frames') (base : Nat) :
    frames'.findIdx? (·.id == base + B.shift) = frames.findIdx? (·.id == base) := by
  induction h with
  | @root f f' h =>
    have hbelow : B.frames.findIdx? (·.id == base + B.shift) = none := by
      refine List.findIdx?_eq_none_iff.2 fun g hg => ?_
      have := B.id_lt g hg
      exact beq_eq_false_iff_ne.2 (by omega)
    have hid : (f'.id == base + B.shift) = (f.id == base) := by simp [h.id]
    rw [List.findIdx?_cons, List.findIdx?_cons, hid, hbelow, List.findIdx?_nil]
  | @cons f f' _ _ h _ _ ih =>
    have hid : (f'.id == base + B.shift) = (f.id == base) := by simp [h.id]
    rw [List.findIdx?_cons, List.findIdx?_cons, hid, ih]

/-- Frames above one that is there are alike in all, and so are the others. -/
theorem split (h : Stacks S B frames frames') {n : Nat} (hn : n < frames.length) :
    List.Forall₂ (fun f f' => f.Like S B.shift f' ∧ f.owns = f'.owns) (frames.take n)
        (frames'.take n) ∧ Stacks S B (frames.drop n) (frames'.drop n) := by
  induction h generalizing n with
  | root h howns howns' =>
    obtain rfl : n = 0 := Nat.lt_one_iff.1 hn
    exact ⟨.nil, .root h howns howns'⟩
  | cons h howns hbelow ih =>
    cases n with
    | zero => exact ⟨.nil, .cons h howns hbelow⟩
    | succ n =>
      obtain ⟨habove, hrest⟩ := ih (Nat.lt_of_succ_lt_succ hn)
      exact ⟨.cons ⟨h, howns⟩ habove, hrest⟩

end Frame.Stacks

/-! ## Errors -/

/-- The faults are the same but for how much was allowed. -/
inductive Fault.Alike : Fault → Fault → Prop
  | refl (f : Fault) : Alike f f
  | exceeded (resource : Resource) (n k : Nat) :
    Alike (.exceeded ⟨resource, n⟩) (.exceeded ⟨resource, k⟩)

/-- The errors are of one kind and say the same but for places and limits. -/
inductive RunError.Alike : RunError → RunError → Prop
  | scope {e e' : ScopeError} (h : e.Alike e') : Alike (.scope e) (.scope e')
  | lex (e : LexError) : Alike (.lex e) (.lex e)
  | fault {f f' : Fault} (p p' : String) (i i' : Position) (h : f.Alike f') :
    Alike (.fault p i f) (.fault p' i' f')

/-- The error is a mild fault, or calls of subroutines with the wrong number of arguments may be
expected, and it is one of these. -/
inductive RunError.IsMild (wrong : String → Nat → Prop) : RunError → Prop
  | fault {f : Fault} (p : String) (i : Position) (h : f.IsMild) : IsMild wrong (.fault p i f)
  | arity {name : String} {count : Nat} (p : String) (i : Position) (h : wrong name count) :
    IsMild wrong (.fault p i (.arity name count))

/-- The errors are alike, and mild unless the standard is lax. What reading fails with is what it
may fail with. -/
structure RunError.Like (S : Standard) (wrong : String → Nat → Prop) (e e' : RunError) : Prop where
  alike : e.Alike e'
  mild : S.isLax ∨ e.IsMild wrong
  fails : ∀ x, e = .scope x → S.fails x

theorem RunError.Like.scope {wrong : String → Nat → Prop} {e e' : ScopeError} (h : e.Alike e')
    (hfails : S.fails e) : RunError.Like S wrong (.scope e) (.scope e') :=
  ⟨.scope h, .inl (S.lax_of_fails hfails), fun _ heq => RunError.scope.inj heq ▸ hfails⟩

/-! ## Machines -/

/-- The machines are alike but for the footing of the second. -/
structure Machine.Like (S : Standard) (B : Footing) {s s' : Setting} (m : Machine s)
    (m' : Machine s') : Prop where
  frames : Frame.Stacks S B m.frames m'.frames
  outputs : m.outputs = m'.outputs
  results : m.results = m'.results
  registers : m.registers.Like S B.shift m'.registers
  blocks : ∀ e ∈ m.blocks, e.2.IsGenuine e.1
  blocks' : ∀ e ∈ m'.blocks, e.2.IsGenuine e.1
  nextId : m'.nextId = m.nextId + B.shift

namespace Machine

variable {B : Footing} {s s' : Setting} {m : Machine s} {m' : Machine s'} {α α' : Type}
  {wrong : String → Nat → Prop}

/-- The machine with the innermost frame's reader put elsewhere. -/
def withReader (m : Machine s) (r : Reader) : Machine s :=
  m.modifyTop fun f => { f with reader := r }

theorem scan_withReader (hframes : m.frames ≠ []) (scan : Scan α) (r : Reader) :
    (m.withReader r).scan scan = match scan r with
      | (.error e, _) => .error (.scope e)
      | (.ok x, r') => .ok (x, m.withReader r') := by
  obtain ⟨f, below, hf⟩ := List.exists_cons_of_ne_nil hframes
  simp only [Machine.scan, withReader, top?, modifyTop, hf, List.modifyHead_cons, List.head?_cons]
  change (match scan r with | (.error e, _) => _ | (.ok x, r') => _) = _
  split <;> rfl

theorem push_eq_ok (h : m.frames.length + 1 ≤ s.maxDepth) (p : Passage) (owns : Bool)
    (pre post : List Deferred) : m.push p owns pre post = .ok { m with
      frames := ⟨m.nextId, .ofPassage p, owns, m.results.length, pre, post⟩ :: m.frames
      frames_le := h
      outputs := if owns then .initial :: m.outputs else m.outputs
      nextId := m.nextId + 1 } := by
  have hdepth : checkDepth s.maxDepth (m.frames.length + 1) = .ok () := if_neg (Nat.not_lt.2 h)
  unfold push
  split
  · next he => cases hdepth.symm.trans he
  · rfl

theorem push_eq_error (h : s.maxDepth < m.frames.length + 1) (p : Passage) (owns : Bool)
    (pre post : List Deferred) :
    m.push p owns pre post = .error (m.fault (.exceeded ⟨.stackDepth, s.maxDepth⟩)) := by
  have hdepth : checkDepth s.maxDepth (m.frames.length + 1) =
      .error ⟨.stackDepth, s.maxDepth⟩ := if_pos h
  unfold push
  split
  · next he =>
    cases hdepth.symm.trans he
    rfl
  · next hok => cases hdepth.symm.trans hok

/-- What both computations come to: errors that are alike, or machines that are. -/
abbrev Goes (S : Standard) (B : Footing) (wrong : String → Nat → Prop) :
    Except RunError (Machine s) → Except RunError (Machine s') → Prop :=
  Matches (RunError.Like S wrong) (Like S B)

/-- Faults that are alike, and mild unless the standard is lax. -/
theorem like_fault_of {f f' : Fault} (h : f.Alike f') (hmild : S.isLax ∨ f.IsMild) :
    (m.fault f).Like S wrong (m'.fault f') :=
  ⟨.fault _ _ _ _ h, hmild.imp id (.fault _ _), fun _ hscope => RunError.noConfusion hscope⟩

/-- Both faults are of a call that may be expected to have a wrong number of arguments. -/
theorem like_arity {name : String} {count : Nat} (h : wrong name count) :
    (m.fault (.arity name count)).Like S wrong (m'.fault (.arity name count)) :=
  ⟨.fault _ _ _ _ (.refl _), .inr (.arity _ _ h), fun _ hscope => RunError.noConfusion hscope⟩

/-- Both faults are the same, and mild. -/
theorem like_fault {f : Fault} (hf : f.IsMild) : (m.fault f).Like S wrong (m'.fault f) :=
  like_fault_of (.refl f) (.inr hf)

namespace Like

theorem frames_ne_nil (h : m.Like S B m') : m.frames ≠ [] := by
  obtain ⟨_, _, _, _, hf, -⟩ := h.frames.exists_head
  simp [hf]

theorem frames_ne_nil' (h : m.Like S B m') : m'.frames ≠ [] := by
  obtain ⟨_, _, _, _, -, hf, -⟩ := h.frames.exists_head
  simp [hf]

theorem top? (h : m.Like S B m') : Option.Rel (Frame.Like S B.shift) m.top? m'.top? := by
  obtain ⟨_, _, _, _, hf, hf', hlike⟩ := h.frames.exists_head
  rw [Machine.top?, Machine.top?, hf, hf']
  exact .some hlike

theorem patternCode (h : m.Like S B m') : m.patternCode = m'.patternCode := by
  have htop := h.top?
  rw [Machine.patternCode, Machine.patternCode]
  generalize m.top? = x, m'.top? = y at htop
  cases htop with
  | none => rfl
  | some h => exact h.reader.code

theorem output (h : m.Like S B m') : m.output = m'.output := by
  rw [Machine.output, Machine.output, h.outputs]

theorem moveTo (h : m.Like S B m') (p p' : Position) : (m.moveTo p).Like S B (m'.moveTo p') :=
  { h with }

theorem change (h : m.Like S B m') {f f' : Registers → Registers}
    (hf : ∀ r r', Registers.Like S B.shift r r' → (f r).Like S B.shift (f' r')) :
    (m.change f).Like S B (m'.change f') := { h with registers := hf _ _ h.registers }

theorem modifyTop (h : m.Like S B m') {g g' : Frame → Frame}
    (hg : ∀ f f', Frame.Like S B.shift f f' → (g f).Like S B.shift (g' f'))
    (howns : ∀ f, (g f).owns = f.owns) (howns' : ∀ f, (g' f).owns = f.owns) :
    (m.modifyTop g).Like S B (m'.modifyTop g') :=
  { h with frames := h.frames.modifyHead hg howns howns' }

theorem withReader (h : m.Like S B m') {r r' : Reader} (hr : r.Alike r') (hS : S.reader r) :
    (m.withReader r).Like S B (m'.withReader r') :=
  h.modifyTop (fun _ _ hf => { hf with reader := hr, standard := hS }) (fun _ => rfl) fun _ => rfl

theorem defer (h : m.Like S B m') {a a' : Deferred} (ha : a.Like S B.shift a') :
    (m.defer a).Like S B (m'.defer a') :=
  h.modifyTop (fun _ _ hf => { hf with pre := .cons ha hf.pre }) (fun _ => rfl) fun _ => rfl

/-! ## Acts and scans -/

theorem act (h : m.Like S B m') {R : α → α' → Prop} {a : Act α} {a' : Act α'}
    (ha : Act.Agrees S B.shift R a a') :
    Matches (RunError.Like S wrong) (fun x y => R x.1 y.1 ∧ x.2.Like S B y.2) (m.act a)
      (m'.act a') := by
  obtain ⟨frames, hle, outputs, results, registers, blocks, position, nextId⟩ := m
  obtain ⟨frames', hle', outputs', results', registers', blocks', position', nextId'⟩ := m'
  obtain rfl : outputs = outputs' := h.outputs
  have scene : ∀ o others, Matches (RunError.Like S wrong)
      (fun x y => R x.1 y.1 ∧ x.2.Like S B y.2)
      ((⟨frames, hle, o :: others, results, registers, blocks, position, nextId⟩ :
        Machine s).act a)
      ((⟨frames', hle', o :: others, results', registers', blocks', position', nextId'⟩ :
        Machine s').act a') := by
    intro o others
    have hrun := ha.from_alike ⟨registers, o⟩ ⟨registers', o⟩ ⟨h.registers, rfl⟩
    simp only [Machine.act, StateT.run]
    generalize a ⟨registers, o⟩ = x, a' ⟨registers', o⟩ = y at hrun
    cases hrun with
    | ok hok =>
      refine .ok ⟨hok.1, { h with outputs := ?_, registers := hok.2.registers }⟩
      exact congrArg (· :: others) hok.2.output
    | error he =>
      obtain ⟨rfl, hmild⟩ := he
      exact .error (like_fault_of (.refl _) hmild)
  cases outputs with
  | nil => exact scene .initial []
  | cons o others => exact scene o others

theorem perform (h : m.Like S B m') {a a' : Act Unit} (ha : Act.Agrees S B.shift Eq a a') :
    Goes S B wrong (m.perform a) (m'.perform a') :=
  (h.act ha).bind fun _ _ h => .pure h.2

/-- What both machines scan, given that the reader of the first passes the scan. -/
theorem scan (h : m.Like S B m') {r r' : Reader} (hr : r.Alike r') {R : α → α' → Prop}
    {P : α → Prop} {x : Scan α} {x' : Scan α'} (hx : Scan.Agrees R x x')
    (hpass : Scan.Passes S.fails (fun y r' => P y ∧ S.reader r') x r) :
    Matches (RunError.Like S wrong) (fun y y' => (R y.1 y'.1 ∧ P y.1) ∧ y.2.Like S B y'.2)
      ((m.withReader r).scan x) ((m'.withReader r').scan x') := by
  rw [scan_withReader h.frames_ne_nil, scan_withReader h.frames_ne_nil']
  have hends := hx.from_alike r r' hr
  unfold Scan.Passes at hpass
  generalize x r = y, x' r' = y' at hends hpass
  cases hends with
  | ok hR hr => exact .ok ⟨⟨hR, hpass.1⟩, h.withReader hr hpass.2⟩
  | error he => exact .error (.scope he hpass)

/-! ## Frames that come -/

theorem push (hs : s.Alike B.frames.length s') (h : m.Like S B m') {p q : Passage}
    (hp : p.Like S q) (owns : Bool) {pre post pre' post' : List Deferred}
    (hpre : List.Forall₂ (Deferred.Like S B.shift) pre pre')
    (hpost : List.Forall₂ (Deferred.Like S B.shift) post post') :
    Goes S B wrong (m.push p owns pre post) (m'.push q owns pre' post') := by
  have hframe : Frame.Like S B.shift ⟨m.nextId, .ofPassage p, owns, m.results.length, pre, post⟩
      ⟨m'.nextId, .ofPassage q, owns, m'.results.length, pre', post'⟩ :=
    ⟨h.nextId, .ofPassage hp.alike, hp.reader, congrArg List.length h.results, hpre, hpost⟩
  have hlength := h.frames.length
  have hdepth := hs.maxDepth
  by_cases hlimit : m.frames.length + 1 ≤ s.maxDepth
  · rw [push_eq_ok hlimit, push_eq_ok (by omega)]
    refine .ok { h with frames := .cons hframe rfl h.frames, outputs := ?_, nextId := ?_ }
    · rw [h.outputs]
    · rw [h.nextId, Nat.add_right_comm]
  · rw [push_eq_error (by omega), push_eq_error (by omega)]
    exact .error (like_fault_of (.exceeded ..) (.inr trivial))

theorem pushAny (hs : s.Alike B.frames.length s') (h : m.Like S B m') {p q : Option Passage}
    (hp : Option.Rel (Passage.Like S) p q) {pre post pre' post' : List Deferred}
    (hpre : List.Forall₂ (Deferred.Like S B.shift) pre pre')
    (hpost : List.Forall₂ (Deferred.Like S B.shift) post post') :
    Goes S B wrong (m.pushAny p pre post) (m'.pushAny q pre' post') := by
  cases hp with
  | none => exact .pure h
  | some hp => exact h.push hs hp false hpre hpost

theorem run (hs : s.Alike B.frames.length s') (h : m.Like S B m') {p q : Passage}
    (hp : p.Like S q) : Goes S B wrong (m.run p) (m'.run q) := h.push hs hp false .nil .nil

theorem runApart (hs : s.Alike B.frames.length s') (h : m.Like S B m') {ps qs : List Passage}
    (hps : List.Forall₂ (Passage.Like S) ps qs) :
    Goes S B wrong (m.runApart ps) (m'.runApart qs) :=
  .foldlM (fun _ _ _ _ h hp => h.push hs hp true .nil .nil) (List.forall₂_reverse_iff.2 hps) h

/-! ## Results -/

theorem takeResult (h : m.Like S B m') :
    m.takeResult.1 = m'.takeResult.1 ∧ m.takeResult.2.Like S B m'.takeResult.2 := by
  refine ⟨?_, { h with results := congrArg List.tail h.results }⟩
  rw [Machine.takeResult, Machine.takeResult, h.results]

theorem takeResults (h : m.Like S B m') (n : Nat) :
    (m.takeResults n).1 = (m'.takeResults n).1 ∧
      (m.takeResults n).2.Like S B (m'.takeResults n).2 := by
  refine ⟨?_, { h with results := congrArg (List.drop n) h.results }⟩
  rw [Machine.takeResults, Machine.takeResults, h.results]

/-! ## Frames that go -/

theorem giveUp {r r' : Registers} (hr : r.Like S B.shift r') {frames frames' : List Frame}
    (h : List.Forall₂ (Frame.Like S B.shift) frames frames') :
    (Machine.giveUp r frames).Like S B.shift (Machine.giveUp r' frames') := by
  have hundo : ∀ {l l' : List Deferred} {r r' : Registers}, r.Like S B.shift r' →
      List.Forall₂ (Deferred.Like S B.shift) l l' →
        (l.foldl Registers.undo r).Like S B.shift (l'.foldl Registers.undo r') := by
    intro l l' r r' hr hl
    induction hl generalizing r r' with
    | nil => exact hr
    | cons ha _ ih => exact ih (hr.undo ha)
  refine hundo hr ?_
  induction h with
  | nil => exact .nil
  | cons h _ ih =>
    rw [List.flatMap_cons, List.flatMap_cons]
    exact List.rel_append (List.rel_append h.pre h.post) ih

theorem leave (h : m.Like S B m') : m.leave.Like S B m'.leave := by
  have hrepeaters := h.registers.repeaters
  unfold Machine.leave
  generalize m.registers.repeaters = rs, m'.registers.repeaters = rs' at hrepeaters
  cases hrepeaters with
  | nil => exact h
  | @cons r r' others others' hr hothers =>
    have hfinish : Registers.Like S B.shift
        { m.registers with repeaters := r.finish :: others }
        { m'.registers with repeaters := r'.finish :: others' } :=
      { h.registers with repeaters := .cons hr.finish hothers }
    dsimp only
    rw [hr.base, h.frames.findIdx?]
    cases hn : m.frames.findIdx? (·.id == r.base) with
    | none => exact { h with registers := hfinish }
    | some n =>
      have hlt := (List.findIdx?_eq_some_iff_getElem.1 hn).1
      obtain ⟨hdropped, hframes⟩ := h.frames.split hlt
      refine { h with
        frames := hframes
        outputs := ?_
        results := ?_
        registers := giveUp hfinish (hdropped.imp fun _ _ hf => hf.1) }
      · dsimp only
        have hcount : (m.frames.take n).countP (·.owns) = (m'.frames.take n).countP (·.owns) := by
          generalize m.frames.take n = l, m'.frames.take n = l' at hdropped
          induction hdropped with
          | nil => rfl
          | cons hf _ ih => rw [List.countP_cons, List.countP_cons, ih, hf.2]
        rw [h.outputs, hcount]
      · dsimp only
        have hlast := forall₂_head? (List.forall₂_reverse_iff.2 hdropped)
        rw [List.head?_reverse, List.head?_reverse] at hlast
        generalize (m.frames.take n).getLast? = x, (m'.frames.take n).getLast? = y at hlast
        cases hlast with
        | none => exact h.results
        | some hf =>
          dsimp only
          rw [h.results, hf.1.mark]

end Like

end Machine

end Wordsmith
