import Wordsmith.Proofs.Literals.Actions

/-!
# Steps with and without plain arguments

A step of two machines that rest on level strata is the same for both, but for a call all of whose
arguments are plain: the first takes it at once, and the second puts it off. The first then makes the
step of a machine that has put it off as well, and waits for nothing.

Main results: `Machine.Rest.step`, what comes of a step of machines that rest, and
`Machine.Awaits.step`, what comes of it when all that they waited for is done.
-/

namespace Wordsmith

namespace Machine

variable {s : Setting} {m : Machine s} {m' : Machine s.evaluating}

/-! ## Steps -/

/-- The second computation does the same as the first, unless it puts off what the first does at
once. Then the first is the step of a machine with the same registers that has put it off as well,
and waits for nothing. -/
inductive Advances (q : Registers) (x : Except RunError (Machine s))
    (y : Except RunError (Machine s.evaluating)) : Prop
  | follows (h : Follows Stands x y)
  | owes {n : Machine s} {n' : Machine s.evaluating} {slots : List Slot} (hx : x = n.step)
      (hy : y = .ok n') (hn : n.Sane none) (hq : n.registers = q)
      (hslots : slots.countP (·.isEvaluated) = 0) (h : Awaits slots n n')

namespace Advances

variable {α β : Type} {R : α → β → Prop} {q : Registers}

theorem bind {x : Except RunError α} {y : Except RunError β} {f : α → Except RunError (Machine s)}
    {f' : β → Except RunError (Machine s.evaluating)} (h : Follows R x y)
    (hf : ∀ a b, R a b → Advances q (f a) (f' b)) : Advances q (x >>= f) (y >>= f') := by
  cases h with
  | ok h => exact hf _ _ h
  | error e => exact .follows (.error e)
  | deep _ h => exact .follows (.deep _ h)

theorem of_idle {x : Except RunError (Machine s)} {y : Except RunError (Machine s.evaluating)}
    (h : Follows Idle x y) : Advances q x y := .follows (follows_of_idle h)

end Advances

theorem Sane.hold (h : m.Sane none) {a : Deferred} (ha : a.IsNeutral) : m.Sane (some a) :=
  ⟨h.coherent.hold ha, h.neat⟩

/-- What is due is put in front of what the innermost frame is going to do. -/
theorem Sane.defer {a : Deferred} (h : m.Sane (some a)) {f : Frame} {below : List Frame}
    (hframes : m.frames = f :: below) (hpre : f.pre = []) : (m.defer a).Sane none := by
  have hne : m.frames ≠ [] := hframes ▸ List.cons_ne_nil _ _
  refine ⟨h.coherent.defer hne, fun g hg => ?_⟩
  rw [Machine.defer, frames_modifyTop hframes] at hg
  rcases List.mem_cons.1 hg with rfl | hg
  · exact (h.neat f (hframes ▸ List.mem_cons_self)).defer hpre a
  · exact h.neat g (hframes ▸ List.mem_cons_of_mem f hg)

/-- An action that was put off is taken next. -/
theorem step_defer (hframes : m.frames ≠ []) (a : Deferred) : (m.defer a).step = m.take a := by
  obtain ⟨f, below, hf⟩ := List.exists_cons_of_ne_nil hframes
  have hdefer : (m.defer a).frames = { f with pre := a :: f.pre } :: below := frames_modifyTop hf _
  rw [step_take hdefer rfl]
  obtain ⟨frames, hle, outputs, results, registers, blocks, position, nextId⟩ := m
  obtain rfl : frames = f :: below := hf
  rfl

theorem takeAfter_of_ne_nil (m : Machine s) (a : Deferred) {ps : List Passage} (h : ps ≠ []) :
    m.takeAfter a ps = (m.defer a).pushes (Slot.openings ps).reverse := by
  obtain ⟨p, ps, rfl⟩ := List.exists_cons_of_ne_nil h
  exact runApart_eq_pushes _ _

namespace Rest

/-- A call is put off for the arguments that are run for it, or taken at once. -/
theorem takeAfter (h : Clear [] [] m m') (hm : m.Sane none) (hm' : m'.Sane none)
    (act : List Slot → Deferred) (hact : ∀ {slots slots' : List Slot},
      List.Forall₂ Slot.Opens slots slots' → (act slots).Opens slots (act slots'))
    (hneutral : ∀ slots, (act slots).IsNeutral) (literals : Bool) (takesCode : Nat → Bool)
    (ps : List Passage) :
    Advances m.registers
      (m.takeAfter (act (Slot.prepare literals takesCode 0 ps).1)
        (Slot.prepare literals takesCode 0 ps).2)
      (m'.takeAfter (act (Slot.prepare false takesCode 0 ps).1)
        (Slot.prepare false takesCode 0 ps).2) := by
  have hopens := hact (Slot.prepare_opens takesCode literals 0 ps)
  have htodo := Slot.prepare_todo takesCode literals 0 ps
  have hstarts := Slot.prepare_starts takesCode literals 0 ps
  have hcount := Slot.countP_prepare literals takesCode 0 ps
  generalize Slot.prepare literals takesCode 0 ps = prepared,
    Slot.prepare false takesCode 0 ps = opened at *
  obtain ⟨slots, passages⟩ := prepared
  obtain ⟨slots', passages'⟩ := opened
  dsimp only at hopens htodo hstarts hcount ⊢
  have howns : ∀ qs : List Passage, ∀ o ∈ Slot.openings qs, o.owns = true := fun qs o ho =>
    (Opening.isFresh_map_idle qs true o ho).2
  have hputOff := h.postpone hopens (howns passages) (howns passages') htodo hstarts
  by_cases hnone' : passages' = []
  · subst hnone'
    obtain ⟨hnone, hdone⟩ := (htodo 0 0 0 0).done rfl
    have hlength := congrArg List.length hnone
    rw [Opening.length_frames] at hlength
    obtain rfl : passages = [] := by simpa [Slot.openings] using hlength
    exact .follows (h.takeOpened hopens hdone hm hm')
  · rw [takeAfter_of_ne_nil m' _ hnone']
    by_cases hnone : passages = []
    · subst hnone
      obtain ⟨f, f', x, x', hpre, htwin⟩ := h
      have hsane := (hm.hold (hneutral slots)).defer htwin.frames hpre
      have hstep : m.takeAfter (act slots) [] = (m.defer (act slots)).step :=
        (step_defer (htwin.frames ▸ List.cons_ne_nil _ _) _).symm
      rw [hstep]
      generalize (m'.defer (act slots')).pushes _ = y at hputOff
      generalize hx : (m.defer (act slots)).pushes _ = x at hputOff
      cases hputOff with
      | ok hawaits =>
        cases hx
        exact .owes rfl rfl hsane rfl hcount hawaits
      | error => cases hx
      | deep _ hdeep => exact .follows (.deep _ hdeep)
    · rw [takeAfter_of_ne_nil m _ hnone]
      exact .follows (follows_of_awaits hputOff)

theorem runTag (h : Clear [] [] m m') (hm : m.Sane none) (hm' : m'.Sane none) (name : Token)
    (arguments : List Passage) :
    Advances m.registers (m.runTag name arguments) (m'.runTag name arguments) := by
  have hmoved := h.moveTo name.position
  unfold Machine.runTag
  dsimp only
  split
  · rw [hmoved.fault_eq]
    exact .follows (.throw _)
  · split
    · rw [hmoved.fault_eq]
      exact .follows (.throw _)
    · next called _ =>
      exact hmoved.takeAfter (hm.moveTo _) (hm'.moveTo _)
        (fun slots => .callTag called.tag name slots) (.callTag _ _)
        (Deferred.isNeutral_callTag _ _) s.shortcuts.literals called.takesCode arguments

theorem runCall (h : Clear [] [] m m') (hm : m.Sane none) (hm' : m'.Sane none) (name : Token)
    (arguments : List Passage) :
    Advances m.registers (m.runCall name arguments) (m'.runCall name arguments) := by
  have hmoved := h.moveTo name.position
  have hknown : (m'.moveTo name.position).registers.subroutines =
      (m.moveTo name.position).registers.subroutines :=
    hmoved.agree.registers.rest_eq (f := Registers.subroutines) fun _ _ _ => rfl
  unfold Machine.runCall
  dsimp only
  rw [hknown]
  split
  · rw [hmoved.fault_eq]
    exact .follows (.throw _)
  · next called _ =>
    split
    · exact hmoved.takeAfter (hm.moveTo _) (hm'.moveTo _)
        (fun slots => .callSubroutine called name slots) (.callSubroutine _ _)
        (Deferred.isNeutral_callSubroutine _ _) s.shortcuts.literals called.takesCode arguments
    · rw [hmoved.fault_eq]
      exact .follows (.throw _)

theorem runReplacer (h : Clear [] [] m m') (literal : Token) (arguments : List Passage) :
    Follows Stands (m.runReplacer literal arguments) (m'.runReplacer literal arguments) := by
  have hmoved := h.moveTo literal.position
  unfold Machine.runReplacer
  dsimp only
  split
  · rw [hmoved.fault_eq]
    exact .throw _
  · split
    · exact hmoved.runApart (a := .replace ..) trivial rfl _
    · rw [hmoved.fault_eq]
      exact .throw _

theorem runBracket (h : Clear [] [] m m') (hm : m.Sane none) (hm' : m'.Sane none) (opener : Token)
    (b : Bracket) : Advances m.registers (m.runBracket opener b) (m'.runBracket opener b) := by
  cases b with
  | definition isMeta name parameters body =>
    unfold Machine.runBracket
    dsimp only
    split
    · exact .follows (h.runApart (a := .define ..) trivial rfl _)
    · exact .of_idle (.pure (h.define _).idle)
  | call name arguments => exact h.runCall hm hm' name arguments
  | metapattern body => exact .follows (h.runApart (a := .runPrinted ..) trivial rfl _)
  | replacer literal arguments => exact .follows (h.runReplacer literal arguments)
  | tag name arguments => exact h.runTag hm hm' name arguments

theorem query_evaluating (s : Setting) (text : String) :
    query s.evaluating text = query s text := by
  unfold query
  split <;> rfl

theorem runToken (h : Clear [] [] m m') (hm : m.Sane none) (hm' : m'.Sane none) (t : Token) :
    Advances m.registers (m.runToken t) (m'.runToken t) := by
  have performed : ∀ {n : Machine s} {n' : Machine s.evaluating} {a : Act Unit}, Clear [] [] n n' →
      a.Blind → Advances m.registers (n.perform a) (n'.perform a) := fun hn ha =>
    .of_idle ((hn.perform ha).weaken fun _ _ => Rest.idle)
  unfold Machine.runToken
  split
  · refine .of_idle (h.readBlock.bind fun y y' hy => ?_)
    obtain ⟨b, n⟩ := y
    obtain ⟨b', n'⟩ := y'
    obtain ⟨rfl, hn⟩ := hy
    exact hn.enterBlock b
  · refine .bind ((h.scan _).ensures (hm.scan _) (hm'.scan _)) fun y y' hy => ?_
    obtain ⟨b, n⟩ := y
    obtain ⟨b', n'⟩ := y'
    obtain ⟨⟨rfl, hn⟩, ⟨hsane, hregisters⟩, hsane', -⟩ := hy
    exact hregisters ▸ hn.runBracket hsane hsane' t b
  · refine .bind (h.scan _) fun y y' hy => ?_
    obtain ⟨⟨isSilent, code⟩, n⟩ := y
    obtain ⟨y', n'⟩ := y'
    obtain ⟨rfl, hn⟩ := hy
    exact .follows (hn.runApart (a := .evaluate ..) trivial rfl code)
  · refine .bind (h.scan _) fun y y' hy => ?_
    obtain ⟨code, n⟩ := y
    obtain ⟨code', n'⟩ := y'
    obtain ⟨rfl, hn⟩ := hy
    dsimp only
    rw [query_evaluating]
    exact performed hn (blind_query s code.text)
  · exact performed h (blind_escape _)
  · exact performed h (Act.blind_print _)
  iterate 4 exact .follows (.throw _)
  exact performed h (Act.blind_print _)

/-- The innermost frames end. -/
theorem pop {f f' : Frame} {x x' : Strata} (h : Twin f f' x x' [] [] m m') :
    Stands m.pop m'.pop := by
  obtain ⟨o, ho, ho'⟩ := h.outputs
  have hframes : m.pop.frames = x.frames := congrArg List.tail h.frames
  have hframes' : m'.pop.frames = x'.frames := congrArg List.tail h.frames'
  have hagree : m.pop.Agree m'.pop := ⟨h.agree.registers, h.agree.blocks, h.agree.position⟩
  have hpopped : m.pop.outputs = (if f.owns then x.outputs else o :: x.outputs) ∧
      m.pop.results = if f.owns then o.output :: x.results else x.results := by
    simp [Machine.pop, h.top?_eq.1, ho, h.results, Machine.output]
  have hpopped' : m'.pop.outputs = (if f'.owns then x'.outputs else o :: x'.outputs) ∧
      m'.pop.results = if f'.owns then o.output :: x'.results else x'.results := by
    simp [Machine.pop, h.top?_eq.2, ho', h.results', Machine.output]
  cases h.level with
  | root howns howns' =>
    refine .ended hframes hframes' ?_ hagree.registers
    rw [hpopped.2, hpopped'.2, howns, howns']
  | @shared _ _ g g' y y' howns howns' _ _ hg hidle hlevel =>
    simp only [howns, howns', Bool.false_eq_true, if_false] at hpopped hpopped'
    refine .idle ⟨g, g', y, y', hidle, ?_⟩
    exact
      { agree := hagree
        frame := hg
        level := hlevel
        frames := hframes
        frames' := hframes'
        outputs := ⟨o, hpopped.1, hpopped'.1⟩
        results := hpopped.2
        results' := hpopped'.2 }
  | @apart _ _ g g' y y' o₀ done todo outs outs' later later' howns howns' hg hslots hlevel =>
    simp only [howns, howns', if_true] at hpopped hpopped'
    have hpends : Pends g g' y y' o₀ (.evaluated :: done) todo (o.output :: outs)
        (o.output :: outs') later later' m.pop m'.pop :=
      { agree := hagree
        waits := by simpa using hg
        progress := hslots.finish o.output
        level := hlevel
        strata := by rw [hframes, hpopped.1, hpopped.2]; rfl
        strata' := by rw [hframes', hpopped'.1, hpopped'.2]; rfl }
    exact .awaits ⟨_, _, _, _, _, _, _, _, _, _, hpends⟩

/-- What comes of a step of machines that rest. -/
theorem step (h : Idle m m') (hm : m.Sane none) (hm' : m'.Sane none) :
    Advances m.registers m.step m'.step := by
  obtain ⟨f, f', x, x', huses, htwin⟩ := h
  have hneat := hm.neat f (htwin.frames ▸ List.mem_cons_self)
  have htwins := htwin.frame.pre
  cases hpre : f.pre with
  | cons a pre =>
    obtain rfl : pre = [] := List.length_eq_zero_iff.1 (by
      have hlength := hneat.pre
      rw [hpre, List.length_cons] at hlength
      omega)
    rw [hpre] at htwins
    obtain ⟨a', pre', ha, hnil, hpre'⟩ := List.forall₂_cons_left_iff.1 htwins
    obtain rfl := List.forall₂_nil_left_iff.1 hnil
    rw [step_take htwin.frames hpre, step_take htwin.frames' hpre']
    have hgone := htwin.modifyTop (fun f => { f with pre := [] }) (fun f => { f with pre := [] })
      { htwin.frame with pre := .nil } ⟨rfl, rfl, rfl⟩ ⟨rfl, rfl, rfl⟩
    refine .of_idle (Rest.take ⟨_, _, x, x', rfl, hgone⟩ ha ?_ ?_ ?_)
    · rwa [Frame.uses, hpre] at huses
    · exact hm.give htwin.frames _ (.pre hpre)
    · exact hm'.give htwin.frames' _ (.pre hpre')
  | nil =>
    have hpre' := htwin.frame.pre_eq_nil hpre
    cases hread : f.reader.read? with
    | some read =>
      obtain ⟨t, r⟩ := read
      rw [step_read htwin.frames hpre hread,
        step_read htwin.frames' hpre' (htwin.frame.reader ▸ hread)]
      exact Rest.runToken ⟨{ f with reader := r }, { f' with reader := r }, x, x', hpre,
          (htwin.moveTo t.position).withReader r⟩
        ((hm.moveTo t.position).withReader r) ((hm'.moveTo t.position).withReader r) t
    | none =>
      have hread' : f'.reader.read? = none := htwin.frame.reader ▸ hread
      have htwins := htwin.frame.post
      cases hpost : f.post with
      | nil =>
        rw [hpost] at htwins
        rw [step_pop htwin.frames hpre hread hpost,
          step_pop htwin.frames' hpre' hread' (List.forall₂_nil_left_iff.1 htwins)]
        exact .follows (.ok (pop htwin))
      | cons a post =>
        rw [hpost] at htwins
        obtain ⟨a', post', ha, hrest, hpost'⟩ := List.forall₂_cons_left_iff.1 htwins
        rw [step_end htwin.frames hpre hread hpost, step_end htwin.frames' hpre' hread' hpost']
        have hgone := htwin.modifyTop (fun f => { f with post := post })
          (fun f => { f with post := post' }) { htwin.frame with post := hrest } ⟨rfl, rfl, rfl⟩
          ⟨rfl, rfl, rfl⟩
        refine .of_idle (Rest.take ⟨{ f with post := post }, { f' with post := post' }, x, x', hpre,
          hgone⟩ ha ?_ ?_ ?_)
        · exact (hneat.post a (hpost ▸ List.mem_cons_self)).uses_eq_zero
        · exact hm.give htwin.frames _ (.post hpre hread hpost)
        · exact hm'.give htwin.frames' _ (.post hpre' hread' hpost')

end Rest

theorem isNeutral_of_opens {slots : List Slot} {a a' : Deferred} (h : a.Opens slots a') :
    a.IsNeutral ∧ a'.IsNeutral := by
  cases h with
  | same ha =>
    have hneutral : a.IsNeutral := by
      cases a with
      | define | runPrinted | evaluate | replace | join => exact ⟨fun _ _ => trivial, .refl⟩
      | _ => exact ha.elim
    exact ⟨hneutral, hneutral⟩
  | callTag => exact ⟨Deferred.isNeutral_callTag _ _ _, Deferred.isNeutral_callTag _ _ _⟩
  | callSubroutine =>
    exact ⟨Deferred.isNeutral_callSubroutine _ _ _, Deferred.isNeutral_callSubroutine _ _ _⟩

/-- What comes of a step of machines that wait for nothing more: the action is taken. -/
theorem Awaits.step (h : Awaits [] m m') (hm : m.Sane none) (hm' : m'.Sane none) :
    Follows Stands m.step m'.step := by
  obtain ⟨f, f', x, x', o, done, outs, outs', later, later', hpends⟩ := h
  obtain ⟨hagree, hwaits, ⟨hdone, htodo, -⟩, hlevel, hstrata, hstrata'⟩ := hpends
  cases htodo
  obtain ⟨a, a', hpre, hpre', hopens⟩ := hwaits.pre
  rw [List.append_nil] at hopens
  have hframes : m.frames = f :: x.frames := congrArg Strata.frames hstrata
  have hframes' : m'.frames = f' :: x'.frames := congrArg Strata.frames hstrata'
  rw [step_take hframes hpre, step_take hframes' hpre']
  have hgone : Twin { f with pre := [] } { f' with pre := [] } x x' outs outs'
      (m.modifyTop fun f => { f with pre := [] }) (m'.modifyTop fun f => { f with pre := [] }) :=
    { agree := ⟨hagree.registers, hagree.blocks, hagree.position⟩
      frame := ⟨hwaits.reader, hwaits.owns, .nil, hwaits.post⟩
      level := hlevel.continues ⟨rfl, rfl, rfl⟩ ⟨rfl, rfl, rfl⟩
      frames := frames_modifyTop hframes _
      frames' := frames_modifyTop hframes' _
      outputs := ⟨o, congrArg Strata.outputs hstrata, congrArg Strata.outputs hstrata'⟩
      results := congrArg Strata.results hstrata
      results' := congrArg Strata.results hstrata' }
  obtain ⟨hneutral, hneutral'⟩ := isNeutral_of_opens hopens
  refine Rest.takeOpened ⟨_, _, x, x', rfl, hgone⟩ hopens ?_ ?_ ?_
  · rwa [List.reverse_reverse]
  · exact (hm.give hframes _ (.pre hpre)).release hneutral
  · exact (hm'.give hframes' _ (.pre hpre')).release hneutral'

end Machine

end Wordsmith
