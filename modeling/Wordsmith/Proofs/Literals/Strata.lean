import Wordsmith.Proofs.Literals.Acts
import Wordsmith.Proofs.Moves

/-!
# Frames with and without those of plain arguments

Two runs of one pattern call the same tags and subroutines, but only the second runs the plain
arguments of a call. So the frames of the second are those of the first and, for each call that
waits, frames of plain arguments that have not begun yet; and where the first knows the text of an
argument, the second waits for a result, or has it already.

The frames below the innermost one are strata, and so are the outputs and the results below those of
the innermost frame. The strata of both runs lie level: they are built up together, frame by frame,
from the outermost frame. A frame shares the output of the one below, or it is run apart for the
action of a frame further below, with frames between them that are to be run later.

Main results: `Slot.Done.fill`, when all that a call waits for is done, both have the same arguments,
and `Level.cut`, down to the frame in which a block is repeated, what is left lies level.
-/

namespace Wordsmith

/-! ## Actions and frames -/

/-- The action names a repeater by its id. -/
def Deferred.NamesRepeater : Deferred → Prop
  | iterate _ | advance _ | suppress _ | restore _ => True
  | _ => False

/-- The actions are the same but for the ids of repeaters. -/
inductive Deferred.Twin : Deferred → Deferred → Prop
  | same {a : Deferred} (h : ¬a.NamesRepeater) : Twin a a
  | iterate (i j : Nat) : Twin (.iterate i) (.iterate j)
  | advance (i j : Nat) : Twin (.advance i) (.advance j)
  | suppress (i j : Nat) : Twin (.suppress i) (.suppress j)
  | restore (i j : Nat) : Twin (.restore i) (.restore j)

theorem Deferred.Twin.refl (a : Deferred) : a.Twin a := by
  cases a with
  | iterate id => exact .iterate id id
  | advance id => exact .advance id id
  | suppress id => exact .suppress id id
  | restore id => exact .restore id id
  | _ => exact .same id

/-- The frames do the same. -/
structure Frame.Twin (f f' : Frame) : Prop where
  reader : f'.reader = f.reader
  owns : f'.owns = f.owns
  pre : List.Forall₂ Deferred.Twin f.pre f'.pre
  post : List.Forall₂ Deferred.Twin f.post f'.post

theorem Deferred.Twin.uses_eq {a a' : Deferred} (h : a.Twin a') : a'.uses = a.uses := by
  cases h <;> rfl

namespace Frame

variable {f f' : Frame}

/-- The frame goes on with the repetitions of a block. -/
def Repeats (f : Frame) : Prop := ∃ id, f.pre = [.iterate id]

/-- The frame goes on with a token. -/
def Reads (f : Frame) : Prop := f.pre = [] ∧ f.reader.read? ≠ none

theorem Fresh.not_repeats (h : f.Fresh) : ¬f.Repeats := fun ⟨id, hpre⟩ => h.pre_ne_iterate id hpre

theorem Repeats.uses_eq_zero (h : f.Repeats) : f.uses = 0 := by
  obtain ⟨id, hpre⟩ := h
  rw [uses, hpre]
  rfl

namespace Twin

theorem pre_eq_nil (h : f.Twin f') (hpre : f.pre = []) : f'.pre = [] := by
  have hall := h.pre
  rw [hpre] at hall
  exact List.forall₂_nil_left_iff.1 hall

theorem uses_eq (h : f.Twin f') : f'.uses = f.uses := by
  have hpre := h.pre
  rw [uses, uses]
  generalize f.pre = l, f'.pre = l' at hpre
  cases hpre with
  | nil => rfl
  | cons ha _ => exact ha.uses_eq

theorem repeats_iff (h : f.Twin f') : f'.Repeats ↔ f.Repeats := by
  have hpre := h.pre
  rw [Repeats, Repeats]
  generalize f.pre = l, f'.pre = l' at hpre
  constructor
  · rintro ⟨id, rfl⟩
    cases hpre with
    | cons ha hnil =>
      cases hnil
      cases ha <;> exact ⟨_, rfl⟩
  · rintro ⟨id, rfl⟩
    cases hpre with
    | cons ha hnil =>
      cases hnil
      cases ha <;> exact ⟨_, rfl⟩

end Twin

end Frame

/-! ## Arguments -/

namespace Slot

/-- Arguments whose text the first knows are evaluated for the second. -/
inductive Opens : Slot → Slot → Prop
  | evaluated : Opens .evaluated .evaluated
  | literal (text : String) : Opens (.literal text) .evaluated
  | code (p : Passage) : Opens (.code p) (.code p)

/-- The slots that are done, the last one first, with the results that there are for them, the last
one first. For a plain argument only the second has a result. -/
inductive Done : List Slot → List Output → List Output → Prop
  | nil : Done [] [] []
  | evaluated {slots : List Slot} {outs outs' : List Output} (o : Output)
      (h : Done slots outs outs') : Done (.evaluated :: slots) (o :: outs) (o :: outs')
  | literal {slots : List Slot} {outs outs' : List Output} (o : Output)
      (h : Done slots outs outs') : Done (.literal o.main :: slots) outs (o :: outs')
  | code {slots : List Slot} {outs outs' : List Output} (p : Passage)
      (h : Done slots outs outs') : Done (.code p :: slots) outs outs'

/-- The slots that are still to be done, with the frames that are run for them. For a plain argument
only the second has a frame. -/
inductive Todo : List Slot → List Frame → List Frame → Prop
  | nil : Todo [] [] []
  | evaluated {slots : List Slot} {f f' : Frame} {fs fs' : List Frame} (hf : f.Twin f')
      (hfresh : f.Fresh) (howns : f.owns = true) (h : Todo slots fs fs') :
      Todo (.evaluated :: slots) (f :: fs) (f' :: fs')
  | literal {slots : List Slot} {fs fs' : List Frame} {p : Passage} (hp : isPlain p = true)
      (id mark : Nat) (h : Todo slots fs fs') :
      Todo (.literal p.text :: slots) fs ((⟨p, true, [], []⟩ : Opening).frame id mark :: fs')
  | code {slots : List Slot} {fs fs' : List Frame} (p : Passage) (h : Todo slots fs fs') :
      Todo (.code p :: slots) fs fs'

/-- What is done of the slots of an action, and what is still to be done. If there are plain
arguments, all others begin with a token. -/
structure Progress (done todo : List Slot) (outs outs' : List Output) (fs fs' : List Frame) :
    Prop where
  past : Done done outs outs'
  ahead : Todo todo fs fs'
  starts : ∀ text, Slot.literal text ∈ done ++ todo → ∀ f ∈ fs, f.Reads

variable {done todo slots slots' : List Slot} {outs outs' : List Output} {fs fs' : List Frame}

namespace Done

theorem length_eq (h : Done slots outs outs') : outs.length = slots.countP (·.isEvaluated) := by
  induction h with
  | nil => rfl
  | evaluated _ _ ih => rw [List.countP_cons_of_pos rfl, List.length_cons, ih]
  | literal _ _ ih => rw [List.countP_cons_of_neg Bool.false_ne_true, ih]
  | code _ _ ih => rw [List.countP_cons_of_neg Bool.false_ne_true, ih]

theorem length_eq_opened (h : Done slots outs outs') (hopens : List.Forall₂ Opens slots slots') :
    outs'.length = slots'.countP (·.isEvaluated) := by
  induction h generalizing slots' with
  | nil =>
    cases hopens
    rfl
  | evaluated _ _ ih | literal _ _ ih =>
    cases hopens with
    | cons hx hrest =>
      cases hx
      rw [List.countP_cons_of_pos rfl, List.length_cons, ih hrest]
  | code _ _ ih =>
    cases hopens with
    | cons hx hrest =>
      cases hx
      rw [List.countP_cons_of_neg Bool.false_ne_true, ih hrest]

/-- The results are the same if there are no plain arguments. -/
theorem eq_of_evaluated (h : Done slots outs outs') (hall : ∀ x ∈ slots, x = .evaluated) :
    outs' = outs := by
  induction h with
  | nil => rfl
  | evaluated _ _ ih => rw [ih fun x hx => hall x (List.mem_cons_of_mem _ hx)]
  | literal | code => cases hall _ List.mem_cons_self

/-- Both have the same arguments, if they have the same behind those that are done. -/
theorem fill_append (h : Done slots outs outs') (hopens : List.Forall₂ Opens slots slots')
    {l l' : List Slot} {texts texts' : List String} (hl : fill l texts = fill l' texts') :
    fill (slots.reverse ++ l) ((outs.map (·.main)).reverse ++ texts) =
      fill (slots'.reverse ++ l') ((outs'.map (·.main)).reverse ++ texts') := by
  induction h generalizing slots' l l' texts texts' with
  | nil =>
    cases hopens
    exact hl
  | evaluated o _ ih | literal o _ ih =>
    cases hopens with
    | cons hx hrest =>
      cases hx
      simp only [List.map_cons, List.reverse_cons, List.append_assoc, List.singleton_append]
      exact ih hrest (by simp only [fill, List.headD_cons, List.tail_cons, hl])
  | code p _ ih =>
    cases hopens with
    | cons hx hrest =>
      cases hx
      simp only [List.reverse_cons, List.append_assoc, List.singleton_append]
      exact ih hrest (by simp only [fill, hl])

/-- When all slots are done, both have the same arguments. -/
theorem fill (h : Done slots.reverse outs outs') (hopens : List.Forall₂ Opens slots slots') :
    Slot.fill slots (outs.map (·.main)).reverse =
      Slot.fill slots' (outs'.map (·.main)).reverse := by
  have hall : Slot.fill (slots.reverse.reverse ++ []) ((outs.map (·.main)).reverse ++ []) =
      Slot.fill (slots'.reverse.reverse ++ []) ((outs'.map (·.main)).reverse ++ []) :=
    h.fill_append (List.forall₂_reverse_iff.2 hopens) rfl
  simpa using hall

end Done

namespace Todo

theorem length_le (h : Todo slots fs fs') : fs.length ≤ fs'.length := by
  induction h with
  | nil => exact Nat.le_refl _
  | evaluated _ _ _ _ ih => exact Nat.succ_le_succ ih
  | literal _ _ _ _ ih => exact Nat.le_succ_of_le ih
  | code _ _ ih => exact ih

theorem owns (h : Todo slots fs fs') : (∀ f ∈ fs, f.owns = true) ∧ ∀ f ∈ fs', f.owns = true := by
  induction h with
  | nil => exact ⟨List.forall_mem_nil _, List.forall_mem_nil _⟩
  | evaluated hf _ howns _ ih =>
    exact ⟨List.forall_mem_cons.2 ⟨howns, ih.1⟩,
      List.forall_mem_cons.2 ⟨hf.owns.trans howns, ih.2⟩⟩
  | literal _ _ _ _ ih => exact ⟨ih.1, List.forall_mem_cons.2 ⟨rfl, ih.2⟩⟩
  | code _ _ ih => exact ih

theorem not_repeats (h : Todo slots fs fs') :
    (∀ f ∈ fs, ¬f.Repeats) ∧ ∀ f ∈ fs', ¬f.Repeats := by
  induction h with
  | nil => exact ⟨List.forall_mem_nil _, List.forall_mem_nil _⟩
  | evaluated hf hfresh _ _ ih =>
    exact ⟨List.forall_mem_cons.2 ⟨hfresh.not_repeats, ih.1⟩,
      List.forall_mem_cons.2 ⟨fun hr => hfresh.not_repeats (hf.repeats_iff.1 hr), ih.2⟩⟩
  | literal _ id mark _ ih =>
    exact ⟨ih.1, List.forall_mem_cons.2 ⟨(Opening.isFresh_idle _ true id mark).not_repeats, ih.2⟩⟩
  | code _ _ ih => exact ih

end Todo

namespace Progress

/-- A frame that was run for a slot is over. -/
theorem finish (h : Progress done todo outs outs' fs fs') (o : Output) :
    Progress (.evaluated :: done) todo (o :: outs) (o :: outs') fs fs' := by
  refine ⟨.evaluated o h.past, h.ahead, fun text htext => h.starts text ?_⟩
  rcases List.mem_cons.1 htext with heq | htext
  · cases heq
  · exact htext

/-- A frame of the second that was run for a plain argument is over. -/
theorem skip {text : String} (h : Progress done (.literal text :: todo) outs outs' fs fs') :
    ∃ p id mark rest', text = p.text ∧ isPlain p = true ∧
      fs' = (⟨p, true, [], []⟩ : Opening).frame id mark :: rest' ∧
      ∀ o : Output, o.main = text →
        Progress (.literal text :: done) todo outs (o :: outs') fs rest' := by
  obtain ⟨hdone, htodo, hstarts⟩ := h
  cases htodo with
  | @literal _ _ rest' p hp id mark htodo =>
    refine ⟨p, id, mark, rest', rfl, hp, rfl, fun o ho => ⟨ho ▸ .literal o hdone, htodo, ?_⟩⟩
    refine fun text htext => hstarts text ?_
    simpa [or_left_comm] using htext

/-- Code is not run. -/
theorem pass {p : Passage} (h : Progress done (.code p :: todo) outs outs' fs fs') :
    Progress (.code p :: done) todo outs outs' fs fs' := by
  obtain ⟨hdone, htodo, hstarts⟩ := h
  cases htodo with
  | code _ htodo =>
    refine ⟨.code p hdone, htodo, fun text htext => hstarts text ?_⟩
    simpa [or_left_comm] using htext

/-- The next frame is run for a slot. -/
theorem begin (h : Progress done (.evaluated :: todo) outs outs' fs fs') :
    ∃ f f' rest rest', fs = f :: rest ∧ fs' = f' :: rest' ∧ f.Twin f' ∧ f.Fresh ∧ f.owns = true ∧
      Progress done todo outs outs' rest rest' := by
  obtain ⟨hdone, htodo, hstarts⟩ := h
  cases htodo with
  | @evaluated _ f f' rest rest' hf hfresh howns htodo =>
    refine ⟨f, f', rest, rest', rfl, rfl, hf, hfresh, howns, hdone, htodo, ?_⟩
    intro text htext g hg
    refine hstarts text ?_ g (List.mem_cons_of_mem f hg)
    rcases List.mem_append.1 htext with htext | htext
    · exact List.mem_append_left _ htext
    · exact List.mem_append_right _ (List.mem_cons_of_mem _ htext)

end Progress

end Slot

/-! ## Actions that wait -/

/-- The action runs or evaluates what was printed. -/
def Deferred.TakesPrinted : Deferred → Prop
  | define .. | runPrinted .. | evaluate .. | replace .. | join .. => True
  | _ => False

/-- The second action waits for more than the first, whose slots are given. -/
inductive Deferred.Opens : List Slot → Deferred → Deferred → Prop
  | same {a : Deferred} (h : a.TakesPrinted) : Opens (List.replicate a.uses .evaluated) a a
  | callTag (tag : Tag) (name : Token) {slots slots' : List Slot}
      (h : List.Forall₂ Slot.Opens slots slots') :
      Opens slots (.callTag tag name slots) (.callTag tag name slots')
  | callSubroutine (called : Subroutine) (name : Token) {slots slots' : List Slot}
      (h : List.Forall₂ Slot.Opens slots slots') :
      Opens slots (.callSubroutine called name slots) (.callSubroutine called name slots')

/-- The frames do the same once the actions that they wait to take are done. -/
structure Frame.Waits (slots : List Slot) (f f' : Frame) : Prop where
  reader : f'.reader = f.reader
  owns : f'.owns = f.owns
  pre : ∃ a a', f.pre = [a] ∧ f'.pre = [a'] ∧ a.Opens slots a'
  post : List.Forall₂ Deferred.Twin f.post f'.post

/-- What is undone for both actions, if they are given up, is the same. -/
inductive Deferred.Kin : Deferred → Deferred → Prop
  | twin {a a' : Deferred} (h : a.Twin a') : Kin a a'
  | opens {slots : List Slot} {a a' : Deferred} (h : a.Opens slots a') : Kin a a'

theorem Frame.Twin.kin {f f' : Frame} (h : f.Twin f') :
    List.Forall₂ Deferred.Kin f.pending f'.pending :=
  (List.rel_append h.pre h.post).imp fun _ _ => .twin

namespace Frame.Waits

variable {slots : List Slot} {f f' : Frame}

theorem not_repeats (h : f.Waits slots f') : ¬f.Repeats ∧ ¬f'.Repeats := by
  obtain ⟨a, a', hpre, hpre', hopens⟩ := h.pre
  have hne : (∀ id, a ≠ .iterate id) ∧ ∀ id, a' ≠ .iterate id := by
    cases hopens with
    | same ha =>
      refine ⟨?_, ?_⟩ <;>
      · rintro id rfl
        exact ha
    | callTag | callSubroutine => exact ⟨nofun, nofun⟩
  constructor
  · rintro ⟨id, hr⟩
    exact hne.1 id (List.head_eq_of_cons_eq (hpre.symm.trans hr))
  · rintro ⟨id, hr⟩
    exact hne.2 id (List.head_eq_of_cons_eq (hpre'.symm.trans hr))

theorem kin (h : f.Waits slots f') : List.Forall₂ Deferred.Kin f.pending f'.pending := by
  obtain ⟨a, a', hpre, hpre', hopens⟩ := h.pre
  rw [pending, pending, hpre, hpre']
  exact .cons (.opens hopens) (h.post.imp fun _ _ => .twin)

end Frame.Waits

theorem Slot.Todo.kin {slots : List Slot} {fs fs' : List Frame} (h : Todo slots fs fs') :
    List.Forall₂ Deferred.Kin (fs.flatMap Frame.pending) (fs'.flatMap Frame.pending) := by
  induction h with
  | nil => exact .nil
  | evaluated hf _ _ _ ih => exact List.rel_append hf.kin ih
  | literal _ _ _ _ ih => exact ih
  | code _ _ ih => exact ih

/-! ## Strata -/

/-- What lies below the innermost frame: frames, the outputs below the one that it prints to, and the
results from before its level. -/
structure Strata where
  frames : List Frame
  outputs : List ChannelStack
  results : List Output

namespace Strata

/-- Nothing lies below the outermost frame. -/
def bottom : Strata := ⟨[], [], []⟩

/-- What lies below a frame that shares the output of another. -/
def share (x : Strata) (f : Frame) : Strata := { x with frames := f :: x.frames }

/-- What lies below a frame that is run for the action of another, which prints to an output, with
frames that are run later and with the results that there are already. -/
def await (x : Strata) (f : Frame) (o : ChannelStack) (later : List Frame) (outs : List Output) :
    Strata where
  frames := later ++ f :: x.frames
  outputs := List.replicate later.length .initial ++ o :: x.outputs
  results := outs ++ x.results

end Strata

/-- The strata below two frames lie level. -/
inductive Level : Frame → Frame → Strata → Strata → Prop
  | root {g g' : Frame} (howns : g.owns = true) (howns' : g'.owns = true) :
      Level g g' .bottom .bottom
  | shared {g g' f f' : Frame} {x x' : Strata} (howns : g.owns = false) (howns' : g'.owns = false)
      (hmark : g.mark = x.results.length) (hmark' : g'.mark = x'.results.length)
      (hf : f.Twin f') (hidle : f.uses = 0) (h : Level f f' x x') :
      Level g g' (x.share f) (x'.share f')
  | apart {g g' f f' : Frame} {x x' : Strata} {o : ChannelStack} {done todo : List Slot}
      {outs outs' : List Output} {later later' : List Frame} (howns : g.owns = true)
      (howns' : g'.owns = true) (hf : f.Waits (done.reverse ++ .evaluated :: todo) f')
      (hslots : Slot.Progress done todo outs outs' later later') (h : Level f f' x x') :
      Level g g' (x.await f o later outs) (x'.await f' o later' outs')

/-- The strata below a frame that prints to an output, cut down to a frame that is the first in which
a block is repeated. -/
structure Strata.Cut (g : Frame) (o : ChannelStack) (x : Strata) (dropped : List Frame)
    (base : Frame) (o₁ : ChannelStack) (y : Strata) : Prop where
  frames : x.frames = dropped ++ base :: y.frames
  above : ∀ f ∈ dropped, ¬f.Repeats
  repeats : base.Repeats
  outputs : (o :: x.outputs).drop ((g :: dropped).countP (·.owns)) = o₁ :: y.outputs
  mark_le : ((g :: dropped).getLast (List.cons_ne_nil _ _)).mark ≤ x.results.length
  results : x.results.drop
    (x.results.length - ((g :: dropped).getLast (List.cons_ne_nil _ _)).mark) = y.results

namespace Strata.Cut

variable {f g base : Frame} {o o₀ o₁ : ChannelStack} {x y : Strata} {dropped : List Frame}

/-- The frame right below is the one. -/
theorem here (hbase : base.Repeats) (howns : g.owns = false) (hmark : g.mark = x.results.length) :
    Cut g o (x.share base) [] base o x := by
  refine ⟨rfl, nofun, hbase, ?_, Nat.le_of_eq hmark, ?_⟩
  · simp [howns, share]
  · simp [hmark, share]

/-- A frame more shares the output. -/
theorem share (h : Cut f o x dropped base o₁ y) (hf : ¬f.Repeats) (howns : g.owns = false) :
    Cut g o (x.share f) (f :: dropped) base o₁ y := by
  refine ⟨congrArg (f :: ·) h.frames, List.forall_mem_cons.2 ⟨hf, h.above⟩, h.repeats, ?_,
    h.mark_le, h.results⟩
  rw [List.countP_cons_of_neg (by simp [howns])]
  exact h.outputs

/-- A frame more is run for an action. -/
theorem await (h : Cut f o x dropped base o₁ y) (hf : ¬f.Repeats) (howns : g.owns = true)
    {later : List Frame} (hlater : ∀ f ∈ later, f.owns = true ∧ ¬f.Repeats) (outs : List Output) :
    Cut g o₀ (x.await f o later outs) (later ++ f :: dropped) base o₁ y := by
  have hlast : (g :: (later ++ f :: dropped)).getLast (List.cons_ne_nil _ _) =
      (f :: dropped).getLast (List.cons_ne_nil _ _) := by
    rw [List.getLast_cons (by simp), List.getLast_append_right (List.cons_ne_nil _ _)]
  have hcount : later.countP (·.owns) = later.length :=
    List.countP_eq_length.2 fun f hf => (hlater f hf).1
  have hle := h.mark_le
  refine ⟨?_, ?_, h.repeats, ?_, ?_, ?_⟩
  · simp [Strata.await, h.frames]
  · intro f' hf'
    rcases List.mem_append.1 hf' with hf' | hf'
    · exact (hlater f' hf').2
    · exact (List.forall_mem_cons.2 ⟨hf, h.above⟩ : ∀ d ∈ f :: dropped, ¬d.Repeats) f' hf'
  · rw [List.countP_cons_of_pos howns, List.countP_append, hcount, List.drop_succ_cons]
    simp only [Strata.await]
    rw [← List.drop_drop, List.drop_left' (by simp)]
    exact h.outputs
  · rw [hlast]
    simp only [Strata.await, List.length_append]
    omega
  · rw [hlast]
    simp only [Strata.await, List.length_append]
    rw [Nat.add_sub_assoc hle, ← List.drop_drop, List.drop_left]
    exact h.results

end Strata.Cut

namespace Level

variable {f f' g g' : Frame} {x x' : Strata}

/-- What counts of a frame is what it keeps when it goes on. -/
theorem continues (h : Level f f' x x') (hg : f.Continues g) (hg' : f'.Continues g') :
    Level g g' x x' := by
  cases h with
  | root howns howns' => exact .root (hg.owns.trans howns) (hg'.owns.trans howns')
  | shared howns howns' hmark hmark' hf hidle h =>
    exact .shared (hg.owns.trans howns) (hg'.owns.trans howns') (hg.mark.trans hmark)
      (hg'.mark.trans hmark') hf hidle h
  | apart howns howns' hf hslots h =>
    exact .apart (hg.owns.trans howns) (hg'.owns.trans howns') hf hslots h

/-- The second has at least as many frames. -/
theorem length_le (h : Level f f' x x') : x.frames.length ≤ x'.frames.length := by
  induction h with
  | root => exact Nat.le_refl _
  | shared _ _ _ _ _ _ _ ih => exact Nat.succ_le_succ ih
  | apart _ _ _ hslots _ ih =>
    have hle := hslots.ahead.length_le
    simp only [Strata.await, List.length_append, List.length_cons]
    omega

/-- Down to the frame in which a block is repeated, what is left lies level, and what is undone for
the frames above is the same. -/
theorem cut (h : Level g g' x x') (hbase : ∃ f ∈ x.frames, f.Repeats) (o : ChannelStack) :
    ∃ dropped base y dropped' base' y' o₁, Strata.Cut g o x dropped base o₁ y ∧
      Strata.Cut g' o x' dropped' base' o₁ y' ∧ base.Twin base' ∧ Level base base' y y' ∧
      List.Forall₂ Deferred.Kin (dropped.flatMap Frame.pending)
        (dropped'.flatMap Frame.pending) := by
  -- Each frame that is given up belongs to one constructor, and the base to one that shares.
  induction h generalizing o with
  | root => simp [Strata.bottom] at hbase
  | @shared g g' f f' x x' howns howns' hmark hmark' hf _ h ih =>
    by_cases hrepeats : f.Repeats
    · exact ⟨[], f, x, [], f', x', o, .here hrepeats howns hmark,
        .here (hf.repeats_iff.2 hrepeats) howns' hmark', hf, h, .nil⟩
    · obtain ⟨base, hmem, hbase⟩ := hbase
      have hbelow : base ∈ x.frames := by
        rcases List.mem_cons.1 hmem with rfl | hbelow
        · exact absurd hbase hrepeats
        · exact hbelow
      obtain ⟨dropped, base, y, dropped', base', y', o₁, hcut, hcut', htwin, hlevel, hkin⟩ :=
        ih ⟨base, hbelow, hbase⟩ o
      exact ⟨f :: dropped, base, y, f' :: dropped', base', y', o₁, hcut.share hrepeats howns,
        hcut'.share (fun hr => hrepeats (hf.repeats_iff.1 hr)) howns', htwin, hlevel,
        List.rel_append hf.kin hkin⟩
  | @apart g g' f f' x x' o₀ _ _ outs outs' later later' howns howns' hf hslots h ih =>
    have hfresh := hslots.ahead.not_repeats
    have howned := hslots.ahead.owns
    obtain ⟨base, hmem, hbase⟩ := hbase
    have hbelow : base ∈ x.frames := by
      rcases List.mem_append.1 hmem with hlater | hrest
      · exact absurd hbase (hfresh.1 base hlater)
      · rcases List.mem_cons.1 hrest with rfl | hbelow
        · exact absurd hbase hf.not_repeats.1
        · exact hbelow
    obtain ⟨dropped, base, y, dropped', base', y', o₁, hcut, hcut', htwin, hlevel, hkin⟩ :=
      ih ⟨base, hbelow, hbase⟩ o₀
    refine ⟨later ++ f :: dropped, base, y, later' ++ f' :: dropped', base', y', o₁,
      hcut.await hf.not_repeats.1 howns (fun d hd => ⟨howned.1 d hd, hfresh.1 d hd⟩) outs,
      hcut'.await hf.not_repeats.2 howns' (fun d hd => ⟨howned.2 d hd, hfresh.2 d hd⟩) outs',
      htwin, hlevel, ?_⟩
    rw [List.flatMap_append, List.flatMap_append, List.flatMap_cons, List.flatMap_cons]
    exact List.rel_append hslots.ahead.kin (List.rel_append hf.kin hkin)

end Level

end Wordsmith
