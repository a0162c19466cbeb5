import Wordsmith.Machine.Coherent
import Wordsmith.Machine.Dictionary
import Wordsmith.Total

/-!
# Descent

Every step takes a machine down in an order that has no infinite descent, so every run ends.

A frame is the lower, the fewer tokens it has left, and of two with as many tokens, the one whose
deferred actions can set off less: an action stands for itself and for those that it can leave
behind in its own frame, which is one for a call. For an iteration it is as many as there are
repetitions that have not begun. That number is seen in no single place: a repetition is over once
it is counted in the repeater, but it has begun as soon as the action is pending that will count it.

Whatever is pushed on top of a frame counts for less than the frame itself. So the frames are
compared from the outermost one on, in the order of a dictionary, and there are never more of them
than the setting allows.

Main results: `Coherent.step_lower`, and `wellFounded_lower`.
-/

namespace Wordsmith

/-! ## Repetitions that have not begun -/

/-- Whether the action counts a repetition of a repeater. -/
def Deferred.advances (id : Nat) : Deferred → Bool
  | advance id' => id' == id
  | _ => false

/-- The repetitions of a repeater that have not been counted. -/
def Registers.rest (r : Registers) (id : Nat) : Nat :=
  ((r.findRepeater? id).map fun x => x.count - x.index).getD 0

namespace Stage

/-- How often a repetition of a repeater is going to be counted. -/
def advances (x : Stage) (id : Nat) : Nat :=
  (x.frames.flatMap Frame.pending).countP (·.advances id)

/-- The repetitions of a repeater that have not begun, if an action has been taken off the innermost
frame. -/
def unbegun (due : Option Deferred) (x : Stage) (id : Nat) : Nat :=
  x.registers.rest id - (due.toList.countP (·.advances id) + x.advances id)

end Stage

/-! ## The order -/

/-- The number of actions that an action stands for, given how many repetitions of each repeater
have not begun: itself and those that it can leave behind in its own frame. -/
def Deferred.weight (unbegun : Nat → Nat) : Deferred → Nat
  | callTag .. | callSubroutine .. | replace .. => 2
  | iterate id => unbegun id + 1
  | _ => 1

theorem Deferred.weight_pos (unbegun : Nat → Nat) (action : Deferred) :
    0 < action.weight unbegun := by
  cases action <;> simp [weight]

namespace Frame

/-- The number of actions that the deferred actions stand for. -/
def load (unbegun : Nat → Nat) (f : Frame) : Nat := total (f.pending.map (·.weight unbegun))

/-- What frames are compared by: the tokens that are left, and then the deferred actions. -/
def rank (unbegun : Nat → Nat) (f : Frame) : Nat × Nat := (f.reader.remaining, f.load unbegun)

end Frame

/-- One rank is lower than another. -/
def LowerRank : Nat × Nat → Nat × Nat → Prop := Prod.Lex (· < ·) (· < ·)

theorem wellFounded_lowerRank : WellFounded LowerRank :=
  (Prod.lex Nat.lt_wfRel Nat.lt_wfRel).wf

/-- What stages are compared by: the ranks of their frames, the outermost first. -/
def Stage.ranks (x : Stage) : List (Nat × Nat) :=
  x.frames.reverse.map (Frame.rank (x.unbegun none))

namespace Machine

variable {s : Setting}

/-- A machine is lower than another. -/
def Lower (m₁ m₂ : Machine s) : Prop :=
  Dictionary.Before LowerRank s.maxDepth m₁.stage.ranks m₂.stage.ranks

theorem wellFounded_lower : WellFounded (Lower (s := s)) :=
  InvImage.wf (fun m : Machine s => m.stage.ranks)
    (Dictionary.wellFounded_before wellFounded_lowerRank s.maxDepth)

end Machine

/-! ## What is left of the repetitions -/

/-- A repetition that is counted is no longer left. -/
theorem Repeater.left_advance (r : Repeater) :
    r.advance.count - r.advance.index = r.count - r.index - 1 := by
  unfold advance
  split
  · next hfinished =>
    have : r.count ≤ r.index := of_decide_eq_true hfinished
    omega
  · simp only
    omega

namespace Registers

theorem findRepeater?_modify (r : Registers) (id id' : Nat) {f : Repeater → Repeater}
    (hf : ∀ x, (f x).place = x.place) :
    (r.modifyRepeater id' f).findRepeater? id =
      (r.findRepeater? id).map fun x => if x.id = id' then f x else x := by
  have hid : ∀ x, (f x).id = x.id := fun x => congrArg Repeater.Place.id (hf x)
  simp only [findRepeater?, modifyRepeater, List.find?_map]
  congr 2
  funext x
  simp only [Function.comp_apply]
  split
  · rw [hid]
  · rfl

theorem rest_restore (r : Registers) (id id' : Nat) :
    (r.modifyRepeater id' (·.restore)).rest id = r.rest id := by
  rw [rest, r.findRepeater?_modify id id' Repeater.place_restore, rest]
  cases r.findRepeater? id with
  | none => rfl
  | some x =>
    simp only [Option.map_some, Option.getD_some]
    split <;> rfl

theorem rest_suppress (r : Registers) (id id' : Nat) :
    (r.modifyRepeater id' (·.suppress)).rest id = r.rest id := by
  rw [rest, r.findRepeater?_modify id id' Repeater.place_suppress, rest]
  cases r.findRepeater? id with
  | none => rfl
  | some x =>
    simp only [Option.map_some, Option.getD_some]
    split <;> rfl

theorem rest_advance (r : Registers) (id id' : Nat) :
    (r.modifyRepeater id' (·.advance)).rest id =
      if id' = id then r.rest id - 1 else r.rest id := by
  rw [rest, r.findRepeater?_modify id id' Repeater.place_advance, rest]
  cases hfind : r.findRepeater? id with
  | none => simp
  | some x =>
    have hid : x.id = id := by simpa using List.find?_some hfind
    simp only [Option.map_some, Option.getD_some, hid]
    by_cases h : id = id'
    · subst h
      simpa using x.left_advance
    · simp [h, Ne.symm h]

theorem rest_removeRepeater_le (r : Registers) (id id' : Nat) :
    (r.removeRepeater id').rest id ≤ r.rest id := by
  by_cases h : id = id'
  · have hnone : (r.removeRepeater id').findRepeater? id = none := by
      simp [findRepeater?, removeRepeater, h]
    simp [rest, hnone]
  · have hsame : (r.removeRepeater id').findRepeater? id = r.findRepeater? id := by
      simp only [findRepeater?, removeRepeater, List.find?_filter]
      congr 1
      funext x
      by_cases hx : x.id = id <;> simp [hx, h]
    exact Nat.le_of_eq (by rw [rest, hsame, rest])

theorem rest_undo_le (r : Registers) (action : Deferred) (id : Nat) :
    (r.undo action).rest id ≤ r.rest id := by
  cases action with
  | iterate id' => exact r.rest_removeRepeater_le id id'
  | restore id' => exact Nat.le_of_eq (r.rest_restore id id')
  | finish q => cases q <;> exact Nat.le_refl _
  | _ => exact Nat.le_refl _

theorem rest_giveUp_le (r : Registers) (frames : List Frame) (id : Nat) :
    (Machine.giveUp r frames).rest id ≤ r.rest id := by
  unfold Machine.giveUp
  generalize frames.flatMap (fun f => f.pre ++ f.post) = actions
  induction actions generalizing r with
  | nil => exact Nat.le_refl _
  | cons action actions ih => exact Nat.le_trans (ih _) (r.rest_undo_le action id)

end Registers

/-! ## Actions and the repeaters that they name -/

/-- Whether the action goes on with a repeater or counts a repetition of it. -/
def Deferred.Names (id : Nat) : Deferred → Prop
  | iterate id' | advance id' => id' = id
  | _ => False

namespace Registers

/-- A repeater that is named is there. -/
theorem Unwinds.exists_place {r : Registers} {l : List (Nat × Deferred)} (h : r.Unwinds l)
    {base id : Nat} {action : Deferred} (hmem : (base, action) ∈ l) (hnames : action.Names id) :
    ∃ p ∈ r.places, p.id = id := by
  obtain ⟨r', hfits, hplaces⟩ := h.fits_of_mem hmem
  cases action with
  | iterate =>
    obtain ⟨size, others, hplaces', -⟩ := hfits
    exact ⟨⟨_, base, size⟩, hplaces.mem (hplaces' ▸ List.mem_cons_self), hnames⟩
  | advance =>
    obtain ⟨p, others, hplaces', hid⟩ := hfits
    exact ⟨p, hplaces.mem (hplaces' ▸ List.mem_cons_self), hid.trans hnames⟩
  | _ => exact hnames.elim

/-- Up to the frame that the block of the innermost repeater is in, only repetitions of this
repeater are counted. -/
theorem Unwinds.advances_innermost {r : Registers} {p : Repeater.Place}
    {others : List Repeater.Place} (hplaces : r.places = p :: others)
    {k l : List (Nat × Deferred)} (h : r.Unwinds (k ++ l)) (hk : ∀ q ∈ k, q.1 ≠ p.base)
    {base id : Nat} (hmem : (base, .advance id) ∈ k) : id = p.id := by
  obtain ⟨r', ⟨p', others', hplaces', rfl⟩, hsame⟩ := h.fits_above hplaces hk hmem
  rw [hsame] at hplaces'
  cases hplaces'
  rfl

end Registers

/-- What is begun for a repetition is going to count it. -/
theorem Repeater.countP_openings (r : Repeater) {item : Option Passage} (hitem : item.isSome) :
    0 < ((r.openings item).flatMap fun o => o.pre ++ o.post).countP (·.advances r.id) := by
  refine List.countP_pos_iff.2 ⟨.advance r.id, ?_, by simp [Deferred.advances]⟩
  obtain ⟨p, rfl⟩ := Option.isSome_iff_exists.1 hitem
  cases hafter : r.attributes.after with
  | none => simp [Repeater.openings, hafter]
  | some q => simp [Repeater.openings, hafter]

/-! ## How effects change what has not begun -/

namespace Stage

variable {x y : Stage} {due : Option Deferred} {literals : Bool}

theorem advances_defer (x : Stage) (action : Deferred) (id : Nat) :
    x.advances id ≤ (x.defer action).advances id := by
  cases hframes : x.frames with
  | nil => simp [advances, Stage.defer, hframes]
  | cons f below =>
    simp only [advances, Stage.defer, hframes, List.modifyHead_cons, List.flatMap_cons,
      List.countP_append, Frame.pending, List.countP_cons]
    omega

theorem advances_enter (x : Stage) (o : Opening) (id : Nat) :
    (x.enter o).advances id = (o.pre ++ o.post).countP (·.advances id) + x.advances id := by
  simp [advances, Stage.enter, Nat.add_assoc]

theorem advances_enterAll (x : Stage) (os : List Opening) (id : Nat) :
    (x.enterAll os).advances id =
      (os.flatMap fun o => o.pre ++ o.post).countP (·.advances id) + x.advances id := by
  induction os generalizing x with
  | nil => simp
  | cons o os ih =>
    simp only [enterAll_cons, ih, advances_enter, List.flatMap_cons, List.countP_append]
    omega

/-- With as much left to be counted and no fewer actions that are going to count it, no more has
not begun. -/
theorem unbegun_le {id : Nat} (hrest : y.registers.rest id ≤ x.registers.rest id)
    (hdue : due.toList.countP (·.advances id) = 0) (hadvances : x.advances id ≤ y.advances id) :
    y.unbegun none id ≤ x.unbegun due id := by
  simp only [unbegun, Option.toList_none, List.countP_nil, hdue]
  omega

theorem rest_turns {s t : Scene} (h : s.Turns t) (id : Nat) :
    t.registers.rest id = s.registers.rest id := by
  simp only [Registers.rest, Registers.findRepeater?, h.keeps_stacks.1]

end Stage

theorem Deferred.eq_of_advances {id : Nat} {action : Deferred} (h : action.advances id = true) :
    action = .advance id := by
  cases action with
  | advance id' => rw [eq_of_beq h]
  | _ => exact nomatch h

theorem Deferred.advances_of_undoes {r : Registers} {action : Deferred} (h : action.Undoes r)
    (id : Nat) : action.advances id = false := by
  cases action with
  | advance => exact h.elim
  | _ => rfl

namespace Stage

variable {x y : Stage} {due : Option Deferred} {literals : Bool}

theorem countP_due {id : Nat} (h : ∀ a ∈ due, a.advances id = false) :
    due.toList.countP (·.advances id) = 0 := by
  cases due with
  | none => rfl
  | some a => simp [h a rfl]

theorem countP_due_of_isPlain {id : Nat} (h : ∀ a ∈ due, a.IsPlain) :
    due.toList.countP (·.advances id) = 0 := by
  refine countP_due fun a ha => ?_
  have hplain := h a ha
  cases a with
  | advance => exact hplain.elim
  | _ => rfl

theorem registers_enterAll (x : Stage) (os : List Opening) :
    (x.enterAll os).registers = x.registers := by
  induction os generalizing x with
  | nil => rfl
  | cons o os ih => exact ih (x.enter o)

theorem unbegun_enterAll_le {z : Stage} {id : Nat} (hframes : z.frames = x.frames)
    (hrest : z.registers.rest id ≤ x.registers.rest id)
    (hdue : due.toList.countP (·.advances id) = 0) (os : List Opening) :
    (z.enterAll os).unbegun none id ≤ x.unbegun due id := by
  have hsame : z.advances id = x.advances id := by rw [advances, hframes, advances]
  refine unbegun_le ?_ hdue ?_
  · rwa [registers_enterAll]
  · rw [advances_enterAll]
    omega

theorem unbegun_deferUntil_le {z : Stage} {id : Nat} (hframes : z.frames = x.frames)
    (hrest : z.registers.rest id ≤ x.registers.rest id)
    (hdue : due.toList.countP (·.advances id) = 0) (action : Deferred) (os : List Opening) :
    ((z.defer action).enterAll os).unbegun none id ≤ x.unbegun due id := by
  have hsame : z.advances id = x.advances id := by rw [advances, hframes, advances]
  have hdefer := z.advances_defer action id
  refine unbegun_le ?_ hdue ?_
  · rw [registers_enterAll]
    exact hrest
  · rw [advances_enterAll]
    omega

theorem rest_finish_le {q : Registers} {r : Repeater} {others : List Repeater}
    (h : q.repeaters = r :: others) (id : Nat) :
    Registers.rest { q with repeaters := r.finish :: others } id ≤
      if r.id = id then 0 else q.rest id := by
  by_cases hid : r.id = id
  · simp [Registers.rest, Registers.findRepeater?, Repeater.finish, hid]
  · have hother : (r.id == id) = false := beq_eq_false_iff_ne.2 hid
    simp [Registers.rest, Registers.findRepeater?, Repeater.finish, h, hid, hother]

/-- When frames are given up, the repetitions that their actions were going to count are those of
the repeater that is finished. -/
theorem Leaves.unbegun_le (hleaves : x.Leaves y) (h : x.Coherent none) (id : Nat) :
    y.unbegun none id ≤ x.unbegun none id := by
  cases hleaves with
  | idle => exact Nat.le_refl _
  | @lost r others hr =>
    refine Stage.unbegun_le (Nat.le_trans (rest_finish_le hr id) ?_) rfl (Nat.le_refl _)
    split
    · exact Nat.zero_le _
    · exact Nat.le_refl _
  | @cut r others dropped kept base hr hframes hbase hdropped =>
    have hrest := Nat.le_trans (Registers.rest_giveUp_le _ dropped id) (rest_finish_le hr id)
    by_cases hid : r.id = id
    · rw [if_pos hid] at hrest
      have hzero := Nat.le_zero.1 hrest
      simp only [unbegun, hzero, Nat.zero_sub]
      exact Nat.zero_le _
    · rw [if_neg hid] at hrest
      have hplaces : x.registers.places = r.place :: others.map Repeater.place := by
        rw [Registers.places, hr, List.map_cons]
      have hunwinds : x.registers.Unwinds (schedule dropped ++ schedule (base :: kept)) := by
        have hx := h.unwinds
        rw [hframes] at hx
        simpa using hx
      have hnone : (dropped.flatMap Frame.pending).countP (·.advances id) = 0 := by
        refine List.countP_eq_zero.2 fun action haction hadvances => hid ?_
        obtain ⟨f, hf, hmem⟩ := List.mem_flatMap.1 haction
        have hsame : action = .advance id := Deferred.eq_of_advances hadvances
        have hscheduled : (f.id, .advance id) ∈ schedule dropped :=
          List.mem_flatMap.2 ⟨f, hf, List.mem_map.2 ⟨action, hmem, by rw [hsame]⟩⟩
        refine (hunwinds.advances_innermost hplaces (fun q hq => ?_) hscheduled).symm
        obtain ⟨g, hg, hq⟩ := List.mem_flatMap.1 hq
        obtain ⟨_, -, rfl⟩ := List.mem_map.1 hq
        exact hdropped g hg
      refine Stage.unbegun_le hrest rfl (Nat.le_of_eq ?_)
      simp [advances, hframes, hnone]

/-- No more repetitions have not begun than before. -/
theorem Effect.unbegun_le (heffect : x.Effect literals due y) (h : x.Coherent due) {id : Nat}
    (hid : id < x.nextId) : y.unbegun none id ≤ x.unbegun due id := by
  cases heffect with
  | act hdue hturns =>
    exact Stage.unbegun_le (Nat.le_of_eq (rest_turns hturns id)) (countP_due_of_isPlain hdue)
      (Nat.le_refl _)
  | run hdue hturns =>
    refine unbegun_enterAll_le ?_ ?_ (countP_due_of_isPlain hdue) [_]
    · rfl
    · exact Nat.le_of_eq (rest_turns hturns id)
  | runThen hq hturns =>
    refine unbegun_deferUntil_le ?_ ?_ ?_ _ _
    · rfl
    · exact Nat.le_of_eq (rest_turns hturns id)
    · rfl
  | compare => exact unbegun_deferUntil_le rfl (Nat.le_refl _) rfl _ _
  | call => exact unbegun_deferUntil_le rfl (Nat.le_refl _) rfl _ [_]
  | leave hleaves =>
    exact hleaves.unbegun_le (h.spend (Deferred.isNeutral_callTag ..) _) id
  | undo hundoes =>
    refine Stage.unbegun_le (x.registers.rest_undo_le _ id) (countP_due ?_) (Nat.le_refl _)
    rintro a ⟨⟩
    exact Deferred.advances_of_undoes hundoes id
  | @advance id' =>
    have hrest := x.registers.rest_advance id id'
    show (x.registers.modifyRepeater id' (·.advance)).rest id - (0 + x.advances id) ≤
      x.registers.rest id - ([Deferred.advance id'].countP (·.advances id) + x.advances id)
    rw [hrest]
    by_cases hsame : id' = id
    · subst hsame
      simp only [if_true, List.countP_singleton, Deferred.advances, beq_self_eq_true]
      omega
    · simp [hsame, Deferred.advances]
  | @suppress id' =>
    exact Stage.unbegun_le (Nat.le_of_eq (x.registers.rest_suppress id id')) rfl (Nat.le_refl _)
  | gone hfind => exact Stage.unbegun_le (Nat.le_refl _) rfl (Nat.le_refl _)
  | iterate hfind hrun hturns hitem =>
    refine unbegun_deferUntil_le ?_ ?_ ?_ _ _
    · rfl
    · exact Nat.le_of_eq (rest_turns hturns id)
    · rfl
  | @block b a s hsize hturns =>
    refine Stage.unbegun_le ?_ rfl (advances_defer _ _ id)
    have hother : ((x.turn s).nextId == id) = false := beq_eq_false_iff_ne.2 (Nat.ne_of_gt hid)
    rw [← show s.registers.rest id = x.registers.rest id from rest_turns hturns id]
    show Registers.rest { s.registers with repeaters := _ :: s.registers.repeaters } id ≤ _
    simp [Registers.rest, Registers.findRepeater?, Repeater.start, hother]
  | await hawaits hps => exact unbegun_deferUntil_le rfl (Nat.le_refl _) rfl _ _
  | «matches» htext hall hfound => exact unbegun_deferUntil_le rfl (Nat.le_refl _) rfl _ _

/-- When a repeater goes on, no action is pending that counts one of its repetitions. -/
theorem Coherent.advances_eq_zero {id : Nat} (h : x.Coherent (some (.iterate id))) :
    x.advances id = 0 := by
  refine List.countP_eq_zero.2 fun action haction hadvances => ?_
  obtain ⟨f, hf, hmem⟩ := List.mem_flatMap.1 haction
  have hsame : action = .advance id := Deferred.eq_of_advances hadvances
  have hscheduled : (f.id, .advance id) ∈ schedule x.frames :=
    List.mem_flatMap.2 ⟨f, hf, List.mem_map.2 ⟨action, hmem, by rw [hsame]⟩⟩
  obtain ⟨p, hp, hid⟩ := h.unwinds.2.exists_place hscheduled rfl
  rw [show x.registers.undo (.iterate id) = x.registers.removeRepeater id from rfl,
    Registers.places_removeRepeater, List.mem_filter] at hp
  simp [hid] at hp

/-- A repetition has begun once the action is pending that will count it. -/
theorem unbegun_iterate_lt {r : Repeater} {s : Scene} {item : Option Passage}
    (h : x.Coherent (some (.iterate r.id))) (hfind : x.registers.findRepeater? r.id = some r)
    (hrun : r.isFinished = false) (hturns : x.scene.Turns s)
    (hitem : 0 < r.block.size → item.isSome) :
    (((x.turn s).defer (.iterate r.id)).enterAll (r.openings item)).unbegun none r.id <
      x.unbegun (some (.iterate r.id)) r.id := by
  have hmem : r.place ∈ x.registers.places :=
    List.mem_map_of_mem (List.mem_of_find?_eq_some hfind)
  have hbegun := r.countP_openings (hitem (h.places r.place hmem).2)
  have hleft : x.registers.rest r.id = r.count - r.index := by simp [Registers.rest, hfind]
  have hrest : r.index < r.count := by simpa [Repeater.isFinished] using hrun
  have hnone := h.advances_eq_zero
  have hturned : s.registers.rest r.id = x.registers.rest r.id := rest_turns hturns r.id
  have hregisters : (((x.turn s).defer (.iterate r.id)).enterAll (r.openings item)).registers =
      s.registers := registers_enterAll _ _
  have hdue : (some (Deferred.iterate r.id)).toList.countP (·.advances r.id) = 0 := rfl
  simp only [unbegun, hregisters, advances_enterAll, hdue, hnone, hturned, hleft]
  omega

/-! ## Frames that are lower -/

/-- The innermost frame is given up, and perhaps others, or it is kept and fulfils a condition. -/
def Over (below : List Frame) (P : Frame → Prop) (y : Stage) : Prop :=
  y.frames <:+ below ∨ ∃ pushed f, y.frames = pushed ++ f :: below ∧ P f

/-- The action that was due has been replaced by none or by one that stands for less. -/
def Replaces (due : Option Deferred) (x : Stage) (f : Frame) (y : Stage) (f' : Frame) : Prop :=
  f'.reader = f.reader ∧ ∀ a ∈ due, f'.load (y.unbegun none) <
    f.load (x.unbegun due) + a.weight (x.unbegun due)

theorem frames_enterAll (x : Stage) (os : List Opening) :
    ∃ pushed, (x.enterAll os).frames = pushed ++ x.frames := by
  induction os generalizing x with
  | nil => exact ⟨[], rfl⟩
  | cons o os ih =>
    obtain ⟨pushed, h⟩ := ih (x.enter o)
    have hx : (x.enter o).frames = o.frame x.nextId x.results.length :: x.frames := rfl
    exact ⟨pushed ++ [o.frame x.nextId x.results.length], by
      rw [enterAll_cons, h, hx, List.append_cons]⟩

theorem frames_deferUntil {f : Frame} {below : List Frame} (h : x.frames = f :: below)
    (action : Deferred) (os : List Opening) :
    ∃ pushed, ((x.defer action).enterAll os).frames =
      pushed ++ { f with pre := action :: f.pre } :: below := by
  obtain ⟨pushed, hp⟩ := (x.defer action).frames_enterAll os
  refine ⟨pushed, ?_⟩
  rw [hp]
  simp [Stage.defer, h]

theorem Coherent.iterate_lt (h : x.Coherent due) {f : Frame} (hf : f ∈ x.frames) {id : Nat}
    (hid : .iterate id ∈ f.pending) : id < x.nextId := by
  have hmem : (f.id, .iterate id) ∈ due.toList.map (x.top, ·) ++ schedule x.frames :=
    List.mem_append_right _ (List.mem_flatMap.2 ⟨f, hf, List.mem_map_of_mem hid⟩)
  obtain ⟨p, hp, rfl⟩ := h.unwinds.exists_place hmem rfl
  exact (h.places p hp).1

end Stage

theorem total_map_le {α : Type} {f g : α → Nat} {l : List α} (h : ∀ a ∈ l, f a ≤ g a) :
    total (l.map f) ≤ total (l.map g) := by
  induction l with
  | nil => exact Nat.le_refl _
  | cons a l ih =>
    obtain ⟨ha, hl⟩ := List.forall_mem_cons.1 h
    simp only [List.map_cons, total_cons]
    exact Nat.add_le_add ha (ih hl)

namespace Frame

/-- With fewer repetitions that have not begun, the actions of a frame stand for less. -/
theorem load_le {f : Frame} {u v : Nat → Nat} (h : ∀ id, .iterate id ∈ f.pending → u id ≤ v id) :
    f.load u ≤ f.load v := by
  refine total_map_le fun action haction => ?_
  cases action with
  | iterate id => exact Nat.succ_le_succ (h id haction)
  | _ => exact Nat.le_refl _

theorem rank_le {f : Frame} {u v : Nat → Nat} (h : f.load u ≤ f.load v) :
    f.rank u = f.rank v ∨ LowerRank (f.rank u) (f.rank v) := by
  rcases Nat.lt_or_eq_of_le h with hlt | heq
  · exact .inr (.right _ hlt)
  · exact .inl (by rw [rank, rank, heq])

theorem load_defer (f : Frame) (u : Nat → Nat) (action : Deferred) :
    load u { f with pre := action :: f.pre } = action.weight u + f.load u := rfl

end Frame

namespace Stage

variable {x y : Stage} {due : Option Deferred} {literals : Bool}

/-- An effect leaves less behind than the action stands for. -/
theorem Effect.over (heffect : x.Effect literals due y) (h : x.Coherent due) {f : Frame}
    {below : List Frame} (hframes : x.frames = f :: below) :
    y.Over below (x.Replaces due f y) := by
  have hload : f.load (y.unbegun none) ≤ f.load (x.unbegun due) :=
    Frame.load_le fun id hid =>
      heffect.unbegun_le h (h.iterate_lt (hframes ▸ List.mem_cons_self) hid)
  have stays : ∀ pushed, y.frames = pushed ++ f :: below → y.Over below (x.Replaces due f y) := by
    intro pushed hy
    refine .inr ⟨pushed, f, hy, rfl, fun a _ => ?_⟩
    have := a.weight_pos (x.unbegun due)
    omega
  have defers : ∀ {z : Stage} {a : Deferred} (os : List Opening), y = (z.defer a).enterAll os →
      z.frames = f :: below →
      (∀ b ∈ due, a.weight (y.unbegun none) < b.weight (x.unbegun due)) →
      y.Over below (x.Replaces due f y) := by
    intro z a os hy hz hweight
    obtain ⟨pushed, hp⟩ := frames_deferUntil hz a os
    refine .inr ⟨pushed, { f with pre := a :: f.pre }, hy ▸ hp, rfl, fun b hb => ?_⟩
    have := hweight b hb
    rw [Frame.load_defer]
    omega
  cases heffect with
  | act => exact stays [] hframes
  | run => exact stays [_] (congrArg _ hframes)
  | runThen | compare | «matches» =>
    refine defers _ rfl hframes ?_
    rintro b ⟨⟩
    exact Nat.one_lt_two
  | @call called =>
    refine defers [⟨called.body, false, [], []⟩] rfl hframes ?_
    rintro b ⟨⟩
    exact Nat.one_lt_two
  | leave hleaves =>
    cases hleaves with
    | idle => exact stays [] hframes
    | lost => exact stays [] hframes
    | @cut r others dropped kept base hr hcut hbase hdropped =>
      have hkept : dropped ++ base :: kept = f :: below := hcut.symm.trans hframes
      cases dropped with
      | nil => exact stays [] hkept
      | cons g dropped =>
        obtain ⟨rfl, hbelow⟩ := List.cons.inj hkept
        exact .inl ⟨dropped, hbelow⟩
  | undo => exact stays [] hframes
  | advance => exact stays [] hframes
  | suppress => exact stays [] hframes
  | gone => exact stays [] hframes
  | iterate hfind hrun hturns hitem =>
    refine defers _ rfl hframes ?_
    rintro b ⟨⟩
    exact Nat.succ_lt_succ (unbegun_iterate_lt h hfind hrun hturns hitem)
  | @block b a s =>
    refine defers (z := { (x.turn s).change fun r => { r with
      repeaters := Repeater.start x.nextId x.top b a :: r.repeaters } with nextId := x.nextId + 1 })
      [] rfl hframes (by simp)
  | await => exact defers _ rfl hframes (by simp)

/-- The rank of a frame goes down when it gives up a token, or an action for one that stands for
less. -/
theorem lowerRank_of_gives {f f' g : Frame} (hf : f.Gives due f') {u : Nat → Nat}
    (hg : g.reader = f'.reader) (hload : ∀ a ∈ due, g.load (y.unbegun none) <
      f'.load u + a.weight u) : LowerRank (g.rank (y.unbegun none)) (f.rank u) := by
  simp only [Frame.rank, hg]
  cases hf with
  | token _ hless => exact .left _ _ hless
  | call _ hless => exact .left _ _ hless
  | @pre action pre hpre =>
    have hlt := hload action rfl
    refine .right _ (Nat.lt_of_lt_of_le hlt (Nat.le_of_eq ?_))
    simp [Frame.load, Frame.pending, hpre, Nat.add_comm]
  | @post action post hpre _ hpost =>
    have hlt := hload action rfl
    refine .right _ (Nat.lt_of_lt_of_le hlt (Nat.le_of_eq ?_))
    simp [Frame.load, Frame.pending, hpre, hpost, Nat.add_comm]

/-- The action in hand is still pending in the stage that it was taken from. -/
theorem unbegun_give {f f' : Frame} {below : List Frame} (hframes : x.frames = f :: below)
    (hf : f.Gives due f') (id : Nat) :
    unbegun due { x with frames := f' :: below } id = x.unbegun none id := by
  have hcount : due.toList.countP (·.advances id) + (f'.pending.countP (·.advances id)) =
      f.pending.countP (·.advances id) := by
    cases hf with
    | pre hpre => simp [Frame.pending, hpre, List.countP_cons, Nat.add_comm]
    | token => simp [Frame.pending]
    | @call _ action _ _ hready =>
      have hother : action.advances id = false := by
        cases action with
        | advance => exact hready.elim
        | _ => rfl
      simp [Frame.pending, hother]
    | post hpre _ hpost => simp [Frame.pending, hpre, hpost, List.countP_cons, Nat.add_comm]
  simp only [unbegun, advances, hframes, List.flatMap_cons, List.countP_append, ← hcount,
    Option.toList_none, List.countP_nil]
  omega

/-- Every step goes down. -/
theorem Step.lower (hstep : x.Step literals y) (h : x.Coherent none) :
    List.Lex LowerRank y.ranks x.ranks := by
  cases hstep with
  | @go f f' below due _ hframes hf heffect =>
    have hgiven := h.give hframes hf
    have hsame : unbegun due { x with frames := f' :: below } = x.unbegun none :=
      funext (unbegun_give hframes hf)
    have hle : ∀ g ∈ below, g.rank (y.unbegun none) = g.rank (x.unbegun none) ∨
        LowerRank (g.rank (y.unbegun none)) (g.rank (x.unbegun none)) := by
      intro g hg
      refine Frame.rank_le (Frame.load_le fun id hid => ?_)
      rw [← hsame]
      exact heffect.unbegun_le hgiven (hgiven.iterate_lt (List.mem_cons_of_mem _ hg) hid)
    simp only [ranks, hframes]
    rcases heffect.over hgiven rfl with ⟨rest, hrest⟩ | ⟨pushed, g, hy, hreader, hload⟩
    · rw [← hrest] at hle ⊢
      simp only [List.reverse_cons, List.reverse_append, List.map_append, List.append_assoc]
      refine Dictionary.lex_map_of_ne_nil (fun g hg => ?_) (by simp)
      exact hle g (List.mem_append_right _ (List.mem_reverse.1 hg))
    · rw [hsame] at hload
      have hlower := lowerRank_of_gives hf hreader hload
      rw [hy]
      simp only [List.reverse_append, List.reverse_cons, List.map_append, List.append_assoc]
      refine Dictionary.lex_map_append (fun g hg => hle g (List.mem_reverse.1 hg)) ?_
      exact .rel hlower
  | @pop f below hframes hpre _ hpost =>
    have hpending : f.pending = [] := by rw [Frame.pending, hpre, hpost, List.append_nil]
    have hsame : x.pop.unbegun none = x.unbegun none := by
      funext id
      simp [unbegun, advances, Stage.pop, hframes, hpending]
    simp only [ranks, hsame]
    simp only [Stage.pop, hframes, List.tail_cons, List.reverse_cons, List.map_append]
    exact Dictionary.lex_map_of_ne_nil (fun g _ => .inl rfl) (by simp)

end Stage

namespace Machine

variable {s : Setting}

/-- Every step goes down. -/
theorem Coherent.step_lower {m : Machine s} (h : m.Coherent) {f : Frame} {below : List Frame}
    (hframes : m.frames = f :: below) : Ensures m.step fun m' => Lower m' m := by
  refine (h.step_stage hframes).weaken fun m' hstep => ⟨hstep.lower h, ?_⟩
  simpa [Stage.ranks, stage] using m'.frames_le

end Machine

end Wordsmith
