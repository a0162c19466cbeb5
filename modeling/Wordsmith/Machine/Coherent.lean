import Wordsmith.Machine.Effect

/-!
# Coherence

What one action puts on a stack of the registers, another one takes back later, in a frame that may
be another. A frame can also be given up, and then its actions are replayed just for what they take
back. So the stacks have to fit all that is pending, in the order in which the frames and their
actions are going to be over: each action has to find on its stack what it takes back, and at the
end the stacks have to be empty. The registers *unwind* along the schedule.

This is what every step keeps, and the counts of the stacks follow from it.

Main results: `Step.coherent`, what coherent stages come to is coherent, and `Coherent.step`, the
same of machines.
-/

namespace Wordsmith

/-! ## Schedules -/

/-- What is pending in a frame, with the id of the frame. -/
def Frame.schedule (f : Frame) : List (Nat × Deferred) := f.pending.map (f.id, ·)

/-- All that is pending in frames, the innermost frame first. -/
def schedule (frames : List Frame) : List (Nat × Deferred) := frames.flatMap Frame.schedule

@[simp]
theorem schedule_cons (f : Frame) (frames : List Frame) :
    schedule (f :: frames) = f.schedule ++ schedule frames := rfl

@[simp]
theorem schedule_append (frames below : List Frame) :
    schedule (frames ++ below) = schedule frames ++ schedule below := by
  simp [schedule]

/-! ## Registers with the same stacks -/

/-- What never changes in a repeater. -/
structure Repeater.Place where
  id : Nat
  base : Nat
  size : Nat

/-- What never changes in a repeater. -/
def Repeater.place (r : Repeater) : Place := ⟨r.id, r.base, r.block.size⟩

namespace Registers

/-- What never changes in the repeaters, the innermost first. -/
def places (r : Registers) : List Repeater.Place := r.repeaters.map Repeater.place

/-- All stacks are empty. -/
structure Idle (r : Registers) : Prop where
  repeaters : r.repeaters = []
  comparisons : r.comparisons = []
  arguments : r.arguments = []
  matched : r.matched = []

/-- The stacks are as high, and the repeaters have the same places. -/
structure Alike (r r' : Registers) : Prop where
  places : r'.places = r.places
  comparisons : r'.comparisons.length = r.comparisons.length
  arguments : r'.arguments.length = r.arguments.length
  matched : r'.matched.length = r.matched.length

namespace Alike

theorem refl (r : Registers) : r.Alike r := ⟨rfl, rfl, rfl, rfl⟩

theorem symm {r r' : Registers} (h : r.Alike r') : r'.Alike r :=
  ⟨h.places.symm, h.comparisons.symm, h.arguments.symm, h.matched.symm⟩

theorem trans {r₁ r₂ r₃ : Registers} (h : r₁.Alike r₂) (h' : r₂.Alike r₃) : r₁.Alike r₃ :=
  ⟨h'.places.trans h.places, h'.comparisons.trans h.comparisons,
    h'.arguments.trans h.arguments, h'.matched.trans h.matched⟩

theorem of_turns {s t : Scene} (h : s.Turns t) : s.registers.Alike t.registers := by
  obtain ⟨hrepeaters, hcomparisons, harguments, hmatched⟩ := h.keeps_stacks
  exact ⟨congrArg (List.map Repeater.place) hrepeaters, congrArg List.length hcomparisons,
    congrArg List.length harguments, congrArg List.length hmatched⟩

end Alike

theorem alike_modifyRepeater (r : Registers) (id : Nat) {f : Repeater → Repeater}
    (hf : ∀ x, (f x).place = x.place) : r.Alike (r.modifyRepeater id f) := by
  refine ⟨?_, rfl, rfl, rfl⟩
  simp only [places, modifyRepeater, List.map_map]
  refine List.map_congr_left fun x _ => ?_
  show (if x.id = id then f x else x).place = x.place
  split
  · exact hf x
  · rfl

theorem places_removeRepeater (r : Registers) (id : Nat) :
    (r.removeRepeater id).places = r.places.filter (·.id != id) := by
  simp only [places, removeRepeater, List.filter_map]
  rfl

end Registers

namespace Repeater

@[simp]
theorem place_finish (r : Repeater) : r.finish.place = r.place := rfl

@[simp]
theorem place_advance (r : Repeater) : r.advance.place = r.place := by
  unfold advance
  split <;> rfl

@[simp]
theorem place_suppress (r : Repeater) : r.suppress.place = r.place := rfl

@[simp]
theorem place_restore (r : Repeater) : r.restore.place = r.place := rfl

end Repeater

/-! ## Unwinding -/

/-- An action that is pending in a frame finds what it takes back: on top of a stack, or in the
innermost repeater. -/
def Deferred.Fits (r : Registers) (base : Nat) : Deferred → Prop
  | dropArguments => 0 < r.arguments.length
  | finish .dropComparison => 0 < r.comparisons.length
  | leaveMatch => 0 < r.matched.length
  | iterate id => ∃ size others, r.places = ⟨id, base, size⟩ :: others ∧ ∀ p ∈ others, p.id ≠ id
  | advance id | suppress id | restore id => ∃ p others, r.places = p :: others ∧ p.id = id
  | _ => True

namespace Registers

/-- Every action of the schedule fits once those before it have been undone, and then the stacks are
empty. -/
def Unwinds : Registers → List (Nat × Deferred) → Prop
  | r, [] => r.Idle
  | r, (base, action) :: l => action.Fits r base ∧ Unwinds (r.undo action) l

theorem Alike.fits {r r' : Registers} (h : r.Alike r') {base : Nat} {action : Deferred}
    (hfits : action.Fits r base) : action.Fits r' base := by
  cases action with
  | dropArguments => simpa only [Deferred.Fits, h.arguments] using hfits
  | leaveMatch => simpa only [Deferred.Fits, h.matched] using hfits
  | iterate | advance | suppress | restore => simpa only [Deferred.Fits, h.places] using hfits
  | finish q =>
    cases q with
    | dropComparison => simpa only [Deferred.Fits, h.comparisons] using hfits
    | _ => trivial
  | _ => trivial

theorem Alike.undo {r r' : Registers} (h : r.Alike r') (action : Deferred) :
    (r.undo action).Alike (r'.undo action) := by
  cases action with
  | dropArguments =>
    refine ⟨h.places, h.comparisons, ?_, h.matched⟩
    simp [Registers.undo, h.arguments]
  | enterMatch =>
    refine ⟨h.places, h.comparisons, h.arguments, ?_⟩
    simp [Registers.undo, h.matched]
  | leaveMatch =>
    refine ⟨h.places, h.comparisons, h.arguments, ?_⟩
    simp [Registers.undo, h.matched]
  | iterate id =>
    refine ⟨?_, h.comparisons, h.arguments, h.matched⟩
    show (r'.removeRepeater id).places = (r.removeRepeater id).places
    rw [places_removeRepeater, places_removeRepeater, h.places]
  | restore id =>
    exact (alike_modifyRepeater r id Repeater.place_restore).symm.trans
      (h.trans (alike_modifyRepeater r' id Repeater.place_restore))
  | finish q =>
    cases q with
    | merge => exact ⟨h.places, h.comparisons, h.arguments, h.matched⟩
    | dropComparison =>
      refine ⟨h.places, ?_, h.arguments, h.matched⟩
      simp [Registers.undo, h.comparisons]
    | _ => exact h
  | _ => exact h

theorem Alike.unwinds {r r' : Registers} (h : r.Alike r') {l : List (Nat × Deferred)}
    (hl : r.Unwinds l) : r'.Unwinds l := by
  induction l generalizing r r' with
  | nil =>
    refine ⟨?_, ?_, ?_, ?_⟩
    · have hplaces : r'.places = [] := by
        rw [h.places]
        simp [Registers.places, hl.repeaters]
      exact List.map_eq_nil_iff.1 hplaces
    · exact List.length_eq_zero_iff.1 (by simp [h.comparisons, hl.comparisons])
    · exact List.length_eq_zero_iff.1 (by simp [h.arguments, hl.arguments])
    · exact List.length_eq_zero_iff.1 (by simp [h.matched, hl.matched])
  | cons p l ih =>
    obtain ⟨base, action⟩ := p
    exact ⟨h.fits hl.1, ih (h.undo action) hl.2⟩

/-- Undoing the first actions leaves registers that unwind along the rest. -/
theorem Unwinds.drop {r : Registers} {k l : List (Nat × Deferred)} (h : r.Unwinds (k ++ l)) :
    ((k.map (·.2)).foldl Registers.undo r).Unwinds l := by
  induction k generalizing r with
  | nil => exact h
  | cons p k ih => exact ih h.2

/-- The first action is undone at no change that matters. -/
theorem Unwinds.skip {r : Registers} {base : Nat} {action : Deferred} {l : List (Nat × Deferred)}
    (hundo : r.Alike (r.undo action)) (h : r.Unwinds ((base, action) :: l)) : r.Unwinds l :=
  hundo.symm.unwinds h.2

end Registers

/-- The action takes nothing back. -/
structure Deferred.IsNeutral (action : Deferred) : Prop where
  fits : ∀ r base, action.Fits r base
  alike : ∀ r : Registers, r.Alike (r.undo action)

namespace Deferred

theorem IsPlain.isNeutral {action : Deferred} (h : action.IsPlain) : action.IsNeutral := by
  cases action with
  | finish q =>
    cases q with
    | ifNothing | ifAnything => exact ⟨fun _ _ => trivial, .refl⟩
    | _ => exact h.elim
  | callTag | define | runPrinted | evaluate | replace | join =>
    exact ⟨fun _ _ => trivial, .refl⟩
  | _ => exact h.elim

theorem IsReady.isNeutral {action : Deferred} (h : action.IsReady) : action.IsNeutral := by
  cases action with
  | callTag | callSubroutine => exact ⟨fun _ _ => trivial, .refl⟩
  | _ => exact h.elim

theorem Awaits.isNeutral {literals : Bool} {action : Deferred} {ps : List Passage}
    (h : action.Awaits literals ps) : action.IsNeutral := by
  cases h <;> exact ⟨fun _ _ => trivial, .refl⟩

theorem isNeutral_callTag (tag : Tag) (name : Token) (slots : List Slot) :
    (callTag tag name slots).IsNeutral := ⟨fun _ _ => trivial, .refl⟩

theorem isNeutral_callSubroutine (called : Subroutine) (name : Token) (slots : List Slot) :
    (callSubroutine called name slots).IsNeutral := ⟨fun _ _ => trivial, .refl⟩

theorem isNeutral_finish {q : Sequel} (hq : q ≠ .dropComparison) : (finish q).IsNeutral := by
  cases q with
  | merge => exact ⟨fun _ _ => trivial, fun _ => ⟨rfl, rfl, rfl, rfl⟩⟩
  | dropComparison => exact absurd rfl hq
  | ifNothing | ifAnything => exact ⟨fun _ _ => trivial, .refl⟩

end Deferred

/-- Whatever is pending, registers that unwind along it do so with the actions of a passage that
begins. -/
def Opening.Suits (r : Registers) (o : Opening) : Prop :=
  ∀ id l, r.Unwinds l → r.Unwinds ((o.pre ++ o.post).map (id, ·) ++ l)

theorem Opening.suits_idle (r : Registers) (p : Passage) (owns : Bool) :
    Suits r ⟨p, owns, [], []⟩ := fun _ _ h => h

theorem Opening.suits_map_idle (r : Registers) (ps : List Passage) (owns : Bool) :
    ∀ o ∈ ps.map (⟨·, owns, [], []⟩ : Passage → Opening), o.Suits r := by
  intro o ho
  obtain ⟨p, -, rfl⟩ := List.mem_map.1 ho
  exact suits_idle r p owns

theorem Opening.suits_match (r : Registers) (p : Passage) (m : Regex.Match) :
    Suits r ⟨p, true, [.enterMatch m], [.leaveMatch]⟩ := fun _ _ h =>
  ⟨trivial, Nat.succ_pos _, h⟩

/-- What is begun for a repetition of the innermost repeater. -/
theorem Repeater.suits_openings {r : Registers} {x : Repeater} {others : List Place}
    (h : r.places = x.place :: others) (item : Option Passage) :
    ∀ o ∈ x.openings item, o.Suits r := by
  have advances : ∀ id l, r.Unwinds l → r.Unwinds ((id, .advance x.id) :: l) :=
    fun id l hl => ⟨⟨_, _, h, rfl⟩, hl⟩
  have restores : ∀ id l, r.Unwinds l → r.Unwinds ((id, .restore x.id) :: l) :=
    fun id l hl => ⟨⟨_, _, h, rfl⟩, (r.alike_modifyRepeater x.id place_restore).unwinds hl⟩
  have suppresses : ∀ id l, r.Unwinds l → r.Unwinds ((id, .suppress x.id) :: l) :=
    fun id l hl => ⟨⟨_, _, h, rfl⟩, hl⟩
  intro o ho
  simp only [openings, List.mem_append, List.mem_map] at ho
  rcases ho with ((⟨p, -, rfl⟩ | ⟨p, -, rfl⟩) | ⟨p, -, rfl⟩) | ⟨p, -, rfl⟩
  · exact fun id l hl => suppresses id _ (restores id l hl)
  · exact advances
  · by_cases hafter : x.attributes.after.isSome = true
    · simp only [hafter, if_true]
      exact Opening.suits_idle r p false
    · simp only [hafter]
      exact advances
  · exact Opening.suits_idle r p false

/-! ## Coherent stages -/

namespace Stage

/-- The stacks fit all that is pending, an action that has been taken off the innermost frame
included. Ids are given in order, so they are never given twice. Each output belongs to a frame, and
the outermost frame has one. -/
structure Coherent (due : Option Deferred) (x : Stage) : Prop where
  unwinds : x.registers.Unwinds (due.toList.map (x.top, ·) ++ schedule x.frames)
  ids : (x.frames.map (·.id)).Pairwise (· > ·)
  ids_lt : ∀ f ∈ x.frames, f.id < x.nextId
  places : ∀ p ∈ x.registers.places, p.id < x.nextId ∧ 0 < p.size
  outputs : x.outputs.length = x.frames.countP (·.owns)
  root : ∀ f ∈ x.frames.getLast?, f.owns = true

variable {x : Stage} {due : Option Deferred}

theorem Coherent.outputs_ne_nil (h : x.Coherent due) (hframes : x.frames ≠ []) :
    x.outputs ≠ [] := by
  have hroot := h.root _ (List.getLast?_eq_some_getLast hframes)
  have hpos : 0 < x.frames.countP (·.owns) :=
    List.countP_pos_iff.2 ⟨_, List.getLast_mem hframes, hroot⟩
  exact List.ne_nil_of_length_pos (h.outputs ▸ hpos)

/-- An action that takes nothing back can be let go. -/
theorem Coherent.release (h : x.Coherent due) (hdue : ∀ a ∈ due, a.IsNeutral) :
    x.Coherent none := by
  cases due with
  | none => exact h
  | some a => exact { h with unwinds := h.unwinds.skip ((hdue a rfl).alike _) }

/-- An action that takes nothing back can be taken in hand. -/
theorem Coherent.hold (h : x.Coherent none) {a : Deferred} (ha : a.IsNeutral) :
    x.Coherent (some a) :=
  { h with unwinds := ⟨ha.fits _ _, (ha.alike _).unwinds h.unwinds⟩ }

theorem Coherent.use (h : x.Coherent due) (n : Nat) : (x.use n).Coherent due :=
  ⟨h.unwinds, h.ids, h.ids_lt, h.places, h.outputs, h.root⟩

/-- A call uses up its results. -/
theorem Coherent.spend {a : Deferred} (h : x.Coherent (some a)) (ha : a.IsNeutral) (n : Nat) :
    (x.use n).Coherent none := by
  refine (h.release ?_).use n
  rintro b ⟨⟩
  exact ha

/-- Changed registers that unwind along another schedule. -/
theorem Coherent.change (h : x.Coherent due) {due' : Option Deferred} {f : Registers → Registers}
    (hf : (f x.registers).Unwinds (due'.toList.map (x.top, ·) ++ schedule x.frames))
    (hplaces : (f x.registers).places.Sublist x.registers.places) :
    (x.change f).Coherent due' :=
  ⟨hf, h.ids, h.ids_lt, fun p hp => h.places p (hplaces.mem hp), h.outputs, h.root⟩

theorem Coherent.changeAlike (h : x.Coherent due) {f : Registers → Registers}
    (hf : x.registers.Alike (f x.registers)) : (x.change f).Coherent due :=
  h.change (hf.unwinds h.unwinds) (hf.places ▸ .refl _)

theorem Coherent.turn (h : x.Coherent due) (hframes : x.frames ≠ []) {s : Scene}
    (hs : x.scene.Turns s) : (x.turn s).Coherent due := by
  have halike : x.registers.Alike s.registers := .of_turns hs
  have houtputs := List.length_pos_iff.2 (h.outputs_ne_nil hframes)
  refine ⟨halike.unwinds h.unwinds, h.ids, h.ids_lt, ?_, ?_, h.root⟩
  · intro p hp
    exact h.places p (halike.places ▸ hp)
  · rw [← show _ = List.countP _ (x.turn s).frames from h.outputs]
    simp only [Stage.turn, List.length_cons, List.length_tail]
    omega

theorem Coherent.defer {a : Deferred} (h : x.Coherent (some a)) (hframes : x.frames ≠ []) :
    (x.defer a).Coherent none := by
  obtain ⟨f, below, hx⟩ := List.exists_cons_of_ne_nil hframes
  obtain ⟨hunwinds, hids, hlt, hplaces, houtputs, hroot⟩ := h
  refine ⟨?_, ?_, ?_, hplaces, ?_, ?_⟩
  · simpa [Stage.defer, Stage.top, hx, Frame.schedule, Frame.pending] using hunwinds
  · simpa [Stage.defer, hx] using hids
  · simpa [Stage.defer, hx] using hlt
  · simpa [Stage.defer, hx, List.countP_cons] using houtputs
  · cases below with
    | nil => simpa [Stage.defer, hx] using hroot
    | cons => simpa [Stage.defer, hx] using hroot

theorem Coherent.enter (h : x.Coherent none) {o : Opening} (ho : o.Suits x.registers)
    (howns : x.frames ≠ [] ∨ o.owns = true) : (x.enter o).Coherent none := by
  refine ⟨?_, ?_, ?_, ?_, ?_, ?_⟩
  · exact ho x.nextId _ h.unwinds
  · refine List.pairwise_cons.2 ⟨fun id hid => ?_, h.ids⟩
    obtain ⟨f, hf, rfl⟩ := List.mem_map.1 hid
    exact h.ids_lt f hf
  · intro f hf
    rcases List.mem_cons.1 hf with rfl | hf
    · exact Nat.lt_succ_self _
    · exact Nat.lt_succ_of_lt (h.ids_lt f hf)
  · exact fun p hp => ⟨Nat.lt_succ_of_lt (h.places p hp).1, (h.places p hp).2⟩
  · have houtputs := h.outputs
    cases howned : o.owns <;> simp [Stage.enter, howned, houtputs]
  · cases hframes : x.frames with
    | nil => simpa [Stage.enter, hframes] using howns
    | cons f below =>
      have hroot := h.root
      simpa [Stage.enter, hframes] using hroot

theorem Coherent.enterAll (h : x.Coherent none) (hframes : x.frames ≠ []) {os : List Opening}
    (hos : ∀ o ∈ os, o.Suits x.registers) : (x.enterAll os).Coherent none := by
  induction os generalizing x with
  | nil => exact h
  | cons o os ih =>
    obtain ⟨ho, hos⟩ := List.forall_mem_cons.1 hos
    exact ih (h.enter ho (.inl hframes)) (List.cons_ne_nil _ _) hos

/-- An action is deferred until passages are over. -/
theorem Coherent.deferUntil {a : Deferred} (h : x.Coherent (some a)) (hframes : x.frames ≠ [])
    {os : List Opening} (hos : ∀ o ∈ os, o.Suits x.registers) :
    ((x.defer a).enterAll os).Coherent none := by
  refine (h.defer hframes).enterAll ?_ hos
  obtain ⟨f, below, hx⟩ := List.exists_cons_of_ne_nil hframes
  simp [Stage.defer, hx]

theorem Coherent.startBlock (h : x.Coherent none) (hframes : x.frames ≠ []) {b : Block}
    (hb : 0 < b.size) (a : Attributes) : (x.startBlock b a).Coherent none := by
  let add (r : Registers) : Registers :=
    { r with repeaters := Repeater.start x.nextId x.top b a :: r.repeaters }
  have hfresh : (add x.registers).removeRepeater x.nextId = x.registers := by
    have hothers : x.registers.repeaters.filter (·.id != x.nextId) = x.registers.repeaters := by
      refine List.filter_eq_self.2 fun r hr => ?_
      have hlt : r.id < x.nextId := (h.places r.place (List.mem_map_of_mem hr)).1
      simpa using Nat.ne_of_lt hlt
    simp [add, Registers.removeRepeater, Repeater.start, hothers]
  have hfits : Deferred.Fits (add x.registers) x.top (.iterate x.nextId) := by
    refine ⟨b.size, x.registers.places, rfl, fun p hp => ?_⟩
    exact Nat.ne_of_lt (h.places p hp).1
  have hadded : Coherent (some (.iterate x.nextId))
      { x.change add with nextId := x.nextId + 1 } := by
    refine ⟨⟨hfits, ?_⟩, h.ids, ?_, ?_, h.outputs, h.root⟩
    · show ((add x.registers).removeRepeater x.nextId).Unwinds _
      rw [hfresh]
      exact h.unwinds
    · exact fun f hf => Nat.lt_succ_of_lt (h.ids_lt f hf)
    · intro p hp
      rcases List.mem_cons.1 hp with rfl | hp
      · exact ⟨Nat.lt_succ_self _, hb⟩
      · exact ⟨Nat.lt_succ_of_lt (h.places p hp).1, (h.places p hp).2⟩
  exact hadded.defer hframes

end Stage

theorem Registers.places_undo (r : Registers) (action : Deferred) :
    (r.undo action).places.Sublist r.places := by
  cases action with
  | iterate id =>
    show (r.removeRepeater id).places.Sublist r.places
    rw [r.places_removeRepeater]
    exact List.filter_sublist
  | restore id => exact (r.alike_modifyRepeater id Repeater.place_restore).places ▸ .refl _
  | finish q => cases q <;> exact .refl _
  | _ => exact .refl _

/-- Only going on with a repeater is undone by taking one away. -/
theorem Registers.places_undo_eq (r : Registers) {action : Deferred}
    (h : ∀ id, action ≠ .iterate id) : (r.undo action).places = r.places := by
  cases action with
  | iterate id => exact absurd rfl (h id)
  | restore id => exact (r.alike_modifyRepeater id Repeater.place_restore).places
  | finish q => cases q <;> rfl
  | _ => rfl

/-- The innermost repeater is gone on with in the frame that its block is in. -/
theorem Registers.Unwinds.mem_iterate {r : Registers} {p : Repeater.Place}
    {others : List Repeater.Place} (hplaces : r.places = p :: others)
    {l : List (Nat × Deferred)} (h : r.Unwinds l) : (p.base, .iterate p.id) ∈ l := by
  induction l generalizing r with
  | nil =>
    have hnone : r.places = [] := List.map_eq_nil_iff.2 (show r.Idle from h).repeaters
    exact absurd (hnone.symm.trans hplaces) (by simp)
  | cons q l ih =>
    obtain ⟨base, action⟩ := q
    by_cases hiterate : ∃ id, action = .iterate id
    · obtain ⟨id, rfl⟩ := hiterate
      obtain ⟨size, others', hplaces', -⟩ := h.1
      rw [hplaces] at hplaces'
      cases hplaces'
      exact List.mem_cons_self
    · refine List.mem_cons_of_mem _ (ih ?_ h.2)
      rw [← hplaces]
      exact r.places_undo_eq fun id hid => hiterate ⟨id, hid⟩

/-- Every action finds what it takes back when its turn comes, among repeaters that are there. -/
theorem Registers.Unwinds.fits_of_mem {r : Registers} {l : List (Nat × Deferred)}
    (h : r.Unwinds l) {q : Nat × Deferred} (hmem : q ∈ l) :
    ∃ r' : Registers, q.2.Fits r' q.1 ∧ r'.places.Sublist r.places := by
  induction l generalizing r with
  | nil => cases hmem
  | cons a l ih =>
    rcases List.mem_cons.1 hmem with rfl | hmem
    · exact ⟨r, h.1, .refl _⟩
    · obtain ⟨r', hfits, hplaces⟩ := ih h.2 hmem
      exact ⟨r', hfits, hplaces.trans (r.places_undo a.2)⟩

/-- Up to the frame that the block of the innermost repeater is in, no repeater goes. -/
theorem Registers.Unwinds.fits_above {r : Registers} {p : Repeater.Place}
    {others : List Repeater.Place} (hplaces : r.places = p :: others)
    {k l : List (Nat × Deferred)} (h : r.Unwinds (k ++ l)) (hk : ∀ q ∈ k, q.1 ≠ p.base)
    {q : Nat × Deferred} (hmem : q ∈ k) :
    ∃ r' : Registers, q.2.Fits r' q.1 ∧ r'.places = p :: others := by
  induction k generalizing r with
  | nil => cases hmem
  | cons a k ih =>
    obtain ⟨hfits, hrest⟩ := h
    obtain ⟨ha, hk⟩ := List.forall_mem_cons.1 hk
    rcases List.mem_cons.1 hmem with rfl | hmem
    · exact ⟨r, hfits, hplaces⟩
    · refine ih ?_ hrest hk hmem
      rw [← hplaces]
      refine r.places_undo_eq fun id hid => ?_
      rw [hid] at hfits
      obtain ⟨size, others', hplaces', -⟩ := hfits
      rw [hplaces] at hplaces'
      cases hplaces'
      exact ha rfl

theorem Machine.places_giveUp (r : Registers) (frames : List Frame) :
    (giveUp r frames).places.Sublist r.places := by
  unfold giveUp
  generalize frames.flatMap (fun f => f.pre ++ f.post) = actions
  induction actions generalizing r with
  | nil => exact .refl _
  | cons action actions ih => exact (ih _).trans (r.places_undo action)

theorem map_schedule (frames : List Frame) :
    (schedule frames).map (·.2) = frames.flatMap fun f => f.pre ++ f.post := by
  induction frames with
  | nil => rfl
  | cons f frames ih => simp [Frame.schedule, Frame.pending, ih, Function.comp_def]

namespace Stage

variable {x y : Stage} {due : Option Deferred} {literals : Bool}

/-- The repeater to go on with is the innermost one. -/
theorem Coherent.innermost {id : Nat} (h : x.Coherent (some (.iterate id))) :
    ∃ r others, x.registers.repeaters = r :: others ∧ r.id = id ∧ r.base = x.top ∧
      ∀ r' ∈ others, r'.id ≠ id := by
  obtain ⟨⟨size, others, hplaces, hothers⟩, -⟩ := h.unwinds
  obtain ⟨r, rest, hrepeaters, hr, hrest⟩ := List.map_eq_cons_iff.1 hplaces
  refine ⟨r, rest, hrepeaters, congrArg Repeater.Place.id hr, congrArg Repeater.Place.base hr, ?_⟩
  intro r' hr'
  exact hothers r'.place (hrest ▸ List.mem_map_of_mem hr')

/-- What is given up with the frames of a block is undone, so the rest still fits. -/
theorem Leaves.coherent (hleaves : x.Leaves y) (h : x.Coherent none) : y.Coherent none := by
  cases hleaves with
  | idle => exact h
  | lost hr => exact h.changeAlike ⟨by simp [Registers.places, hr], rfl, rfl, rfl⟩
  | @cut r others dropped kept base hr hframes hbase hdropped =>
    have halike : x.registers.Alike { x.registers with repeaters := r.finish :: others } :=
      ⟨by simp [Registers.places, hr], rfl, rfl, rfl⟩
    obtain ⟨hunwinds, hids, hlt, hplaces, houtputs, hroot⟩ := h
    rw [hframes] at hunwinds hids hlt houtputs hroot
    refine ⟨?_, ?_, ?_, ?_, ?_, ?_⟩
    · have hfinished := halike.unwinds hunwinds
      rw [Option.toList_none, List.map_nil, List.nil_append, schedule_append] at hfinished
      have hrest := hfinished.drop
      rw [map_schedule] at hrest
      exact hrest
    · rw [List.map_append] at hids
      exact (List.pairwise_append.1 hids).2.1
    · exact fun f hf => hlt f (List.mem_append_right _ hf)
    · intro p hp
      exact hplaces p (halike.places ▸ (Machine.places_giveUp _ dropped).mem hp)
    · simp only [List.length_drop, houtputs, List.countP_append]
      omega
    · simpa [List.getLast?_append] using hroot

/-- What an effect makes of a coherent stage is coherent. -/
theorem Effect.coherent (heffect : x.Effect literals due y) (h : x.Coherent due)
    (hframes : x.frames ≠ []) : y.Coherent none := by
  cases heffect with
  | act hdue hturns =>
    have hreleased := h.release fun a ha => (hdue a ha).isNeutral
    exact (hreleased.use _).turn hframes hturns
  | run hdue hturns =>
    have hreleased := h.release fun a ha => (hdue a ha).isNeutral
    exact ((hreleased.use _).turn hframes hturns).enter (Opening.suits_idle _ _ _) (.inl hframes)
  | @runThen _ _ slots _ _ _ hq hturns =>
    have hspent := h.spend (Deferred.isNeutral_callTag ..) (slots.countP (·.isEvaluated))
    have hturned := hspent.turn hframes hturns
    exact (hturned.hold (Deferred.isNeutral_finish hq)).deferUntil hframes
      (Opening.suits_map_idle _ _ false)
  | @compare _ _ slots c _ =>
    have hspent := h.spend (Deferred.isNeutral_callTag ..) (slots.countP (·.isEvaluated))
    have hpushed : Coherent (some (.finish .dropComparison))
        ((x.use (slots.countP (·.isEvaluated))).change
          fun r => { r with comparisons := c :: r.comparisons }) :=
      hspent.change ⟨Nat.succ_pos _, hspent.unwinds⟩ (.refl _)
    exact hpushed.deferUntil hframes (Opening.suits_map_idle _ _ false)
  | @call _ _ slots table =>
    have hspent := h.spend (Deferred.isNeutral_callSubroutine ..) (slots.countP (·.isEvaluated))
    have hpushed : Coherent (some .dropArguments)
        ((x.use (slots.countP (·.isEvaluated))).change
          fun r => { r with arguments := table :: r.arguments }) :=
      hspent.change ⟨Nat.succ_pos _, hspent.unwinds⟩ (.refl _)
    exact hpushed.deferUntil hframes (Opening.suits_map_idle _ [_] false)
  | leave hleaves => exact hleaves.coherent (h.spend (Deferred.isNeutral_callTag ..) _)
  | undo hundoes => exact h.change h.unwinds.2 (x.registers.places_undo _)
  | @advance id =>
    have hrest : x.registers.Unwinds (schedule x.frames) := h.unwinds.2
    have halike := x.registers.alike_modifyRepeater id Repeater.place_advance
    exact h.change (halike.unwinds hrest) (halike.places ▸ .refl _)
  | @suppress id =>
    have hrest : x.registers.Unwinds (schedule x.frames) := h.unwinds.2
    have halike := x.registers.alike_modifyRepeater id Repeater.place_suppress
    exact h.change (halike.unwinds hrest) (halike.places ▸ .refl _)
  | gone hfind =>
    obtain ⟨r, others, hr, hid, -⟩ := h.innermost
    simp [Registers.findRepeater?, hr, hid] at hfind
  | @iterate r s item hfind hrun hturns hitem =>
    obtain ⟨r', others, hr, hid, -⟩ := h.innermost
    have hsame : r' = r := by
      simpa [Registers.findRepeater?, hr, hid] using hfind
    have hplaces : s.registers.places = r.place :: others.map Repeater.place := by
      rw [(Registers.Alike.of_turns hturns).places]
      show x.registers.places = _
      rw [Registers.places, hr, hsame, List.map_cons]
    exact (h.turn hframes hturns).deferUntil hframes (Repeater.suits_openings hplaces item)
  | block hsize hturns => exact (h.turn hframes hturns).startBlock hframes hsize _
  | await hawaits hps =>
    exact (h.hold hawaits.isNeutral).deferUntil hframes (Opening.suits_map_idle _ _ true)
  | @«matches» regex code position text found htext hall hfound =>
    have hspent := h.spend ⟨fun _ _ => trivial, .refl⟩ 1
    refine (hspent.hold (a := .join text _) ⟨fun _ _ => trivial, .refl⟩).deferUntil hframes ?_
    intro o ho
    obtain ⟨m, -, rfl⟩ := List.mem_map.1 ho
    exact Opening.suits_match _ code m

/-! ## Steps -/

/-- An action that a frame gives up is still there, in hand. -/
theorem Coherent.give (h : x.Coherent none) {f f' : Frame} {below : List Frame}
    (hframes : x.frames = f :: below) (hf : f.Gives due f') :
    Coherent due { x with frames := f' :: below } := by
  obtain ⟨hunwinds, hids, hlt, hplaces, houtputs, hroot⟩ := h
  rw [hframes] at hunwinds hids hlt houtputs hroot
  have hsame : f'.id = f.id ∧ f'.owns = f.owns := by cases hf <;> exact ⟨rfl, rfl⟩
  obtain ⟨hid, howns⟩ := hsame
  refine ⟨?_, ?_, ?_, hplaces, ?_, ?_⟩
  · cases hf with
    | pre hpre => simpa [Frame.schedule, Frame.pending, Stage.top, hpre] using hunwinds
    | token => exact hunwinds
    | call _ _ hready =>
      exact ⟨hready.isNeutral.fits _ _, (hready.isNeutral.alike _).unwinds hunwinds⟩
    | post hpre _ hpost =>
      simpa [Frame.schedule, Frame.pending, Stage.top, hpre, hpost] using hunwinds
  · simpa [hid] using hids
  · simpa [hid] using hlt
  · simpa [howns, List.countP_cons] using houtputs
  · cases below with
    | nil => simpa [howns] using hroot
    | cons => exact hroot

/-- A frame with nothing left to do ends. -/
theorem Coherent.pop (h : x.Coherent none) {f : Frame} {below : List Frame}
    (hframes : x.frames = f :: below) (hpending : f.pending = []) : x.pop.Coherent none := by
  obtain ⟨hunwinds, hids, hlt, hplaces, houtputs, hroot⟩ := h
  rw [hframes] at hunwinds hids hlt houtputs hroot
  have hrest : x.pop.frames = below := by simp [Stage.pop, hframes]
  refine ⟨?_, ?_, ?_, hplaces, ?_, ?_⟩
  · rw [hrest]
    simp only [schedule_cons, Frame.schedule, hpending, List.map_nil, List.nil_append] at hunwinds
    exact hunwinds
  · rw [hrest]
    exact (List.pairwise_cons.1 hids).2
  · rw [hrest]
    exact fun g hg => hlt g (List.mem_cons_of_mem f hg)
  · rw [hrest]
    cases howns : f.owns <;> simp_all [Stage.pop]
  · rw [hrest]
    cases below with
    | nil => simp
    | cons => simpa using hroot

/-- What a coherent stage comes to is coherent. -/
theorem Step.coherent (hstep : x.Step literals y) (h : x.Coherent none) : y.Coherent none := by
  cases hstep with
  | go hframes hf heffect => exact heffect.coherent (h.give hframes hf) (List.cons_ne_nil _ _)
  | pop hframes hpre _ hpost =>
    exact h.pop hframes (by rw [Frame.pending, hpre, hpost, List.append_nil])

end Stage

/-! ## Coherent machines -/

namespace Machine

variable {s : Setting}

/-- The stage of the machine is coherent. -/
def Coherent (m : Machine s) : Prop := m.stage.Coherent none

/-- A step of a coherent machine is one of those listed. -/
theorem Coherent.step_stage {m : Machine s} (h : m.Coherent) {f : Frame} {below : List Frame}
    (hframes : m.frames = f :: below) :
    Ensures m.step fun m' => m.stage.Step s.shortcuts.literals m'.stage :=
  Machine.step_stage hframes (h.outputs_ne_nil (by simp [stage, hframes]))

/-- What every step keeps. -/
theorem Coherent.step {m : Machine s} (h : m.Coherent) : Ensures m.step Coherent := by
  cases hframes : m.frames with
  | nil =>
    unfold Machine.step
    rw [hframes]
    exact .pure h
  | cons f below => exact (h.step_stage hframes).weaken fun _ hstep => hstep.coherent h

/-- A run begins with a coherent machine. -/
theorem coherent_start {r : Registers} (h : r.Idle) (p : Passage) :
    Ensures ((initial s r).push p true [] []) Coherent := by
  refine (push_stage ..).weaken fun m hm => ?_
  show m.stage.Coherent none
  rw [hm]
  have hempty : (initial s r).stage.Coherent none := by
    refine ⟨h, .nil, nofun, ?_, rfl, nofun⟩
    intro p hp
    simp [initial, stage, Registers.places, h.repeaters] at hp
  exact hempty.enter (Opening.suits_idle _ p true) (.inr rfl)

end Machine

end Wordsmith
