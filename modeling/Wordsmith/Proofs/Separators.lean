import Wordsmith.Proofs.Balance
import Wordsmith.Proofs.Isolation

/-!
# Separators

While a separator runs, its repeater is suppressed. A counter in the repeater tells this, which is
raised when the frame of the separator begins and lowered when it ends or is given up. So the counter
is right if it counts the frames that are between the two, and this is what every step keeps. When a
block is left, the separators that are given up are those of its own repeater, whether they have
begun or not; the counter does not go below 0.

Frames of separators only come with a repetition, and so does the action that counts it. As long as
a frame of the repetition is there, no other repetition of the repeater begins.

Main results: `Engine.Reaches.isSuppressed_iff`, and `Engine.Reaches.inherits` for a repetition that
goes on.
-/

namespace Wordsmith

/-! ## Separators among the frames -/

namespace Deferred

/-- Whether the action begins a separator of a repeater. -/
def suppresses (id : Nat) : Deferred → Bool
  | suppress id' => id' == id
  | _ => false

/-- Whether the action ends a separator of a repeater. -/
def restores (id : Nat) : Deferred → Bool
  | restore id' => id' == id
  | _ => false

/-- The action neither begins a separator nor ends one. -/
def IsAside : Deferred → Prop
  | suppress _ | restore _ => False
  | _ => True

variable {action : Deferred} {id : Nat}

theorem IsAside.suppresses (h : action.IsAside) (id : Nat) : action.suppresses id = false := by
  cases action with
  | suppress => exact h.elim
  | _ => rfl

theorem IsAside.restores (h : action.IsAside) (id : Nat) : action.restores id = false := by
  cases action with
  | restore => exact h.elim
  | _ => rfl

theorem eq_of_restores (h : action.restores id = true) : action = .restore id := by
  cases action with
  | restore => rw [eq_of_beq h]
  | _ => cases h

theorem IsPlain.isAside (h : action.IsPlain) : action.IsAside := by
  cases action with
  | suppress | restore => exact h.elim
  | _ => trivial

theorem IsReady.isAside (h : action.IsReady) : action.IsAside := by
  cases action with
  | suppress | restore => exact h.elim
  | _ => trivial

theorem Awaits.isAside {literals : Bool} {ps : List Passage} (h : action.Awaits literals ps) :
    action.IsAside := by
  cases h <;> trivial

end Deferred

namespace Frame

/-- Whether the frame is that of a separator of a repeater. -/
def isSeparator (id : Nat) (f : Frame) : Bool := f.post.any (·.restores id)

/-- Whether a separator of a repeater runs in the frame: it has begun and not ended. -/
def separates (id : Nat) (f : Frame) : Bool := f.isSeparator id && !f.pre.any (·.suppresses id)

/-- The frame of a separator has nothing else to do at its end, and nothing to do before it
begins. -/
structure Tidy (f : Frame) : Prop where
  pre : ∀ id, .restore id ∉ f.pre
  begins : ∀ id, .suppress id ∈ f.pre → f.post = [.restore id]
  post : f.post.length ≤ 1

variable {f f' : Frame} {due : Option Deferred} {id : Nat}

theorem isSeparator_iff : f.isSeparator id = true ↔ .restore id ∈ f.post := by
  rw [isSeparator, List.any_eq_true]
  constructor
  · rintro ⟨action, hmem, h⟩
    exact Deferred.eq_of_restores h ▸ hmem
  · exact fun hmem => ⟨_, hmem, by simp [Deferred.restores]⟩

theorem isSeparator_of_separates (h : f.separates id = true) : f.isSeparator id = true :=
  (Bool.and_eq_true_iff.1 h).1

theorem countP_separates_le (frames : List Frame) (id : Nat) :
    frames.countP (·.separates id) ≤ (frames.flatMap pending).countP (·.restores id) := by
  induction frames with
  | nil => exact Nat.le_refl _
  | cons f frames ih =>
    rw [List.countP_cons, List.flatMap_cons, List.countP_append]
    split
    · next hs =>
      have hpos : 0 < f.pending.countP (·.restores id) := by
        refine List.countP_pos_iff.2 ⟨.restore id, ?_, by simp [Deferred.restores]⟩
        exact List.mem_append_right _ (isSeparator_iff.1 (isSeparator_of_separates hs))
      omega
    · omega

theorem Tidy.defer (h : f.Tidy) {action : Deferred} (haction : action.IsAside) :
    Tidy { f with pre := action :: f.pre } := by
  refine ⟨fun id hmem => ?_, fun id hmem => ?_, h.post⟩
  · rcases List.mem_cons.1 hmem with rfl | hmem
    · exact haction
    · exact h.pre id hmem
  · rcases List.mem_cons.1 hmem with rfl | hmem
    · exact haction.elim
    · exact h.begins id hmem

theorem separates_defer (f : Frame) {action : Deferred} (haction : action.IsAside) (id : Nat) :
    separates id { f with pre := action :: f.pre } = f.separates id := by
  simp [separates, isSeparator, haction.suppresses]

/-- What is given up stays as it was, but for an action that begins or ends a separator. -/
theorem Gives.tidy (h : f.Gives due f') (hf : f.Tidy) (hneat : f.Neat) :
    f'.Tidy ∧ ∀ id, (f.separates id).toNat + due.toList.countP (·.suppresses id) =
      (f'.separates id).toNat + due.toList.countP (·.restores id) := by
  cases h with
  | @pre action pre hpre =>
    have hnone : pre = [] := by
      have hlength := hneat.pre
      rw [hpre, List.length_cons] at hlength
      exact List.length_eq_zero_iff.1 (by omega)
    subst hnone
    have hmem : action ∈ f.pre := hpre ▸ List.mem_cons_self
    refine ⟨⟨fun _ => List.not_mem_nil, nofun, hf.post⟩, fun id => ?_⟩
    cases action with
    | suppress id' =>
      have hpost := hf.begins id' hmem
      by_cases hid : id' = id
      · simp [separates, isSeparator, hpre, hpost, Deferred.suppresses, Deferred.restores, hid]
      · simp [separates, isSeparator, hpre, hpost, Deferred.suppresses, Deferred.restores,
          beq_eq_false_iff_ne.2 hid]
    | restore id' => exact absurd hmem (hf.pre id')
    | _ => simp [separates, isSeparator, hpre, Deferred.suppresses, Deferred.restores]
  | token => exact ⟨⟨hf.pre, hf.begins, hf.post⟩, fun _ => rfl⟩
  | call _ _ hready =>
    refine ⟨⟨hf.pre, hf.begins, hf.post⟩, fun id => ?_⟩
    simp only [Option.toList_some, List.countP_singleton, hready.isAside.suppresses,
      hready.isAside.restores]
    rfl
  | @post action post hpre _ hpost =>
    have hnone : post = [] := by
      have hlength := hf.post
      rw [hpost, List.length_cons] at hlength
      exact List.length_eq_zero_iff.1 (by omega)
    subst hnone
    refine ⟨⟨hf.pre, fun id hmem => ?_, by simp⟩, fun id => ?_⟩
    · rw [show f.pre = [] from hpre] at hmem
      cases hmem
    · have hlate := hneat.post action (hpost ▸ List.mem_cons_self)
      cases action with
      | restore id' =>
        by_cases hid : id' = id
        · simp [separates, isSeparator, hpre, hpost, Deferred.suppresses, Deferred.restores, hid]
        · simp [separates, isSeparator, hpre, hpost, Deferred.suppresses, Deferred.restores,
            beq_eq_false_iff_ne.2 hid]
      | advance | leaveMatch =>
        simp [separates, isSeparator, hpost, Deferred.suppresses, Deferred.restores]
      | _ => exact hlate.elim

end Frame

namespace Opening

/-- A passage begins in a frame that is tidy and in which no separator runs. -/
def IsTidy (o : Opening) : Prop :=
  ∀ id mark, (o.frame id mark).Tidy ∧ ∀ r, (o.frame id mark).separates r = false

theorem isTidy_idle (p : Passage) (owns : Bool) : IsTidy ⟨p, owns, [], []⟩ := fun id mark =>
  ⟨⟨by simp [frame], by simp [frame], by simp [frame]⟩, fun r => rfl⟩

theorem isTidy_map_idle (ps : List Passage) (owns : Bool) :
    ∀ o ∈ ps.map (⟨·, owns, [], []⟩ : Passage → Opening), o.IsTidy := by
  intro o ho
  obtain ⟨p, -, rfl⟩ := List.mem_map.1 ho
  exact isTidy_idle p owns

theorem isTidy_match (p : Passage) (m : Regex.Match) :
    IsTidy ⟨p, true, [.enterMatch m], [.leaveMatch]⟩ := fun id mark =>
  ⟨⟨by simp [frame], by simp [frame], by simp [frame]⟩, fun r => rfl⟩

end Opening

/-! ## Counting separators -/

namespace Registers

/-- What is given up for a frame lowers the counter of a repeater once for each separator. -/
theorem repeaters_undo (r : Registers) {action : Deferred} (h : ∀ id, action ≠ .iterate id) :
    (r.undo action).repeaters = r.repeaters.map fun x =>
      { x with suppressed := x.suppressed - if action.restores x.id then 1 else 0 } := by
  have hsame : r.repeaters = r.repeaters.map fun x => { x with suppressed := x.suppressed - 0 } :=
    (List.map_id _).symm
  cases action with
  | iterate id => exact absurd rfl (h id)
  | restore id =>
    refine List.map_congr_left fun x _ => ?_
    by_cases hid : x.id = id
    · simp [hid, Deferred.restores, Repeater.restore]
    · simp [hid, Ne.symm hid, Deferred.restores]
  | finish q => cases q <;> exact hsame
  | _ => exact hsame

theorem repeaters_foldl_undo {actions : List Deferred} (r : Registers)
    (h : ∀ id, .iterate id ∉ actions) :
    (actions.foldl undo r).repeaters = r.repeaters.map fun x =>
      { x with suppressed := x.suppressed - actions.countP (·.restores x.id) } := by
  induction actions generalizing r with
  | nil => exact (List.map_id _).symm
  | cons action actions ih =>
    have hfirst : ∀ id, action ≠ .iterate id := fun id hid => h id (hid ▸ List.mem_cons_self)
    rw [List.foldl_cons, ih _ fun id hid => h id (List.mem_cons_of_mem _ hid),
      r.repeaters_undo hfirst, List.map_map]
    refine List.map_congr_left fun x _ => ?_
    simp only [Function.comp_apply, List.countP_cons, Nat.sub_sub, Nat.add_comm]

/-- When frames are given up in which no repeater is gone on with, the counters are lowered for their
separators. -/
theorem repeaters_giveUp (r : Registers) {frames : List Frame}
    (h : ∀ f ∈ frames, ∀ id, .iterate id ∉ f.pending) :
    (Machine.giveUp r frames).repeaters = r.repeaters.map fun x =>
      { x with suppressed := x.suppressed -
          (frames.flatMap Frame.pending).countP (·.restores x.id) } := by
  refine r.repeaters_foldl_undo fun id hid => ?_
  obtain ⟨f, hf, hmem⟩ := List.mem_flatMap.1 hid
  exact h f hf id hmem

end Registers

namespace Stage

/-- The counter of every repeater is the number of its separators that run, if an action has been
taken off the innermost frame. -/
structure Counts (due : Option Deferred) (x : Stage) : Prop where
  tidy : ∀ f ∈ x.frames, f.Tidy
  suppressed : ∀ r ∈ x.registers.repeaters,
    r.suppressed + due.toList.countP (·.suppresses r.id) =
      x.frames.countP (·.separates r.id) + due.toList.countP (·.restores r.id)

variable {x y : Stage} {due : Option Deferred} {f f' : Frame} {below : List Frame}
  {literals : Bool}

namespace Counts

/-- Neither what is printed nor what else is remembered matters. -/
theorem of_same (h : x.Counts due) (hframes : y.frames = x.frames)
    (hrepeaters : y.registers.repeaters = x.registers.repeaters) : y.Counts due :=
  ⟨hframes ▸ h.tidy, hframes ▸ hrepeaters ▸ h.suppressed⟩

theorem release (h : x.Counts due) (hdue : ∀ a ∈ due, a.IsAside) : x.Counts none := by
  refine ⟨h.tidy, fun r hr => ?_⟩
  have hcount := h.suppressed r hr
  cases due with
  | none => exact hcount
  | some a =>
    simpa [(hdue a rfl).suppresses, (hdue a rfl).restores] using hcount

/-- A call uses up its results. -/
theorem spend {action : Deferred} (h : x.Counts (some action)) (haction : action.IsAside) (n : Nat) :
    (x.use n).Counts none := by
  refine (h.release ?_).of_same rfl rfl
  rintro a ⟨⟩
  exact haction

theorem turn {s : Scene} (h : x.Counts due) (hs : x.scene.Turns s) : (x.turn s).Counts due :=
  h.of_same rfl hs.keeps_stacks.1

theorem defer (h : x.Counts none) {action : Deferred} (haction : action.IsAside) :
    (x.defer action).Counts none := by
  cases hframes : x.frames with
  | nil => exact h.of_same (by simp [Stage.defer, hframes]) rfl
  | cons f below =>
    have htidy := h.tidy
    have hcount := h.suppressed
    rw [hframes] at htidy hcount
    obtain ⟨hf, hbelow⟩ := List.forall_mem_cons.1 htidy
    have hdeferred : (x.defer action).frames = { f with pre := action :: f.pre } :: below := by
      simp [Stage.defer, hframes]
    refine ⟨?_, fun r hr => ?_⟩
    · rw [hdeferred]
      exact List.forall_mem_cons.2 ⟨hf.defer haction, hbelow⟩
    · rw [hdeferred, List.countP_cons, f.separates_defer haction, ← List.countP_cons]
      exact hcount r hr

theorem enter (h : x.Counts none) {o : Opening} (ho : o.IsTidy) : (x.enter o).Counts none := by
  obtain ⟨htidy, hquiet⟩ := ho x.nextId x.results.length
  refine ⟨List.forall_mem_cons.2 ⟨htidy, h.tidy⟩, fun r hr => ?_⟩
  show _ = List.countP _ (_ :: x.frames) + _
  rw [List.countP_cons_of_neg (by simp [hquiet])]
  exact h.suppressed r hr

theorem enterAll (h : x.Counts none) {os : List Opening} (hos : ∀ o ∈ os, o.IsTidy) :
    (x.enterAll os).Counts none := by
  induction os generalizing x with
  | nil => exact h
  | cons o os ih =>
    obtain ⟨ho, hos⟩ := List.forall_mem_cons.1 hos
    exact ih (h.enter ho) hos

/-- What the innermost frame gives up is in hand. -/
theorem give (h : x.Counts none) (hframes : x.frames = f :: below) (hf : f.Gives due f')
    (hneat : f.Neat) : Counts due { x with frames := f' :: below } := by
  have htidy := h.tidy
  have hcount := h.suppressed
  rw [hframes] at htidy hcount
  obtain ⟨htop, hbelow⟩ := List.forall_mem_cons.1 htidy
  obtain ⟨htop', hgives⟩ := hf.tidy htop hneat
  refine ⟨List.forall_mem_cons.2 ⟨htop', hbelow⟩, fun r hr => ?_⟩
  have hbefore := hcount r hr
  have hchange := hgives r.id
  show r.suppressed + _ = List.countP _ (f' :: below) + _
  cases hs : f.separates r.id <;> cases hs' : f'.separates r.id <;>
    simp [hs, hs'] at hbefore hchange ⊢ <;> omega

/-- Repeaters that change as the action in hand asks for. -/
theorem changeRepeaters (h : x.Counts due) {g : Registers → Registers} {F : Repeater → Repeater}
    (hg : (g x.registers).repeaters = x.registers.repeaters.map F) (hid : ∀ r, (F r).id = r.id)
    (hF : ∀ r k, r.suppressed + due.toList.countP (·.suppresses r.id) =
      k + due.toList.countP (·.restores r.id) → (F r).suppressed = k) :
    (x.change g).Counts none := by
  refine ⟨h.tidy, fun r hr => ?_⟩
  obtain ⟨r₀, hr₀, rfl⟩ := List.mem_map.1 (show r ∈ x.registers.repeaters.map F from hg ▸ hr)
  rw [hid]
  exact hF r₀ _ (h.suppressed r₀ hr₀)

/-- An action that has to do with a repeater is taken. -/
theorem modifyRepeater {action : Deferred} (h : x.Counts (some action)) {id : Nat}
    {f : Repeater → Repeater} (hid : ∀ r, (f r).id = r.id)
    (hother : ∀ id', id' ≠ id → action.suppresses id' = false ∧ action.restores id' = false)
    (hf : ∀ r : Repeater, r.id = id → ∀ k, r.suppressed + (action.suppresses id).toNat =
      k + (action.restores id).toNat → (f r).suppressed = k) :
    (x.change (·.modifyRepeater id f)).Counts none := by
  refine h.changeRepeaters rfl (fun r => ?_) fun r k hcount => ?_
  · split
    · exact hid r
    · rfl
  · split
    · next hr =>
      refine hf r hr k ?_
      rw [hr] at hcount
      cases hs : action.suppresses id <;> cases hr : action.restores id <;>
        simpa [hs, hr] using hcount
    · next hr =>
      obtain ⟨hs, hr⟩ := hother r.id hr
      simpa [hs, hr] using hcount

end Counts

end Stage

/-- No separator runs in the frames of a repetition when they begin. -/
theorem Repeater.isTidy_openings (r : Repeater) (item : Option Passage) :
    ∀ o ∈ r.openings item, o.IsTidy := by
  intro o ho
  simp only [openings, List.mem_append, List.mem_map] at ho
  rcases ho with ((⟨p, -, rfl⟩ | ⟨p, -, rfl⟩) | ⟨p, -, rfl⟩) | ⟨p, -, rfl⟩
  · refine fun id mark => ⟨⟨by simp [Opening.frame], by simp [Opening.frame],
      by simp [Opening.frame]⟩, fun x => ?_⟩
    by_cases hx : r.id = x <;>
      simp [Opening.frame, Frame.separates, Frame.isSeparator, Deferred.suppresses,
        Deferred.restores, hx]
  · exact fun id mark => ⟨⟨by simp [Opening.frame], by simp [Opening.frame],
      by simp [Opening.frame]⟩, fun x => rfl⟩
  · refine fun id mark => ⟨⟨by simp [Opening.frame], by simp [Opening.frame], ?_⟩, fun x => ?_⟩
    · dsimp only [Opening.frame]
      split <;> simp
    · dsimp only [Opening.frame, Frame.separates, Frame.isSeparator]
      split <;> rfl
  · exact Opening.isTidy_idle p false

namespace Registers

/-- The ends of separators that are pending belong to repeaters that are there. -/
theorem Unwinds.exists_restored {r : Registers} {l : List (Nat × Deferred)} (h : r.Unwinds l)
    {base id : Nat} (hmem : (base, .restore id) ∈ l) : ∃ p ∈ r.places, p.id = id := by
  obtain ⟨r', ⟨p, others, hplaces', hid⟩, hplaces⟩ := h.fits_of_mem hmem
  exact ⟨p, hplaces.mem (hplaces' ▸ List.mem_cons_self), hid⟩

end Registers

namespace Stage

variable {x y : Stage} {due : Option Deferred} {f f' : Frame} {below : List Frame}
  {literals : Bool}

theorem mem_schedule {frames : List Frame} (hf : f ∈ frames) {action : Deferred}
    (haction : action ∈ f.pending) : (f.id, action) ∈ schedule frames :=
  List.mem_flatMap.2 ⟨f, hf, List.mem_map_of_mem haction⟩

/-- Above the frame that the block of the innermost repeater is in, separators are ended and
repetitions are counted of this repeater only, and no repeater is gone on with. Below it is the other
way round. -/
theorem Coherent.innermost_pending (h : x.Coherent none) {r : Repeater} {others : List Repeater}
    (hr : x.registers.repeaters = r :: others) {dropped kept : List Frame} {base : Frame}
    (hframes : x.frames = dropped ++ base :: kept)
    (hpre : base.pre = [.iterate r.id]) (hdropped : ∀ f ∈ dropped, f.id ≠ r.base) :
    (∀ f ∈ dropped, ∀ id, .iterate id ∉ f.pending) ∧
      (∀ f ∈ dropped, ∀ id, .restore id ∈ f.pending → id = r.id) ∧
      ∀ f ∈ base :: kept, .restore r.id ∉ f.pending ∧ .advance r.id ∉ f.pending := by
  have hplaces : x.registers.places = r.place :: others.map Repeater.place := by
    rw [Registers.places, hr, List.map_cons]
  have hunwinds : x.registers.Unwinds (schedule dropped ++ schedule (base :: kept)) := by
    have hunwinds := h.unwinds
    rwa [hframes, Option.toList_none, List.map_nil, List.nil_append, schedule_append] at hunwinds
  have habove : ∀ q ∈ schedule dropped, q.1 ≠ r.place.base := by
    intro q hq
    obtain ⟨f, hf, hq⟩ := List.mem_flatMap.1 hq
    obtain ⟨a, -, rfl⟩ := List.mem_map.1 hq
    exact hdropped f hf
  refine ⟨fun f hf id hmem => ?_, fun f hf id hmem => ?_, fun f hf => ?_⟩
  · obtain ⟨r', ⟨size, others', hplaces', -⟩, hsame⟩ :=
      hunwinds.fits_above hplaces habove (mem_schedule hf hmem)
    rw [hsame] at hplaces'
    exact hdropped f hf (congrArg Repeater.Place.base (List.cons.inj hplaces').1).symm
  · obtain ⟨r', ⟨p, others', hplaces', hid⟩, hsame⟩ :=
      hunwinds.fits_above hplaces habove (mem_schedule hf hmem)
    rw [hsame] at hplaces'
    rw [← hid, ← (List.cons.inj hplaces').1]
    rfl
  · -- Once the repeater is gone, none of those that are left has its id.
    have hrest := hunwinds.drop
    have hschedule : schedule (base :: kept) = (base.id, .iterate r.id) ::
        (base.post.map (base.id, ·) ++ schedule kept) := by
      simp [Frame.schedule, Frame.pending, hpre]
    have hgone : ∀ action, action ≠ .iterate r.id → action ∈ f.pending →
        (f.id, action) ∈ base.post.map (base.id, ·) ++ schedule kept := by
      intro action hother hmem
      have hmem := mem_schedule hf hmem
      rw [hschedule] at hmem
      exact (List.mem_cons.1 hmem).resolve_left fun heq => hother (congrArg Prod.snd heq)
    have hnone : ∀ (s : Registers) (q : Repeater.Place), q.id = r.id →
        q ∉ (s.removeRepeater r.id).places := by
      intro s q hid hq
      rw [Registers.places_removeRepeater] at hq
      simpa [hid] using (List.mem_filter.1 hq).2
    rw [hschedule] at hrest
    refine ⟨fun hmem => ?_, fun hmem => ?_⟩
    · obtain ⟨q, hq, hid⟩ := hrest.2.exists_restored (hgone _ (by simp) hmem)
      exact hnone _ q hid hq
    · obtain ⟨q, hq, hid⟩ := hrest.2.exists_place (hgone (.advance r.id) (by simp) hmem) rfl
      exact hnone _ q hid hq

theorem Coherent.id_ne (h : x.Coherent none) {r : Repeater} {others : List Repeater}
    (hr : x.registers.repeaters = r :: others) : ∀ r' ∈ others, r'.id ≠ r.id := by
  have hnodup := h.unwinds.balances.nodup
  rw [hr, List.map_cons, List.nodup_cons] at hnodup
  exact fun r' hr' hid => hnodup.1 (hid ▸ List.mem_map_of_mem hr')

/-- What is given up with a block are the separators of its repeater that are pending, and no
others. -/
theorem Leaves.counts (hleaves : x.Leaves y) (hcounts : x.Counts none) (h : x.Coherent none)
    (hneat : ∀ f ∈ x.frames, f.Neat) : y.Counts none := by
  cases hleaves with
  | idle => exact hcounts
  | @lost r others hr =>
    refine ⟨hcounts.tidy, fun r' hr' => ?_⟩
    have hcount := hcounts.suppressed
    rw [hr] at hcount
    obtain ⟨hfirst, hothers⟩ := List.forall_mem_cons.1 hcount
    rcases List.mem_cons.1 hr' with rfl | hr'
    · exact hfirst
    · exact hothers r' hr'
  | @cut r others dropped kept base hr hframes hbase hdropped =>
    have hpre : base.pre = [.iterate r.id] :=
      h.pre_base (by simp) hr (by simp [hframes]) hbase (hneat base (by simp [hframes]))
    obtain ⟨hiterates, hown, hkept⟩ := h.innermost_pending hr hframes hpre hdropped
    have hothers := h.id_ne hr
    have htidy := hcounts.tidy
    have hcount := hcounts.suppressed
    rw [hframes] at htidy hcount
    refine ⟨fun f hf => htidy f (List.mem_append_right _ hf), fun r' hr' => ?_⟩
    rw [show Stage.registers _ = Machine.giveUp _ dropped from rfl,
      Registers.repeaters_giveUp _ hiterates] at hr'
    obtain ⟨r₀, hr₀, rfl⟩ := List.mem_map.1 hr'
    have hpending := Frame.countP_separates_le dropped r₀.id
    show r₀.suppressed - _ = List.countP (·.separates r₀.id) (base :: kept)
    rcases List.mem_cons.1 hr₀ with rfl | hr₀
    · have hnone : (base :: kept).countP (·.separates r.id) = 0 := by
        refine List.countP_eq_zero.2 fun f hf hs =>
          (hkept f hf).1 (List.mem_append_right _ ?_)
        exact Frame.isSeparator_iff.1 (Frame.isSeparator_of_separates hs)
      have hall : r.suppressed = List.countP _ (dropped ++ base :: kept) :=
        hcount r (hr ▸ List.mem_cons_self)
      rw [List.countP_append, hnone] at hall
      rw [show r.finish.id = r.id from rfl] at hpending ⊢
      rw [show r.finish.suppressed = r.suppressed from rfl, hnone]
      omega
    · have hnone : (dropped.flatMap Frame.pending).countP (·.restores r₀.id) = 0 := by
        refine List.countP_eq_zero.2 fun a ha hs => hothers r₀ hr₀ ?_
        obtain ⟨f, hf, hmem⟩ := List.mem_flatMap.1 ha
        exact hown f hf _ (Deferred.eq_of_restores hs ▸ hmem)
      have hall : r₀.suppressed = List.countP _ (dropped ++ base :: kept) :=
        hcount r₀ (hr ▸ List.mem_cons_of_mem r hr₀)
      rw [List.countP_append] at hall
      rw [hnone] at hpending ⊢
      omega

/-- The repeater of a block that begins is not suppressed, and no separator of it is pending. -/
theorem Counts.startBlock (hcounts : x.Counts none) (h : x.Coherent none) (b : Block)
    (a : Attributes) : (x.startBlock b a).Counts none := by
  let add (r : Registers) : Registers :=
    { r with repeaters := Repeater.start x.nextId x.top b a :: r.repeaters }
  have hadded : Counts none { x.change add with nextId := x.nextId + 1 } := by
    refine ⟨hcounts.tidy, fun r hr => ?_⟩
    rcases List.mem_cons.1 hr with rfl | hr
    · refine (List.countP_eq_zero.2 fun f hf hs => ?_).symm
      have hmem : (f.id, .restore x.nextId) ∈ schedule x.frames := by
        refine mem_schedule hf (List.mem_append_right _ ?_)
        exact Frame.isSeparator_iff.1 (Frame.isSeparator_of_separates hs)
      obtain ⟨p, hp, hid⟩ := Registers.Unwinds.exists_restored h.unwinds hmem
      exact Nat.ne_of_lt (h.places p hp).1 hid
    · exact hcounts.suppressed r hr
  exact hadded.defer (by trivial)

/-- An action that takes something back is taken. -/
theorem Counts.undo {action : Deferred} (h : x.Counts (some action))
    (hundoes : action.Undoes x.registers) : (x.change (·.undo action)).Counts none := by
  have haside : action.IsAside → (action.IsAside →
      (x.registers.undo action).repeaters ⊆ x.registers.repeaters) →
      (x.change (·.undo action)).Counts none := by
    intro haction hsub
    have hreleased := h.release (by rintro a ⟨⟩; exact haction)
    exact ⟨hreleased.tidy, fun r hr => hreleased.suppressed r (hsub haction hr)⟩
  cases action with
  | restore id =>
    refine h.modifyRepeater (fun r => rfl) (fun id' hid => ?_) fun r _ k hcount => ?_
    · exact ⟨rfl, beq_eq_false_iff_ne.2 hid.symm⟩
    · simp [Deferred.suppresses, Deferred.restores] at hcount
      simp [Repeater.restore, hcount]
  | iterate id => exact haside trivial fun _ _ hr => (List.mem_filter.1 hr).1
  | dropArguments | enterMatch | leaveMatch => exact haside trivial fun _ => List.Subset.refl _
  | finish q => cases q <;> exact haside trivial fun _ => List.Subset.refl _
  | _ => exact hundoes.elim

/-- Whatever a step does after something has been given up, the counters are right. -/
theorem Effect.counts (heffect : x.Effect literals due y) (hcounts : x.Counts due)
    (h : x.Coherent due) (hframes : x.frames ≠ []) (hneat : ∀ f ∈ x.frames, f.Neat) :
    y.Counts none := by
  cases heffect with
  | act hdue hturns =>
    have hreleased := hcounts.release fun a ha => (hdue a ha).isAside
    exact (hreleased.of_same rfl rfl : (x.use _).Counts none).turn hturns
  | run hdue hturns =>
    have hreleased := hcounts.release fun a ha => (hdue a ha).isAside
    exact ((hreleased.of_same rfl rfl : (x.use _).Counts none).turn hturns).enter
      (Opening.isTidy_idle _ _)
  | runThen _ hturns =>
    exact (((hcounts.spend trivial _).turn hturns).defer (by trivial)).enterAll
      (Opening.isTidy_map_idle _ false)
  | @compare _ _ slots c _ =>
    have hpushed : Counts none ((x.use (slots.countP (·.isEvaluated))).change
        fun r => { r with comparisons := c :: r.comparisons }) :=
      (hcounts.spend trivial _).of_same rfl rfl
    exact (hpushed.defer (by trivial)).enterAll (Opening.isTidy_map_idle _ false)
  | @call _ _ slots table =>
    have hpushed : Counts none ((x.use (slots.countP (·.isEvaluated))).change
        fun r => { r with arguments := table :: r.arguments }) :=
      (hcounts.spend trivial _).of_same rfl rfl
    exact (hpushed.defer (by trivial)).enter (Opening.isTidy_idle _ _)
  | leave hleaves =>
    exact hleaves.counts (hcounts.spend trivial _) (h.spend (Deferred.isNeutral_callTag ..) _) hneat
  | undo hundoes => exact hcounts.undo hundoes
  | @advance id =>
    refine hcounts.modifyRepeater (fun r => congrArg Repeater.Place.id r.place_advance)
      (fun _ _ => ⟨rfl, rfl⟩) fun r _ k hcount => ?_
    rw [Repeater.advance]
    split <;> exact hcount
  | @suppress id =>
    refine hcounts.modifyRepeater (fun r => rfl) (fun id' hid => ?_) fun r _ k hcount => ?_
    · exact ⟨beq_eq_false_iff_ne.2 hid.symm, rfl⟩
    · simpa [Deferred.suppresses, Deferred.restores, Repeater.suppress] using hcount
  | gone => exact hcounts.release (by rintro a ⟨⟩; trivial)
  | @iterate r _ item _ _ hturns =>
    have hreleased := hcounts.release (by rintro a ⟨⟩; trivial)
    exact ((hreleased.turn hturns).defer (by trivial)).enterAll (r.isTidy_openings item)
  | block hsize hturns => exact (hcounts.turn hturns).startBlock (h.turn hframes hturns) _ _
  | await hawaits =>
    exact (hcounts.defer hawaits.isAside).enterAll (Opening.isTidy_map_idle _ true)
  | «matches» =>
    refine ((hcounts.spend trivial 1).defer (by trivial)).enterAll fun o ho => ?_
    obtain ⟨m, -, rfl⟩ := List.mem_map.1 ho
    exact Opening.isTidy_match _ m

/-- Every step keeps the counters right. -/
theorem Step.counts (hstep : x.Step literals y) (hcounts : x.Counts none) (h : x.Coherent none)
    (hneat : ∀ f ∈ x.frames, f.Neat) : y.Counts none := by
  cases hstep with
  | go hframes hf heffect =>
    rw [hframes] at hneat
    obtain ⟨htop, hbelow⟩ := List.forall_mem_cons.1 hneat
    exact heffect.counts (hcounts.give hframes hf htop) (h.give hframes hf) (List.cons_ne_nil _ _)
      (List.forall_mem_cons.2 ⟨(hf.neat htop).1, hbelow⟩)
  | @pop f below hframes hpre hread hpost =>
    have htidy := hcounts.tidy
    have hcount := hcounts.suppressed
    have hrest : x.pop.frames = below := by simp [Stage.pop, hframes]
    rw [hframes] at htidy hcount
    refine ⟨hrest ▸ (List.forall_mem_cons.1 htidy).2, fun r hr => ?_⟩
    rw [hrest]
    have hquiet : ¬f.separates r.id := by simp [Frame.separates, Frame.isSeparator, hpost]
    rw [← List.countP_cons_of_neg hquiet]
    exact hcount r hr

end Stage

/-! ## A repetition that goes on -/

/-- What is given up is not pending any more. -/
theorem Frame.Gives.advances_le {f f' : Frame} {due : Option Deferred} (hf : f.Gives due f')
    (id : Nat) : due.toList.countP (·.advances id) + f'.pending.countP (·.advances id) ≤
      f.pending.countP (·.advances id) := by
  cases hf with
  | pre hpre =>
    simp only [pending, hpre, Option.toList_some, List.countP_cons, List.countP_nil,
      List.cons_append]
    omega
  | token => exact Nat.le_of_eq (Nat.zero_add _)
  | @call _ action _ _ hready =>
    have hnone : action.advances id = false := by
      cases action with
      | advance => exact hready.elim
      | _ => rfl
    simp [pending, hnone]
  | post hpre _ hpost =>
    simp only [pending, hpre, hpost, Option.toList_some, List.countP_cons, List.countP_nil,
      List.nil_append]
    omega

namespace Stage

variable {x y z : Stage} {due : Option Deferred} {f f' : Frame} {below : List Frame}
  {literals : Bool} {id : Nat}

/-- No separator of a repeater has come, and no action that counts one of its repetitions. As long as
there is one, the repeater shows the same index. -/
structure Inherits (id : Nat) (x y : Stage) : Prop where
  separators : ∀ f ∈ y.frames, f.isSeparator id = true →
    ∃ f₀ ∈ x.frames, f₀.id = f.id ∧ f₀.isSeparator id = true
  advances : y.advances id ≤ x.advances id
  index : 0 < y.advances id → ∀ r ∈ y.registers.repeaters, r.id = id →
    ∃ r₀ ∈ x.registers.repeaters, r₀.id = id ∧ r₀.index = r.index

namespace Inherits

theorem of_frames (hframes : y.frames = x.frames)
    (hindex : 0 < y.advances id → ∀ r ∈ y.registers.repeaters, r.id = id →
      ∃ r₀ ∈ x.registers.repeaters, r₀.id = id ∧ r₀.index = r.index) : x.Inherits id y :=
  ⟨fun f hf hs => ⟨f, hframes ▸ hf, rfl, hs⟩, by simp only [Stage.advances, hframes, Nat.le_refl],
    hindex⟩

theorem of_same (hframes : y.frames = x.frames)
    (hrepeaters : y.registers.repeaters = x.registers.repeaters) : x.Inherits id y :=
  of_frames hframes fun _ r hr hid => ⟨r, hrepeaters ▸ hr, hid, rfl⟩

theorem refl (x : Stage) : x.Inherits id x := of_same rfl rfl

theorem trans (h : x.Inherits id y) (h' : y.Inherits id z) : x.Inherits id z := by
  refine ⟨fun f hf hs => ?_, Nat.le_trans h'.advances h.advances, fun hpos r hr hid => ?_⟩
  · obtain ⟨f₁, hf₁, hid₁, hs₁⟩ := h'.separators f hf hs
    obtain ⟨f₀, hf₀, hid₀, hs₀⟩ := h.separators f₁ hf₁ hs₁
    exact ⟨f₀, hf₀, hid₀.trans hid₁, hs₀⟩
  · obtain ⟨r₁, hr₁, hid₁, hindex₁⟩ := h'.index hpos r hr hid
    obtain ⟨r₀, hr₀, hid₀, hindex₀⟩ := h.index (Nat.lt_of_lt_of_le hpos h'.advances) r₁ hr₁ hid₁
    exact ⟨r₀, hr₀, hid₀, hindex₀.trans hindex₁⟩

/-- A passage begins that has nothing to do with the repeater. -/
theorem enter (x : Stage) {o : Opening}
    (ho : ∀ a ∈ o.pre ++ o.post, a.restores id = false ∧ a.advances id = false) :
    x.Inherits id (x.enter o) := by
  refine ⟨fun f hf hs => ?_, ?_, fun _ r hr hid => ⟨r, hr, hid, rfl⟩⟩
  · rcases List.mem_cons.1 hf with rfl | hf
    · obtain ⟨a, ha, hs⟩ := List.any_eq_true.1 hs
      simp [(ho a (List.mem_append_right _ ha)).1] at hs
    · exact ⟨f, hf, rfl, hs⟩
  · have hsame : (x.enter o).advances id = x.advances id := by
      rw [advances_enter, List.countP_eq_zero.2 fun a ha => by simp [(ho a ha).2], Nat.zero_add]
    exact Nat.le_of_eq hsame

theorem enterAll (x : Stage) {os : List Opening}
    (hos : ∀ o ∈ os, ∀ a ∈ o.pre ++ o.post, a.restores id = false ∧ a.advances id = false) :
    x.Inherits id (x.enterAll os) := by
  induction os generalizing x with
  | nil => exact .refl x
  | cons o os ih =>
    obtain ⟨ho, hos⟩ := List.forall_mem_cons.1 hos
    exact (enter x ho).trans (ih _ hos)

theorem enterAll_idle (x : Stage) (ps : List Passage) (owns : Bool) :
    x.Inherits id (x.enterAll (ps.map (⟨·, owns, [], []⟩))) := by
  refine enterAll x fun o ho a ha => ?_
  obtain ⟨p, -, rfl⟩ := List.mem_map.1 ho
  cases ha

theorem defer (x : Stage) {action : Deferred} (haction : action.advances id = false) :
    x.Inherits id (x.defer action) := by
  cases hframes : x.frames with
  | nil => exact of_same (by simp [Stage.defer, hframes]) rfl
  | cons f below =>
    have hdeferred : (x.defer action).frames = { f with pre := action :: f.pre } :: below := by
      simp [Stage.defer, hframes]
    refine ⟨fun f' hf' hs => ?_, ?_, fun _ r hr hid => ⟨r, hr, hid, rfl⟩⟩
    · rw [hdeferred] at hf'
      rcases List.mem_cons.1 hf' with rfl | hf'
      · exact ⟨f, hframes ▸ List.mem_cons_self, rfl, hs⟩
      · exact ⟨f', hframes ▸ List.mem_cons_of_mem f hf', rfl, hs⟩
    · simp [Stage.advances, hdeferred, hframes, Frame.pending, haction]

/-- An action is deferred until passages are over. -/
theorem deferUntil (x : Stage) {action : Deferred} (haction : action.advances id = false)
    (ps : List Passage) (owns : Bool) :
    x.Inherits id ((x.defer action).enterAll (ps.map (⟨·, owns, [], []⟩))) :=
  (defer x haction).trans (enterAll_idle _ ps owns)

/-- Neither what is printed nor what else is remembered matters. -/
theorem after (h : z.Inherits id y) (hframes : z.frames = x.frames)
    (hrepeaters : z.registers.repeaters = x.registers.repeaters) : x.Inherits id y :=
  (of_same hframes hrepeaters).trans h

theorem give (hframes : x.frames = f :: below) (hf : f.Gives due f') :
    x.Inherits id { x with frames := f' :: below } := by
  have hpost : ∀ a ∈ f'.post, a ∈ f.post := by
    cases hf with
    | post _ _ hpost => exact fun a ha => hpost ▸ List.mem_cons_of_mem _ ha
    | _ => exact fun a ha => ha
  have hpending : f'.pending.Sublist f.pending := by
    cases hf with
    | pre hpre => simp [Frame.pending, hpre]
    | post _ _ hlast => simp [Frame.pending, hlast]
    | _ => exact .refl _
  refine ⟨fun g hg hs => ?_, ?_, fun _ r hr hid => ⟨r, hr, hid, rfl⟩⟩
  · rcases List.mem_cons.1 hg with rfl | hg
    · refine ⟨f, hframes ▸ List.mem_cons_self, hf.continues.id.symm, ?_⟩
      exact Frame.isSeparator_iff.2 (hpost _ (Frame.isSeparator_iff.1 hs))
    · exact ⟨g, hframes ▸ List.mem_cons_of_mem f hg, rfl, hs⟩
  · simp only [Stage.advances, hframes, List.flatMap_cons, List.countP_append]
    exact Nat.add_le_add_right hpending.countP_le _

end Inherits

/-- A block that is left takes its repetition away with it. -/
theorem Leaves.inherits (hleaves : x.Leaves y) (h : x.Coherent none)
    (hneat : ∀ f ∈ x.frames, f.Neat) : x.Inherits id y := by
  cases hleaves with
  | idle => exact .refl x
  | @lost r others hr hbase =>
    -- The frame that the block is in is never lost.
    have hplaces : x.registers.places = r.place :: others.map Repeater.place := by
      rw [Registers.places, hr, List.map_cons]
    obtain ⟨f, hf, hmem⟩ := List.mem_flatMap.1 (Registers.Unwinds.mem_iterate hplaces h.unwinds)
    obtain ⟨a, -, heq⟩ := List.mem_map.1 hmem
    exact absurd (congrArg Prod.fst heq) (hbase f hf)
  | @cut r others dropped kept base hr hframes hbase hdropped =>
    have hpre : base.pre = [.iterate r.id] :=
      h.pre_base (by simp) hr (by simp [hframes]) hbase (hneat base (by simp [hframes]))
    obtain ⟨hiterates, hown, hkept⟩ := h.innermost_pending hr hframes hpre hdropped
    refine ⟨fun f hf hs => ⟨f, hframes ▸ List.mem_append_right _ hf, rfl, hs⟩, ?_,
      fun hpos r' hr' hid => ?_⟩
    · simp only [advances, hframes, List.flatMap_append, List.countP_append]
      exact Nat.le_add_left _ _
    · rw [show Stage.registers _ = Machine.giveUp _ dropped from rfl,
        Registers.repeaters_giveUp _ hiterates] at hr'
      obtain ⟨r₀, hr₀, rfl⟩ := List.mem_map.1 hr'
      rcases List.mem_cons.1 hr₀ with rfl | hr₀
      · obtain ⟨a, ha, hs⟩ := List.countP_pos_iff.1 hpos
        obtain ⟨f, hf, hmem⟩ := List.mem_flatMap.1 ha
        refine absurd hmem ?_
        rw [Deferred.eq_of_advances hs, ← hid]
        exact (hkept f hf).2
      · exact ⟨r₀, hr ▸ List.mem_cons_of_mem r hr₀, hid, rfl⟩

theorem Inherits.modifyRepeater (x : Stage) (id' : Nat) {f : Repeater → Repeater}
    (hf : ∀ r, (f r).id = r.id ∧ (f r).index = r.index) :
    x.Inherits id (x.change (·.modifyRepeater id' f)) := by
  refine .of_frames rfl fun _ r hr hid => ?_
  obtain ⟨r₀, hr₀, rfl⟩ := List.mem_map.1 hr
  refine ⟨r₀, hr₀, ?_⟩
  split at hid
  · next hsame => exact ⟨(hf r₀).1.symm.trans hid, by rw [if_pos hsame, (hf r₀).2]⟩
  · next hother => exact ⟨hid, by rw [if_neg hother]⟩

/-- Unless it begins a repetition of the repeater, an effect only counts the one that is running. -/
theorem Effect.inherits (heffect : x.Effect literals due y) (h : x.Coherent due)
    (hneat : ∀ f ∈ x.frames, f.Neat) (hlt : id < x.nextId) (hdue : due ≠ some (.iterate id))
    (honce : due.toList.countP (·.advances id) + x.advances id ≤ 1) : x.Inherits id y := by
  cases heffect with
  | act _ hturns => exact .of_same rfl hturns.keeps_stacks.1
  | run _ hturns =>
    exact .after (.enter _ (List.forall_mem_nil _)) rfl hturns.keeps_stacks.1
  | runThen _ hturns => exact .after (.deferUntil _ rfl _ false) rfl hturns.keeps_stacks.1
  | compare => exact .after (.deferUntil _ rfl _ false) rfl rfl
  | call => exact .after ((Inherits.defer _ rfl).trans (.enter _ (List.forall_mem_nil _))) rfl rfl
  | leave hleaves =>
    exact .after (hleaves.inherits (h.spend (Deferred.isNeutral_callTag ..) _) hneat) rfl rfl
  | @undo action hundoes =>
    cases action with
    | restore id' => exact .modifyRepeater x id' fun r => ⟨rfl, rfl⟩
    | iterate id' =>
      exact .of_frames rfl fun _ r hr hid => ⟨r, (List.mem_filter.1 hr).1, hid, rfl⟩
    | dropArguments | enterMatch | leaveMatch => exact .of_same rfl rfl
    | finish q => cases q <;> exact .of_same rfl rfl
    | _ => exact hundoes.elim
  | @advance id' =>
    refine .of_frames rfl fun hpos r hr hid => ?_
    obtain ⟨r₀, hr₀, rfl⟩ := List.mem_map.1 hr
    by_cases hsame : id' = id
    · -- The repetition is counted now, and so not once more.
      subst hsame
      have hpos : 0 < x.advances id' := hpos
      simp [Deferred.advances] at honce
      omega
    · split at hid
      · next heq =>
        rw [show r₀.advance.id = r₀.id from congrArg Repeater.Place.id r₀.place_advance, heq] at hid
        exact absurd hid hsame
      · next hother => exact ⟨r₀, hr₀, hid, by rw [if_neg hother]⟩
  | suppress => exact .modifyRepeater x _ fun r => ⟨rfl, rfl⟩
  | gone => exact .refl x
  | @iterate r _ item _ _ hturns =>
    have hother : r.id ≠ id := fun hid => hdue (by rw [hid])
    refine .after ((Inherits.defer _ rfl).trans (.enterAll _ fun o ho a ha => ?_)) rfl
      hturns.keeps_stacks.1
    simp only [Repeater.openings, List.mem_append, List.mem_map] at ho
    rcases ho with ((⟨p, -, rfl⟩ | ⟨p, -, rfl⟩) | ⟨p, -, rfl⟩) | ⟨p, -, rfl⟩
    · rcases List.mem_cons.1 ha with rfl | ha
      · exact ⟨rfl, rfl⟩
      · cases List.mem_singleton.1 ha
        exact ⟨beq_eq_false_iff_ne.2 hother, rfl⟩
    · cases List.mem_singleton.1 ha
      exact ⟨rfl, beq_eq_false_iff_ne.2 hother⟩
    · rw [List.nil_append] at ha
      split at ha
      · cases ha
      · cases List.mem_singleton.1 ha
        exact ⟨rfl, beq_eq_false_iff_ne.2 hother⟩
    · cases ha
  | @block b a s hsize hturns =>
    refine Inherits.trans (.of_frames ?_ fun _ r hr hid => ?_) (.defer _ rfl)
    · rfl
    rcases List.mem_cons.1 hr with rfl | hr
    · exact absurd hid (Nat.ne_of_gt hlt)
    · exact ⟨r, hturns.keeps_stacks.1 ▸ hr, hid, rfl⟩
  | await hawaits => exact .deferUntil x (by cases hawaits <;> rfl) _ true
  | «matches» =>
    refine .after ((Inherits.defer _ rfl).trans (.enterAll _ fun o ho a ha => ?_)) rfl rfl
    obtain ⟨m, -, rfl⟩ := List.mem_map.1 ho
    rcases List.mem_cons.1 ha with rfl | ha
    · exact ⟨rfl, rfl⟩
    · cases List.mem_singleton.1 ha
      exact ⟨rfl, rfl⟩

/-- Unless it begins a repetition of the repeater, a step only counts the one that is running. -/
theorem Step.inherits (hstep : x.Step literals y) (h : x.Coherent none)
    (hneat : ∀ f ∈ x.frames, f.Neat) (hlt : id < x.nextId) (honce : x.advances id ≤ 1)
    (htop : ∀ f ∈ x.frames.head?, .iterate id ∉ f.pending) : x.Inherits id y := by
  cases hstep with
  | @go f f' below due y hframes hf heffect =>
    rw [hframes] at hneat
    obtain ⟨hfirst, hbelow⟩ := List.forall_mem_cons.1 hneat
    refine (Inherits.give hframes hf).trans (heffect.inherits (h.give hframes hf)
      (List.forall_mem_cons.2 ⟨(hf.neat hfirst).1, hbelow⟩) hlt ?_ ?_)
    · rintro rfl
      refine htop f (by simp [hframes]) ?_
      cases hf with
      | pre hpre => simp [Frame.pending, hpre]
      | call _ _ hready => exact hready.elim
      | post _ _ hpost => simp [Frame.pending, hpost]
    · have hle := hf.advances_le id
      simp only [advances, hframes, List.flatMap_cons, List.countP_append] at honce ⊢
      omega
  | @pop f below hframes hpre hread hpost =>
    have hrest : x.pop.frames = below := by simp [Stage.pop, hframes]
    refine ⟨fun g hg hs => ⟨g, hframes ▸ List.mem_cons_of_mem f (hrest ▸ hg), rfl, hs⟩, ?_,
      fun _ r hr hid => ⟨r, hr, hid, rfl⟩⟩
    simp [advances, hrest, hframes]

/-- A repeater is gone on with in one frame only. -/
theorem Coherent.iterate_once (h : x.Coherent none) {up rest : List Frame}
    (hframes : x.frames = up ++ rest) {f base : Frame} (hf : f ∈ up) (hbase : base ∈ rest)
    (hiterate : .iterate id ∈ base.pending) : .iterate id ∉ f.pending := by
  intro hmem
  have hbalances := h.unwinds.balances
  have hids : x.registers.repeaters.map (·.id) =
      (schedule up ++ schedule rest).filterMap (·.2.iterated?) := by
    have hrepeaters := congrArg (List.map Prod.snd) hbalances.repeaters
    rw [List.map_map, List.map_filterMap, hframes, Option.toList_none, List.map_nil,
      List.nil_append, schedule_append] at hrepeaters
    refine hrepeaters.trans (congrArg (List.filterMap · _) ?_)
    funext q
    cases q.2.iterated? <;> rfl
  have hnodup := hbalances.nodup
  rw [hids, List.filterMap_append, List.nodup_append] at hnodup
  refine hnodup.2.2 id ?_ id ?_ rfl
  · exact List.mem_filterMap.2 ⟨_, mem_schedule hf hmem, rfl⟩
  · exact List.mem_filterMap.2 ⟨_, mem_schedule hbase hiterate, rfl⟩

end Stage

namespace Engine

variable {e : Engine} {p : Pattern} {g : Generator} {m : Machine e.setting}

/-- As long as a frame above the one that a block is in is there, the repetition goes on. -/
theorem Reaches.inherits (hm : e.Reaches p g m) {k : Nat} {m' : Machine e.setting}
    (hlead : Machine.Leads k m m') {up rest : List Frame} {f base : Frame} {id : Nat}
    (hframes : m.frames = up ++ f :: rest) (hbase : base ∈ rest)
    (hiterate : .iterate id ∈ base.pending) (honce : m.stage.advances id ≤ 1)
    (hstill : f.id ∈ m'.frames.map (·.id)) : m.stage.Inherits id m'.stage := by
  induction hlead generalizing f up with
  | refl => exact .refl _
  | @step _ m m₁ m' hne hstep hrest ih =>
    have hone : Machine.Leads 1 m m₁ := .single hne hstep
    have hstill₁ := hm.still hone hrest (by simp [hframes]) hstill
    obtain ⟨⟨up₁, f₁, hframes₁, hf₁, -⟩, -⟩ := hm.isolates hone hframes hstill₁
    obtain ⟨top, below, htop⟩ := List.exists_cons_of_ne_nil hne
    have hsplit : m.stage.frames = (up ++ [f]) ++ rest := by simp [Machine.stage, hframes]
    have hfirst : m.stage.Inherits id m₁.stage := by
      refine ((hm.coherent.step_stage htop).of_ok m₁ hstep).inherits hm.coherent hm.neat ?_ honce ?_
      · exact hm.coherent.iterate_lt (by simp [hsplit, hbase]) hiterate
      · intro t ht
        refine hm.coherent.iterate_once hsplit ?_ hbase hiterate
        rw [hsplit] at ht
        cases up <;> simp_all
    exact hfirst.trans (ih (hm.lead hone) hframes₁ (Nat.le_trans hfirst.advances honce)
      (hf₁.id ▸ hstill))

/-- In all that a run comes to, the counter of every repeater is the number of its separators that
run. -/
theorem Reaches.counts (h : e.Reaches p g m) : m.stage.Counts none := by
  refine h.carries (P := fun m => m.stage.Counts none) ⟨fun m₀ hstart => ?_⟩
    fun m m' hm hne hstep hcounts => ?_
  · rw [(e.start_stage p g).of_ok m₀ hstart]
    have hempty : Stage.Counts none (Machine.initial e.setting (e.registers g)).stage :=
      ⟨nofun, by simp [Machine.initial, Machine.stage, (e.idle_registers g).repeaters]⟩
    exact hempty.enter (Opening.isTidy_idle p.passage true)
  · obtain ⟨f, below, hframes⟩ := List.exists_cons_of_ne_nil hne
    have hmoved := (hm.coherent.step_stage hframes).of_ok m' hstep
    exact hmoved.counts hcounts hm.coherent hm.neat

/-- A repeater is suppressed exactly while a separator of it runs. -/
theorem Reaches.isSuppressed_iff (h : e.Reaches p g m) {r : Repeater}
    (hr : r ∈ m.registers.repeaters) :
    r.isSuppressed = true ↔ ∃ f ∈ m.frames, f.separates r.id = true := by
  have hcount : r.suppressed = m.frames.countP (·.separates r.id) := h.counts.suppressed r hr
  rw [Repeater.isSuppressed, decide_eq_true_iff, hcount, List.countP_pos_iff]

end Engine

end Wordsmith
