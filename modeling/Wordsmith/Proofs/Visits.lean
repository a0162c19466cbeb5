import Mathlib.Data.List.Nodup
import Mathlib.Data.List.TakeWhile
import Wordsmith.Proofs.Cost

/-!
# What a write reaches, over stacks of any height

A write goes down the visits until the visibilities tell it to stop, and the walk remembers only
the visibility it saw last. Here the walk is told without that memory, by the visibility of the
latest visit and the run of visits from there that share it:

- a private channel is written alone;
- a run of internal channels is written, and the channel below it if that one is private;
- a run of public channels is written, and, if it stops above the bottom, the channel below it if
  that one is private, and then the main channel.

It holds for whatever channels were visited and left, in any order: channels that were visited
before keep their place in the stack when they are visited again, but may change their visibility.

Main result: `active_after`.
-/

namespace Wordsmith.ChannelStack

variable {s : ChannelStack}

/-! ## Calls -/

/-- What is done to the stack of visits. -/
inductive VisitCall where
  | push (name : String) (visibility : Visibility)
  | pop (name : String)

/-- A stack behind a call. -/
def VisitCall.apply (s : ChannelStack) : VisitCall → ChannelStack
  | .push name visibility => s.push name visibility
  | .pop name => s.pop name

/-- A new stack behind some calls. -/
def afterCalls (calls : List VisitCall) : ChannelStack := calls.foldl VisitCall.apply initial

/-! ## The stack of visits -/

/-- Besides what makes a stack sound, the main channel is public and every channel has a name of
its own. -/
structure IsOverMain (s : ChannelStack) : Prop extends s.Sound where
  shown : s.visibilityAt 0 = .public
  distinct : (s.channels.toList.map (·.name)).Nodup

theorem place?_eq_none {name : String} (h : s.place? name = none) :
    name ∉ s.channels.toList.map (·.name) := by
  intro hmem
  obtain ⟨c, hc, rfl⟩ := List.mem_map.1 hmem
  have hother := Array.findIdx?_eq_none_iff.1 h c (Array.mem_toList_iff.1 hc)
  simp at hother

theorem isOverMain_initial : initial.IsOverMain where
  toSound := sound_initial
  shown := rfl
  distinct := by simp [initial]

theorem IsOverMain.push (h : s.IsOverMain) (name : String) (visibility : Visibility) :
    (s.push name visibility).IsOverMain := by
  suffices hnew : (s.push name visibility).visibilityAt 0 = .public ∧
      ((s.push name visibility).channels.toList.map (·.name)).Nodup from
    ⟨h.toSound.push name visibility, hnew.1, hnew.2⟩
  have hpos : 0 < s.channels.size := by
    obtain ⟨visits, hvisits⟩ := h.last
    exact h.lt 0 (by simp [hvisits])
  unfold ChannelStack.push
  split
  · exact ⟨h.shown, h.distinct⟩
  · next hname =>
    split
    · next i hi =>
      have hother : i ≠ 0 := h.place?_ne_zero hname hi
      refine ⟨?_, ?_⟩
      · have hshown := h.shown
        simp only [visibilityAt] at hshown ⊢
        rwa [Array.getElem?_modify, if_neg hother]
      · have hnames := map_foldl_modify (f := fun c : Channel => { c with visibility := visibility })
          (g := (·.name)) (fun _ => rfl) [i] s.channels.toList
        have hdistinct := h.distinct
        rw [← hnames] at hdistinct
        simpa using hdistinct
    · next hnone =>
      refine ⟨?_, ?_⟩
      · have hshown := h.shown
        simp only [visibilityAt] at hshown ⊢
        rwa [Array.getElem?_push_lt hpos, ← Array.getElem?_eq_getElem hpos]
      · rw [Array.toList_push, List.map_append, List.nodup_append]
        refine ⟨h.distinct, by simp, ?_⟩
        rintro old hold new hnew rfl
        cases List.mem_singleton.1 hnew
        exact place?_eq_none hnone hold

theorem IsOverMain.pop (h : s.IsOverMain) (name : String) : (s.pop name).IsOverMain := by
  suffices hleft : (s.pop name).channels = s.channels by
    refine ⟨h.toSound.pop name, ?_, hleft ▸ h.distinct⟩
    rw [visibilityAt, hleft]
    exact h.shown
  unfold ChannelStack.pop
  split
  · rfl
  · split <;> rfl

theorem IsOverMain.apply (h : s.IsOverMain) (call : VisitCall) : (call.apply s).IsOverMain := by
  cases call with
  | push name visibility => exact h.push name visibility
  | pop name => exact h.pop name

theorem isOverMain_afterCalls (calls : List VisitCall) : (afterCalls calls).IsOverMain :=
  List.foldlRecOn calls VisitCall.apply isOverMain_initial fun _ h call _ => h.apply call

theorem IsOverMain.nameAt_zero (h : s.IsOverMain) : s.nameAt 0 = mainName := by
  rw [nameAt, h.main, Option.getD_some]

/-- Places tell channels apart as well as names do. -/
theorem IsOverMain.nameAt_inj (h : s.IsOverMain) {i j : Nat} (hi : i < s.channels.size)
    (hj : j < s.channels.size) (heq : s.nameAt i = s.nameAt j) : i = j := by
  have hname : ∀ k < s.channels.size,
      (s.channels.toList.map (·.name))[k]? = some (s.nameAt k) := fun k hk => by
    simp [nameAt, Array.getElem?_eq_getElem hk]
  have hlength : i < (s.channels.toList.map (·.name)).length := by simpa using hi
  rw [← List.getElem?_inj hlength h.distinct, hname i hi, hname j hj, heq]

theorem IsOverMain.nodup_map_nameAt (h : s.IsOverMain) {l : List Nat} (hl : l.Nodup)
    (hlt : ∀ i ∈ l, i < s.channels.size) : (l.map s.nameAt).Nodup :=
  List.Nodup.map_on (fun i hi j hj => h.nameAt_inj (hlt i hi) (hlt j hj)) hl

/-- The main channel is visited once, below all others, and every other channel at most once. -/
theorem IsOverMain.visitNames_eq (h : s.IsOverMain) :
    ∃ names, s.visitNames = mainName :: names ∧ mainName ∉ names ∧ names.Nodup := by
  obtain ⟨visits, hvisits⟩ := h.last
  have hnames := h.nodup_map_nameAt (List.nodup_reverse.2 h.nodup)
    fun i hi => h.lt i (List.mem_reverse.1 hi)
  have hbottom : s.visits.reverse.map s.nameAt = mainName :: visits.reverse.map s.nameAt := by
    rw [hvisits, List.reverse_concat, List.map_cons, h.nameAt_zero]
  rw [hbottom, List.nodup_cons] at hnames
  exact ⟨_, hbottom, hnames⟩

/-! ## The walk down the visits -/

/-- The latest visits that share a visibility. -/
def run (s : ChannelStack) (v : Visibility) : List Nat :=
  s.visits.takeWhile fun i => s.visibilityAt i = v

/-- The visits below the latest ones that share a visibility. -/
def belowRun (s : ChannelStack) (v : Visibility) : List Nat :=
  s.visits.dropWhile fun i => s.visibilityAt i = v

/-- The visit right below the latest ones that share a visibility, if it is private. -/
def privateBelow (s : ChannelStack) (v : Visibility) : List Nat :=
  (s.belowRun v).head?.toList.filter fun i => s.visibilityAt i = .private

theorem reached_internal (s : ChannelStack) (visits : List Nat) :
    s.reached (some .internal) visits =
      (visits.takeWhile fun i => s.visibilityAt i = .internal) ++
        ((visits.dropWhile fun i => s.visibilityAt i = .internal).head?.toList.filter
          fun i => s.visibilityAt i = .private) := by
  induction visits with
  | nil => rfl
  | cons i visits ih =>
    cases hi : s.visibilityAt i with
    | «private» => simp [reached, hi]
    | «public» => simp [reached, hi]
    | internal => simp [reached, hi, ih]

theorem reached_public (h : s.visibilityAt 0 = .public) (visits : List Nat) :
    s.reached (some .public) visits =
      (visits.takeWhile fun i => s.visibilityAt i = .public) ++
        if visits.dropWhile (fun i => s.visibilityAt i = .public) = [] then []
        else ((visits.dropWhile fun i => s.visibilityAt i = .public).head?.toList.filter
          fun i => s.visibilityAt i = .private) ++ [0] := by
  induction visits with
  | nil => rfl
  | cons i visits ih =>
    cases hi : s.visibilityAt i with
    | «private» =>
      have hne : i ≠ 0 := by
        rintro rfl
        simp [h] at hi
      simp [reached, hi, hne]
    | «public» => simp [reached, hi, ih]
    | internal => simp [reached, hi]

variable {top : Nat}

theorem active_of_private (htop : s.visits.head? = some top)
    (hv : s.visibilityAt top = .private) : s.active = [top] := by
  obtain ⟨rest, hvisits⟩ := List.head?_eq_some_iff.1 htop
  simp [active, reached, hvisits, hv]

theorem active_of_internal (htop : s.visits.head? = some top)
    (hv : s.visibilityAt top = .internal) :
    s.active = s.run .internal ++ s.privateBelow .internal := by
  obtain ⟨rest, hvisits⟩ := List.head?_eq_some_iff.1 htop
  simp [active, reached, run, privateBelow, belowRun, hvisits, hv, reached_internal]

theorem active_of_public (h : s.visibilityAt 0 = .public) (htop : s.visits.head? = some top)
    (hv : s.visibilityAt top = .public) :
    s.active = s.run .public ++
      if s.belowRun .public = [] then [] else s.privateBelow .public ++ [0] := by
  obtain ⟨rest, hvisits⟩ := List.head?_eq_some_iff.1 htop
  simp [active, reached, run, privateBelow, belowRun, hvisits, hv, reached_public h]

/-- What a write reaches from an internal channel is internal or private. -/
theorem zero_notMem_run_append (h : s.visibilityAt 0 = .public) {v : Visibility}
    (hv : v ≠ .public) : 0 ∉ s.run v ++ s.privateBelow v := by
  intro hmem
  rcases List.mem_append.1 hmem with hmem | hmem
  · have hrun := List.mem_takeWhile_imp hmem
    simp only [h, decide_eq_true_eq] at hrun
    exact hv hrun.symm
  · have hprivate := (List.mem_filter.1 hmem).2
    simp [h] at hprivate

/-- The main channel is written exactly from public channels. -/
theorem IsOverMain.zero_mem_active_iff (h : s.IsOverMain) (htop : s.visits.head? = some top) :
    0 ∈ s.active ↔ s.visibilityAt top = .public := by
  cases hv : s.visibilityAt top with
  | «private» =>
    have hne : 0 ≠ top := by
      rintro rfl
      simp [h.shown] at hv
    simp [active_of_private htop hv, hne]
  | internal =>
    rw [active_of_internal htop hv]
    simpa using zero_notMem_run_append h.shown (v := .internal) nofun
  | «public» =>
    rw [active_of_public h.shown htop hv]
    refine iff_of_true ?_ rfl
    split
    · -- the run is the whole stack, and the main channel its last
      next hnone =>
      obtain ⟨visits, hvisits⟩ := h.last
      have hrun : s.run .public = s.visits := by
        have := List.takeWhile_append_dropWhile
          (p := fun i => decide (s.visibilityAt i = .public)) (l := s.visits)
        rwa [show List.dropWhile _ s.visits = [] from hnone, List.append_nil] at this
      rw [hrun, hvisits]
      simp
    · simp

theorem IsOverMain.active_ne_nil (h : s.IsOverMain) : s.active ≠ [] := by
  obtain ⟨visits, hvisits⟩ := h.last
  cases visits with
  | nil => cases hv : s.visibilityAt 0 <;> simp [active, reached, hvisits, hv]
  | cons i visits => cases hv : s.visibilityAt i <;> simp [active, reached, hvisits, hv]

/-- What a write reaches is visited, or is the main channel. -/
theorem IsOverMain.lt_of_mem_active (h : s.IsOverMain) : ∀ i ∈ s.active, i < s.channels.size := by
  obtain ⟨visits, hvisits⟩ := h.last
  have hnodup := h.nodup
  rw [hvisits] at hnodup
  intro i hi
  rw [active, hvisits] at hi
  exact h.lt i (hvisits ▸ (s.reached_nodup none hnodup).2 i hi)

/-- However channels were visited and left, the main channel is visited once, below all others, and
stays public, no other channel is visited twice, and what a write reaches is told by the latest
visit and the run of visits of its visibility: a private channel alone; a run of internal channels
and a private one right below; a run of public channels and, above the bottom, a private one right
below and the main channel. So nothing is written twice, something is always written, and the main
channel is written exactly from public channels. -/
theorem active_after (calls : List VisitCall) :
    let s := afterCalls calls
    (∃ names, s.visitNames = mainName :: names ∧ mainName ∉ names ∧ names.Nodup) ∧
      s.visits.Nodup ∧
      s.visits.getLast? = some 0 ∧
      s.nameAt 0 = mainName ∧
      s.visibilityAt 0 = .public ∧
      (∃ top, s.visits.head? = some top ∧
        (s.visibilityAt top = .private → s.active = [top]) ∧
        (s.visibilityAt top = .internal →
          s.active = s.run .internal ++ s.privateBelow .internal) ∧
        (s.visibilityAt top = .public →
          s.active = s.run .public ++
            if s.belowRun .public = [] then [] else s.privateBelow .public ++ [0]) ∧
        (0 ∈ s.active ↔ s.visibilityAt top = .public)) ∧
      s.active ≠ [] ∧
      s.active.Nodup ∧
      s.activeNames.Nodup := by
  intro s
  have h : s.IsOverMain := isOverMain_afterCalls calls
  obtain ⟨visits, hvisits⟩ := h.last
  obtain ⟨top, htop⟩ : ∃ top, s.visits.head? = some top := by
    cases visits <;> simp [hvisits]
  exact ⟨h.visitNames_eq, h.nodup, by simp [hvisits], h.nameAt_zero, h.shown,
    ⟨top, htop, active_of_private htop, active_of_internal htop,
      active_of_public h.shown htop, h.zero_mem_active_iff htop⟩,
    h.active_ne_nil, h.active_nodup, h.nodup_map_nameAt h.active_nodup h.lt_of_mem_active⟩

/-- A public channel over a private one over the main channel: all three are written. The channel
that is visited again keeps its place and becomes private. -/
example : (afterCalls [.push "a" .public, .push "b" .public, .push "a" .private]).activeNames =
    ["b", "a", "main"] := by decide +kernel

end Wordsmith.ChannelStack
