import Wordsmith.Regex.Search

/-!
# Matches in their order

A thread only moves forward through the text, and where it began is what its first slot holds, or a
place behind it. So a match lies behind the place from which it was searched, its end is not before
its start, and neither is outside the text. The search for the next match begins where the last one
ended. So the matches of a text follow each other without overlap, and the text of each is what
stands there.

When texts are put in place of the matches, what stands between them is cut out and put together
again with them, and nothing of it is lost or moved.

Main results: `inOrder_allMatches` and `replaces_splice`.
-/

namespace Wordsmith.Regex

variable {p : Program} {r : Regex} {text : Array Char} {slots : Slots} {i j n : Nat}

/-! ## Threads -/

/-- The thread is in the text, and the match that it tries begins behind `i` and before where it
is. -/
structure Thread.IsWithin (text : Array Char) (i : Nat) (t : Thread) : Prop where
  slots : 2 ≤ t.slots.size
  index : t.index ≤ text.size
  start : ∃ a, t.slots.getD 0 none = some a ∧ i ≤ a ∧ a ≤ t.index

/-- The slots hold a match behind `i`. -/
def Slots.IsWithin (text : Array Char) (i : Nat) (slots : Slots) : Prop :=
  ∃ a b, slots.getD 0 none = some a ∧ slots.getD 1 none = some b ∧ i ≤ a ∧ a ≤ b ∧ b ≤ text.size

theorem getD_setIfInBounds (slots : Slots) (k l : Nat) (x : Option Nat) (hl : l < slots.size) :
    (slots.setIfInBounds k x).getD l none = if k = l then x else slots.getD l none := by
  rw [Array.getD_eq_getD_getElem?, Array.getElem?_setIfInBounds, Array.getD_eq_getD_getElem?]
  split
  · next hkl =>
    subst hkl
    rw [if_pos hl, Option.getD_some]
  · rfl

namespace Thread.IsWithin

variable {t : Thread}

/-- A thread that goes on is where it was, or behind. -/
theorem forward (h : t.IsWithin text i) (state : Nat) {index : Nat} (hle : t.index ≤ index)
    (hindex : index ≤ text.size) : (⟨state, index, t.slots⟩ : Thread).IsWithin text i := by
  obtain ⟨a, ha, hi, hat⟩ := h.start
  exact ⟨h.slots, hindex, a, ha, hi, Nat.le_trans hat hle⟩

/-- Whatever slot is set, the match begins no later than where the thread is. -/
theorem save (h : t.IsWithin text i) (state slot : Nat) :
    (⟨state, t.index, t.slots.setIfInBounds slot (some t.index)⟩ : Thread).IsWithin text i := by
  obtain ⟨a, ha, hi, hat⟩ := h.start
  refine ⟨by rw [Array.size_setIfInBounds]; exact h.slots, h.index, ?_⟩
  have hpos : 0 < t.slots.size := Nat.lt_of_lt_of_le Nat.zero_lt_two h.slots
  rw [getD_setIfInBounds _ _ _ _ hpos]
  by_cases hslot : slot = 0
  · exact ⟨t.index, if_pos hslot, Nat.le_trans hi hat, Nat.le_refl _⟩
  · exact ⟨a, (if_neg hslot).trans ha, hi, hat⟩

/-- The match ends where the thread accepts. -/
theorem accept (h : t.IsWithin text i) :
    Slots.IsWithin text i (t.slots.setIfInBounds 1 (some t.index)) := by
  obtain ⟨a, ha, hi, hat⟩ := h.start
  refine ⟨a, t.index, ?_, ?_, hi, hat, h.index⟩
  · rw [getD_setIfInBounds _ _ _ _ (Nat.lt_of_lt_of_le Nat.zero_lt_two h.slots),
      if_neg Nat.one_ne_zero, ha]
  · rw [getD_setIfInBounds _ _ _ _ h.slots, if_pos rfl]

/-- The ways from a thread stay within the text, and so does the match. -/
theorem follow (h : t.IsWithin text i) :
    (∀ ways, p.follow text t = .inl ways → ∀ t' ∈ ways, t'.IsWithin text i) ∧
      ∀ slots, p.follow text t = .inr slots → slots.IsWithin text i := by
  have hread : ∀ {c : Char}, text[t.index]? = some c → t.index + 1 ≤ text.size := fun hc =>
    (Array.getElem?_eq_some_iff.1 hc).1
  have hnext := h.forward (t.state + 1) (Nat.le_refl _) h.index
  unfold Program.follow
  split
  · exact ⟨fun _ heq => by cases heq; nofun, nofun⟩
  · exact ⟨nofun, fun _ heq => by cases heq; exact h.accept⟩
  · split
    · next hc =>
      have hchar := h.forward (t.state + 1) (Nat.le_succ _) (hread hc)
      exact ⟨fun _ heq => by cases heq; simpa using hchar, nofun⟩
    · exact ⟨fun _ heq => by cases heq; nofun, nofun⟩
  · split
    · next hone =>
      obtain ⟨c, hc, -⟩ := (Option.any_eq_true _ _).1 hone
      have hchar := h.forward (t.state + 1) (Nat.le_succ _) (hread hc)
      exact ⟨fun _ heq => by cases heq; simpa using hchar, nofun⟩
    · exact ⟨fun _ heq => by cases heq; nofun, nofun⟩
  · split
    · exact ⟨fun _ heq => by cases heq; simpa using hnext, nofun⟩
    · exact ⟨fun _ heq => by cases heq; nofun, nofun⟩
  · next slot _ =>
    have hsaved := h.save (t.state + 1) slot
    exact ⟨fun _ heq => by cases heq; simpa using hsaved, nofun⟩
  · next first second _ =>
    have hfirst := h.forward first (Nat.le_refl _) h.index
    have hsecond := h.forward second (Nat.le_refl _) h.index
    exact ⟨fun _ heq => by cases heq; simpa using ⟨hfirst, hsecond⟩, nofun⟩
  · next target _ =>
    have hjump := h.forward target (Nat.le_refl _) h.index
    exact ⟨fun _ heq => by cases heq; simpa using hjump, nofun⟩

end Thread.IsWithin

/-! ## Searches -/

namespace Program

/-- What threads come to that are in the text is in the text. -/
theorem run_isWithin {origin : Nat} {threads : List Thread} {visited : Array Bool}
    (hthreads : ∀ t ∈ threads, t.IsWithin text i)
    (h : (p.run text origin n threads visited).1 = some slots) : slots.IsWithin text i := by
  fun_induction run p text origin n threads visited with
  | case1 => cases h
  | case2 => cases h
  | case3 _ _ _ _ _ _ ih => exact ih (List.forall_mem_cons.1 hthreads).2 h
  | case4 _ t rest _ _ _ ways hways ih =>
    obtain ⟨ht, hrest⟩ := List.forall_mem_cons.1 hthreads
    refine ih (fun t' ht' => ?_) h
    rcases List.mem_append.1 ht' with ht' | ht'
    · exact ht.follow.1 ways hways t' ht'
    · exact hrest t' ht'
  | case5 _ t rest _ _ _ slots hslots =>
    cases h
    exact (hthreads t List.mem_cons_self).follow.2 _ hslots

/-- A match that is found begins behind the place from which it was searched. -/
theorem search_isWithin (hgroups : 1 ≤ p.groups) {origin : Nat} {visited : Array Bool}
    (hn : n = 0 ∨ i + n ≤ text.size + 1) (h : p.search text origin n i visited = some slots) :
    slots.IsWithin text i := by
  induction n generalizing i visited with
  | zero => cases h
  | succ n ih =>
    have hi : i + n ≤ text.size := by omega
    have hfirst : (⟨0, i, (Array.replicate (2 * p.groups) none).setIfInBounds 0 (some i)⟩ :
        Thread).IsWithin text i := by
      have hsize : 2 ≤ (Array.replicate (2 * p.groups) (none : Option Nat)).size := by
        rw [Array.size_replicate]
        omega
      refine ⟨by rw [Array.size_setIfInBounds]; exact hsize, by dsimp only; omega, i, ?_,
        Nat.le_refl _, Nat.le_refl _⟩
      rw [getD_setIfInBounds _ _ _ _ (Nat.lt_of_lt_of_le Nat.zero_lt_two hsize), if_pos rfl]
    unfold search at h
    dsimp only at h
    split at h
    · next hrun =>
      cases h
      exact run_isWithin (List.forall_mem_singleton.2 hfirst) (congrArg Prod.fst hrun)
    · obtain ⟨a, b, ha, hb, hle, hrest⟩ := ih (by omega) h
      exact ⟨a, b, ha, hb, by omega, hrest⟩

theorem findFrom_isWithin (hgroups : 1 ≤ p.groups) (h : p.findFrom text i = some slots) :
    slots.IsWithin text i := search_isWithin hgroups (by omega) h

end Program

/-! ## Matches -/

/-- The match stands in a text, behind a place in it. -/
structure Match.IsIn (text : List Char) (i : Nat) (m : Match) : Prop where
  start : i ≤ m.start
  stop : m.start ≤ m.stop
  stop_le : m.stop ≤ text.length
  text : m.text.toList = (text.drop m.start).take (m.stop - m.start)

/-- Slots that are within the text describe a match that stands in it. -/
theorem Slots.IsWithin.isIn (h : slots.IsWithin text i) (hgroups : 1 ≤ r.groups) :
    (Match.ofSlots r text slots).IsIn text.toList i := by
  obtain ⟨a, b, ha, hb, hi, hab, hle⟩ := h
  have hstart : (Match.ofSlots r text slots).start = a := by simp [Match.ofSlots, ha]
  have hstop : (Match.ofSlots r text slots).stop = b := by simp [Match.ofSlots, hb]
  have hgroup : (Match.ofSlots r text slots).groupAt? 0 =
      some (.ofList (text.extract a b).toList) := by
    rw [Match.groupAt?, Match.ofSlots, List.getElem?_map, List.getElem?_range hgroups]
    dsimp only [Option.map_some, Option.join_some]
    rw [ha, hb]
  refine ⟨hstart ▸ hi, by rw [hstart, hstop]; exact hab, by rw [hstop]; exact hle, ?_⟩
  rw [hstart, hstop, Match.text, hgroup, Option.getD_some, String.toList_ofList]
  simp

/-- The matches follow each other in a text, from a place on and without overlap. -/
inductive InOrder (text : List Char) : Nat → List Match → Prop
  | nil (i : Nat) : InOrder text i []
  | cons {i : Nat} {m : Match} {ms : List Match} (hm : m.IsIn text i)
      (hms : InOrder text m.stop ms) : InOrder text i (m :: ms)

theorem inOrder_matchesFrom (hgroups : 1 ≤ r.groups) (n i : Nat) (lastStop : Option Nat) :
    InOrder text.toList i (matchesFrom r text n i lastStop) := by
  induction n generalizing i lastStop with
  | zero => exact .nil i
  | succ n ih =>
    have hfind : ∀ {j m}, (r.findFrom text j).map (Match.ofSlots r text) = some m →
        m.IsIn text.toList j := by
      intro j m hm
      obtain ⟨slots, hslots, rfl⟩ := Option.map_eq_some_iff.1 hm
      exact (Program.findFrom_isWithin hgroups hslots).isIn hgroups
    unfold matchesFrom
    dsimp only
    split
    · next m hm =>
      refine .cons ?_ (ih ..)
      split at hm
      · next hfound =>
        split at hm
        · -- an empty match where the last one ended is passed over
          obtain ⟨hstart, hstop, hle, htext⟩ := hfind hm
          exact ⟨Nat.le_of_succ_le hstart, hstop, hle, htext⟩
        · cases hm
          exact hfind hfound
      · cases hm
    · exact .nil i

/-- The matches of a text follow each other in it. -/
theorem inOrder_allMatches (hgroups : 1 ≤ r.groups) (text : String) :
    InOrder text.toList 0 (r.allMatches text) :=
  inOrder_matchesFrom hgroups (text.toList.toArray.size + 1) 0 none

/-- An expression that is ready has a group for the whole match. -/
theorem one_le_groups {literal : String} (h : ofLiteral literal = .ok r) : 1 ≤ r.groups := by
  unfold ofLiteral at h
  split at h
  · cases h
  · split at h
    · next hcompile =>
      cases h
      unfold compile at hcompile
      split at hcompile
      · cases hcompile
      · split at hcompile
        · cases hcompile
        · split at hcompile
          · cases hcompile
            exact Nat.le_add_left _ _
          · cases hcompile
    · cases h

/-! ## Replacing -/

/-- From a place on, a text is another one with values in place of matches: each match stands where
it says it does, and what is between them is the same. -/
inductive Replaces (value : Match → String) : Nat → List Match → List Char → List Char → Prop
  | rest (i : Nat) (cs : List Char) : Replaces value i [] cs cs
  | next {i : Nat} {m : Match} {ms : List Match} {gap cs cs' : List Char}
      (hstart : m.start = i + gap.length) (hstop : m.stop = m.start + m.text.length)
      (h : Replaces value m.stop ms cs cs') :
      Replaces value i (m :: ms) (gap ++ m.text.toList ++ cs) (gap ++ (value m).toList ++ cs')

variable {value : Match → String}

/-- A text is what it was with every match in place of itself. -/
theorem Replaces.eq_self {ms : List Match} {cs cs' : List Char} (h : Replaces value i ms cs cs')
    (hvalue : ∀ m ∈ ms, value m = m.text) : cs' = cs := by
  induction h with
  | rest => rfl
  | next _ _ _ ih =>
    obtain ⟨hm, hms⟩ := List.forall_mem_cons.1 hvalue
    rw [hm, ih hms]

/-- There is one text that is another one with the values in place of the matches. -/
theorem Replaces.unique {ms : List Match} {cs cs₁ cs₂ : List Char} (h₁ : Replaces value i ms cs cs₁)
    (h₂ : Replaces value i ms cs cs₂) : cs₁ = cs₂ := by
  induction h₁ generalizing cs₂ with
  | rest =>
    cases h₂
    rfl
  | @next i m ms gap cs cs' hstart _ _ ih =>
    generalize hwhole : gap ++ m.text.toList ++ cs = whole at h₂
    cases h₂ with
    | next hstart' _ h₂ =>
      obtain ⟨hfront, rfl⟩ := List.append_inj hwhole (by simp only [List.length_append]; omega)
      obtain ⟨rfl, -⟩ := List.append_inj hfront (by omega)
      rw [ih h₂]

/-- Matches that follow each other are replaced one by one. -/
theorem InOrder.replaces {text : List Char} {ms : List Match} (h : InOrder text i ms)
    (value : Match → String) : Replaces value i ms (text.drop i)
      (spliceFrom i (text.drop i) ((ms.map fun m => (m.start, m.stop)).zip (ms.map value))) := by
  induction h with
  | nil i => exact .rest i _
  | @cons i m ms hm _ ih =>
    have hstart := hm.start
    have hstop := hm.stop
    have hle := hm.stop_le
    have hlength : m.text.length = m.stop - m.start := by
      rw [← String.length_toList, hm.text, List.length_take, List.length_drop]
      omega
    have hgap : m.start = i + ((text.drop i).take (m.start - i)).length := by
      rw [List.length_take, List.length_drop]
      omega
    have hbehind : (text.drop i).drop (m.stop - i) = text.drop m.stop := by
      rw [List.drop_drop, Nat.add_sub_cancel' (by omega)]
    have hcut : text.drop i =
        (text.drop i).take (m.start - i) ++ m.text.toList ++ text.drop m.stop := by
      have hmatched := List.take_append_drop (m.stop - m.start) (text.drop m.start)
      have hfront := List.take_append_drop (m.start - i) (text.drop i)
      rw [List.drop_drop, Nat.add_sub_cancel' hstop, ← hm.text] at hmatched
      rw [List.drop_drop, Nat.add_sub_cancel' hstart, ← hmatched] at hfront
      rw [List.append_assoc, hfront]
    rw [List.map_cons, List.map_cons, List.zip_cons_cons, spliceFrom, hbehind]
    have hnext := ih.next hgap (by omega)
    rwa [← hcut] at hnext

/-- A text is put together again with values in place of its matches. -/
theorem replaces_splice (hgroups : 1 ≤ r.groups) (value : Match → String) (text : String) :
    Replaces value 0 (r.allMatches text) text.toList
      (splice text ((r.allMatches text).map fun m => (m.start, m.stop))
        ((r.allMatches text).map value)).toList := by
  rw [splice, String.toList_ofList]
  exact (inOrder_allMatches hgroups text).replaces value

end Wordsmith.Regex
