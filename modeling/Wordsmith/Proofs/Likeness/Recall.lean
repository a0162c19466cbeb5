import Wordsmith.Machine.Basic
import Wordsmith.Proofs.Likeness.Reading

/-!
# Blocks that are recalled

A block is found by its pattern and the index of its opener, and it may be come upon again by
another reader, whose passage begins and ends elsewhere. Where the arguments of a scope end is told
from the tokens up to there. So of two readers of one pattern that are at the same token and that
both find the closer of the scope, both find the same arguments: the tokens that the one has left
begin with those that the other has left, and what is found in these is found in those.

Main results: `Scan.Finds.unique`, and `ReadBlock.IsGenuine.matches_read`: what was read once is what a
reader that comes to it would read.
-/

namespace Wordsmith

variable {s : Scope} {separator : TokenKind} {p q : Position} {r r₀ r' r₀' : Reader}

/-! ## More tokens behind -/

theorem Scope.cut_append {separator : Option TokenKind} {waiting : List Token} {i : Nat}
    {tokens : List Token} {ending : Scope.Ending}
    (h : (s.cut separator p waiting i tokens).outcome = .ok ending) (more : List Token) :
    s.cut separator p waiting i (tokens ++ more) = s.cut separator p waiting i tokens := by
  induction tokens generalizing waiting i with
  | nil => simp [cut] at h
  | cons t rest ih =>
    rw [List.cons_append]
    unfold cut at h ⊢
    split
    · rfl
    · next hseparator =>
      rw [if_neg hseparator] at h
      split
      · rfl
      · rfl
      · next hfeed =>
        simp only [hfeed] at h
        exact ih h

namespace Reader

/-- The tokens between the next one and another. -/
theorem range_eq (hstart : r.passage.start ≤ r.index) {i : Nat} (hi : r.index ≤ i)
    (hstop : i ≤ r.passage.stop) : r.passage.range r.index i = ⟨r.passage.pattern, r.index, i⟩ := by
  simp only [Passage.range, Passage.mk.injEq, true_and]
  omega

/-- The tokens that are left, from all tokens of the pattern. -/
theorem rest_eq (hstart : r.passage.start ≤ r.index) :
    r.rest = (r.passage.pattern.tokens.extract r.index r.passage.stop).toList := by
  by_cases h : r.index ≤ r.passage.stop
  · rw [rest, range_eq hstart h (Nat.le_refl _), Passage.tokens]
  · have hfirst : min (max r.index r.passage.start) r.passage.stop = r.passage.stop := by omega
    simp only [rest, Passage.range, Passage.tokens, hfirst, Nat.max_self, Nat.min_self]
    rw [Array.extract_empty_of_stop_le_start (Nat.le_refl _),
      Array.extract_empty_of_stop_le_start (by omega)]

theorem rest_eq_take (hstart : r.passage.start ≤ r.index) :
    r.rest = (r.passage.pattern.tokens.toList.drop r.index).take (r.passage.stop - r.index) := by
  rw [rest_eq hstart, Array.toList_extract, List.extract_eq_take_drop]

theorem index_add_length_rest_le (hstart : r.passage.start ≤ r.index) (hne : r.rest ≠ []) :
    r.index + r.rest.length ≤ r.passage.pattern.tokens.size := by
  have hpos := List.length_pos_iff.2 hne
  rw [rest_eq_take hstart, List.length_take, List.length_drop, Array.length_toList] at *
  omega

/-- The readers are at the same token of one pattern, and the second may read on for longer, as far
as there are tokens. -/
structure Before (r r₀ : Reader) : Prop where
  pattern : r.passage.pattern = r₀.passage.pattern
  index : r.index = r₀.index
  start_le : r.passage.start ≤ r.index
  start_le' : r₀.passage.start ≤ r₀.index
  stop_le : min r.passage.stop r.passage.pattern.tokens.size ≤ r₀.passage.stop

theorem Before.exists_rest (h : r.Before r₀) : ∃ more, r₀.rest = r.rest ++ more := by
  have hstop := h.stop_le
  have hsize := congrArg (·.tokens.size) h.pattern
  rw [rest_eq_take h.start_le, rest_eq_take h.start_le', h.pattern, h.index]
  by_cases hle : r.passage.stop ≤ r₀.passage.stop
  · refine ⟨((r₀.passage.pattern.tokens.toList.drop r₀.index).drop (r.passage.stop - r₀.index)).take
      (r₀.passage.stop - r₀.index - (r.passage.stop - r₀.index)), ?_⟩
    rw [← List.take_add]
    congr 1
    omega
  · refine ⟨[], ?_⟩
    rw [List.append_nil, List.take_of_length_le, List.take_of_length_le] <;>
      rw [List.length_drop, Array.length_toList] <;> omega

end Reader

/-! ## Arguments -/

namespace Scan

/-- An argument that is found lies between the next token and the one that ends it. -/
theorem argument_eq_ok {found : Passage × Scope.Ending}
    (h : argument s separator p r = (.ok found, r')) : ∃ i, r.index ≤ i ∧ i < r.passage.stop ∧
      (s.cut (some separator) p [] r.index r.rest).outcome = .ok found.2 ∧
      (s.cut (some separator) p [] r.index r.rest).index = i ∧
      found.1 = (r.passage.range r.index i).trim ∧ r' = { r with index := i + 1 } := by
  simp only [argument] at h
  split at h
  · cases h
  · next ending hcut =>
    cases h
    have hlt := Scope.cut_index_lt hcut
    have hne : r.rest ≠ [] := fun hnil => by simp [hnil, Scope.cut] at hcut
    have hle := Reader.rest_length_add_index_le hne
    exact ⟨_, hlt.1, by omega, hcut, rfl, rfl, rfl⟩

/-- Where the scope began says nothing about the arguments that are found. -/
theorem argument_congr {found : Passage × Scope.Ending}
    (h : argument s separator p r = (.ok found, r')) (q : Position) :
    argument s separator q r = (.ok found, r') := by
  obtain ⟨hindex, hmatch⟩ := s.cut_alike separator p q [] r.index r.rest
  simp only [argument] at h ⊢
  rw [← hindex]
  generalize s.cut separator q [] r.index r.rest = c' at *
  split at h
  · cases h
  · next ending hcut =>
    obtain ⟨ending', houtcome, rfl⟩ := hmatch.exists_ok hcut
    rw [houtcome]
    exact h

/-- A reader that may read on for longer finds the same. -/
theorem argument_before {found : Passage × Scope.Ending}
    (h : argument s separator p r = (.ok found, r')) (hr : r.Before r₀) :
    argument s separator p r₀ = (.ok found, { r₀ with index := r'.index }) := by
  obtain ⟨i, hle, hlt, houtcome, hindex, hfound, rfl⟩ := argument_eq_ok h
  obtain ⟨more, hrest⟩ := hr.exists_rest
  have hstop := hr.stop_le
  have hne : r.rest ≠ [] := fun hnil => by simp [hnil, Scope.cut] at houtcome
  have hsize := Reader.index_add_length_rest_le hr.start_le hne
  have hbound := hindex ▸ Scope.cut_index_lt houtcome
  have hcut := Scope.cut_append houtcome more
  rw [← hrest, hr.index] at hcut
  rw [hr.index] at houtcome hindex
  have hrange : r₀.passage.range r₀.index i = r.passage.range r.index i := by
    rw [Reader.range_eq hr.start_le hle (Nat.le_of_lt hlt),
      Reader.range_eq hr.start_le' (hr.index ▸ hle) (by omega), hr.pattern, hr.index]
  simp only [argument, hcut]
  split
  · next he => cases houtcome.symm.trans he
  · next ending he =>
    cases houtcome.symm.trans he
    rw [hindex, hrange, ← hfound]

/-- A reader finds arguments of a scope, the last of them before the closer, and stops behind it. -/
inductive Finds (s : Scope) (separator : TokenKind) : Reader → List Passage → Reader → Prop
  | closed {p : Position} {r r' : Reader} {a : Passage}
    (h : argument s separator p r = (.ok (a, .closed), r')) : Finds s separator r [a] r'
  | separated {p : Position} {r r₁ r' : Reader} {a : Passage} {others : List Passage}
    (h : argument s separator p r = (.ok (a, .separated), r₁))
    (hothers : Finds s separator r₁ others r') : Finds s separator r (a :: others) r'

theorem finds_of_argumentsFrom {ps : List Passage}
    (h : argumentsFrom s separator p r = (.ok ps, r')) : Finds s separator r ps r' := by
  induction hk : r.remaining using Nat.strongRecOn generalizing r ps with
  | ind k ih =>
    rw [argumentsFrom] at h
    split at h
    · cases h
    · next hfound =>
      cases h
      exact .closed hfound
    · next hfound =>
      split at h
      · cases h
      · next hothers =>
        cases h
        exact .separated hfound (ih _ (hk ▸ argument_remaining_lt hfound) hothers rfl)

namespace Finds

variable {ps qs : List Passage}

theorem argumentsFrom (h : Finds s separator r ps r') (p : Position) :
    argumentsFrom s separator p r = (.ok ps, r') := by
  induction h with
  | closed h =>
    have h := argument_congr h p
    rw [Scan.argumentsFrom]
    split
    · next h' => cases h.symm.trans h'
    · next h' =>
      cases h.symm.trans h'
      rfl
    · next h' => cases h.symm.trans h'
  | separated h _ ih =>
    have h := argument_congr h p
    rw [Scan.argumentsFrom]
    split
    · next h' => cases h.symm.trans h'
    · next h' => cases h.symm.trans h'
    · next h' =>
      cases h.symm.trans h'
      rw [ih]

/-- The reader stays in its passage and moves on in it. -/
theorem exists_index (h : Finds s separator r ps r') :
    ∃ i, r.index < i ∧ i ≤ r.passage.stop ∧ r' = { r with index := i } := by
  induction h with
  | closed h =>
    obtain ⟨i, hle, hlt, -, -, -, rfl⟩ := argument_eq_ok h
    exact ⟨i + 1, Nat.lt_succ_of_le hle, hlt, rfl⟩
  | separated h _ ih =>
    obtain ⟨i, hle, hlt, -, -, -, rfl⟩ := argument_eq_ok h
    obtain ⟨j, hij, hj, rfl⟩ := ih
    exact ⟨j, Nat.lt_of_le_of_lt hle (Nat.lt_of_succ_lt hij), hj, rfl⟩

/-- A reader that may read on for longer finds the same. -/
theorem before (h : Finds s separator r ps r') (hr : r.Before r₀) :
    Finds s separator r₀ ps { r₀ with index := r'.index } := by
  induction h generalizing r₀ with
  | closed h => exact .closed (argument_before h hr)
  | separated h _ ih =>
    obtain ⟨i, hle, hlt, -, -, -, rfl⟩ := argument_eq_ok h
    refine .separated (argument_before h hr) (ih ⟨hr.pattern, rfl, ?_, ?_, hr.stop_le⟩)
    · exact Nat.le_succ_of_le (Nat.le_trans hr.start_le hle)
    · exact Nat.le_succ_of_le (Nat.le_trans hr.start_le' (hr.index ▸ hle))

/-- Readers that are at the same token of one pattern find the same. -/
theorem unique (h : Finds s separator r ps r') (h' : Finds s separator r₀ qs r₀')
    (hpattern : r₀.passage.pattern = r.passage.pattern) (hindex : r₀.index = r.index)
    (hstart : r.passage.start ≤ r.index) (hstart' : r₀.passage.start ≤ r₀.index) :
    ps = qs ∧ r'.index = r₀'.index := by
  rcases Nat.le_total r.passage.stop r₀.passage.stop with hle | hle
  · have h := (h.before ⟨hpattern.symm, hindex.symm, hstart, hstart',
      Nat.le_trans (Nat.min_le_left ..) hle⟩).argumentsFrom .nowhere
    cases (h'.argumentsFrom .nowhere).symm.trans h
    exact ⟨rfl, rfl⟩
  · have h' := (h'.before ⟨hpattern, hindex, hstart', hstart,
      Nat.le_trans (Nat.min_le_left ..) hle⟩).argumentsFrom .nowhere
    cases (h.argumentsFrom .nowhere).symm.trans h'
    exact ⟨rfl, rfl⟩

end Finds

end Scan

/-! ## Blocks -/

namespace Block

theorem finds_readItems {ps : List Passage} (h : readItems r = (.ok ps, r')) :
    Scan.Finds scope .pipe r ps r' := Scan.finds_of_argumentsFrom h

theorem readItems_of_finds {ps : List Passage} (h : Scan.Finds scope .pipe r ps r') :
    readItems r = (.ok ps, r') := h.argumentsFrom _

end Block

/-- What is kept of a block at a place is what some reader read there. -/
def ReadBlock.IsGenuine (place : Pattern × Nat) (known : ReadBlock) : Prop :=
  ∃ r ps r', r.passage.start ≤ r.index ∧ r.passage.pattern = place.1 ∧ r.index = place.2 + 1 ∧
    Block.readItems r = (.ok ps, r') ∧ known = ⟨.ofPassages ps, r'.index⟩

namespace ReadBlock.IsGenuine

variable {known : ReadBlock} {ps : List Passage}

theorem of_read (hstart : r.passage.start ≤ r.index) (hindex : 0 < r.index)
    (h : Block.readItems r = (.ok ps, r')) :
    IsGenuine (r.passage.pattern, r.index - 1) ⟨.ofPassages ps, r'.index⟩ :=
  ⟨r, ps, r', hstart, rfl, (Nat.sub_add_cancel hindex).symm, h, rfl⟩

/-- What was read once is what a reader that comes to it would read. -/
theorem matches_read (h : IsGenuine (r.passage.pattern, r.index - 1) known)
    (hstart : r.passage.start ≤ r.index) (hindex : 0 < r.index)
    (hread : Block.readItems r = (.ok ps, r')) :
    known.block = .ofPassages ps ∧ r.jump known.stop = r' := by
  obtain ⟨r₀, qs, r₀', hstart₀, hpattern, hindex₀, hread₀, rfl⟩ := h
  have hfinds := Block.finds_readItems hread
  obtain ⟨rfl, hstop⟩ := hfinds.unique (Block.finds_readItems hread₀) hpattern
    (hindex₀.trans (Nat.sub_add_cancel hindex)) hstart hstart₀
  obtain ⟨i, hlt, hle, rfl⟩ := hfinds.exists_index
  refine ⟨rfl, ?_⟩
  simp only [Reader.jump, ← hstop, if_pos hlt, Nat.min_eq_left hle]

end ReadBlock.IsGenuine

end Wordsmith
