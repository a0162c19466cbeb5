import Mathlib.Data.List.DropRight
import Mathlib.Data.List.TakeWhile
import Wordsmith.Proofs.Likeness.Recall

/-!
# What stands in a passage

Passages are ranges of indices, and so are their parts. Here they are lists of tokens: a part of a
passage is a stretch of its tokens, a passage without the blanks around it is what is left of its
tokens when blanks are taken off both ends, and a reader comes to the tokens that it has left one
after the other.

Main results: `Passage.trim_tokens`, `Reader.head?_rest` and `Reader.rest_next`.
-/

namespace Wordsmith

section Trimming

variable {α : Type} {p : α → Bool} {lead core trail : List α}

/-- What has no blanks at its edges is what is left when blanks around it are taken off. -/
theorem trim_append (hlead : ∀ x ∈ lead, p x = true) (htrail : ∀ x ∈ trail, p x = true)
    (hhead : ∀ x ∈ core.head?, p x = false) (hlast : ∀ x ∈ core.getLast?, p x = false) :
    ((lead ++ core ++ trail).dropWhile p).rdropWhile p = core := by
  have htrail' : ∀ x ∈ trail.reverse, p x = true := fun x hx => htrail x (List.mem_reverse.1 hx)
  rw [List.append_assoc, List.dropWhile_append_of_pos hlead]
  cases core with
  | nil => rw [List.nil_append, List.dropWhile_eq_nil_iff.2 htrail, List.rdropWhile_nil]
  | cons x core =>
    rw [List.cons_append, List.dropWhile_cons_of_neg (by simp [hhead x rfl]), ← List.cons_append,
      List.rdropWhile, List.reverse_append, List.dropWhile_append_of_pos htrail']
    exact List.rdropWhile_eq_self_iff.2 fun hne => by
      simp [hlast _ (List.getLast?_eq_some_getLast hne)]

/-- What has no blanks at its edges stays. -/
theorem trim_eq_self (hhead : ∀ x ∈ core.head?, p x = false)
    (hlast : ∀ x ∈ core.getLast?, p x = false) : (core.dropWhile p).rdropWhile p = core := by
  simpa using trim_append (List.forall_mem_nil _) (List.forall_mem_nil _) hhead hlast

/-- Nothing is left at the edges that could be taken off. -/
theorem edges_trim (p : α → Bool) (xs : List α) :
    (∀ x ∈ ((xs.dropWhile p).rdropWhile p).head?, p x = false) ∧
      ∀ x ∈ ((xs.dropWhile p).rdropWhile p).getLast?, p x = false := by
  constructor
  · intro x hx
    obtain ⟨ys, hys⟩ := List.head?_eq_some_iff.1 hx
    obtain ⟨zs, hzs⟩ := List.rdropWhile_prefix p (xs.dropWhile p)
    have hnot := List.head?_dropWhile_not p xs
    rw [← hzs, hys] at hnot
    simpa using hnot
  · intro x hx
    obtain ⟨hne, rfl⟩ := List.mem_getLast?_eq_getLast hx
    simpa using List.rdropWhile_last_not p _ hne

end Trimming

theorem Pattern.tokens_passage (p : Pattern) : p.passage.tokens = p.tokens.toList := by
  rw [Passage.tokens, Pattern.passage, Array.extract_size]

namespace Passage

variable {p : Passage}

/-- The passage lies within its pattern. -/
structure Fits (p : Passage) : Prop where
  start_le : p.start ≤ p.stop
  stop_le : p.stop ≤ p.pattern.tokens.size

theorem tokens_eq (p : Passage) :
    p.tokens = (p.pattern.tokens.toList.drop p.start).take (p.stop - p.start) := by
  rw [tokens, Array.toList_extract, List.extract_eq_take_drop]

theorem length_tokens (h : p.Fits) : p.tokens.length = p.stop - p.start := by
  have := h.stop_le
  rw [tokens_eq, List.length_take, List.length_drop, Array.length_toList]
  omega

theorem range_eq {i j : Nat} (hi : p.start ≤ i) (hij : i ≤ j) (hj : j ≤ p.stop) :
    p.range i j = ⟨p.pattern, i, j⟩ := by
  simp only [range, mk.injEq, true_and]
  omega

/-- A part of a passage is a stretch of its tokens. -/
theorem tokens_part {i j : Nat} (hi : p.start ≤ i) (hj : j ≤ p.stop) :
    tokens ⟨p.pattern, i, j⟩ = (p.tokens.drop (i - p.start)).take (j - i) := by
  rw [tokens_eq, tokens_eq, List.drop_take, List.drop_drop, List.take_take,
    Nat.add_sub_cancel' hi]
  dsimp only
  congr 1
  omega

/-- What is left of a passage behind its first tokens. -/
theorem range_behind (h : p.Fits) {lead rest : List Token} (htokens : p.tokens = lead ++ rest)
    {n : Nat} (hn : lead.length = n) :
    p.range (p.start + n) p.stop = ⟨p.pattern, p.start + n, p.stop⟩ ∧
      Fits ⟨p.pattern, p.start + n, p.stop⟩ ∧ tokens ⟨p.pattern, p.start + n, p.stop⟩ = rest := by
  subst hn
  have hlength := length_tokens h
  have hstart := h.start_le
  rw [htokens, List.length_append] at hlength
  refine ⟨range_eq (Nat.le_add_right _ _) (by omega) (Nat.le_refl _), ⟨?_, h.stop_le⟩, ?_⟩
  · dsimp only
    omega
  · rw [tokens_part (Nat.le_add_right _ _) (Nat.le_refl _), htokens, Nat.add_sub_cancel_left,
      List.drop_left]
    exact List.take_of_length_le (by omega)

/-- No blanks stand at the edges of the passage. -/
structure IsTrimmed (p : Passage) : Prop where
  head : ∀ t ∈ p.tokens.head?, isSpace t = false
  last : ∀ t ∈ p.tokens.getLast?, isSpace t = false

/-- What is left when the blanks at the edges are taken off. -/
theorem trim_tokens (h : p.Fits) : ∃ lead trail,
    p.tokens = lead ++ p.trim.tokens ++ trail ∧ (∀ t ∈ lead, isSpace t = true) ∧
      (∀ t ∈ trail, isSpace t = true) ∧
      p.trim = ⟨p.pattern, p.start + lead.length, p.stop - trail.length⟩ ∧
      p.trim.Fits ∧ p.trim.IsTrimmed := by
  have hstart := h.start_le
  let lead := p.tokens.takeWhile isSpace
  let others := p.tokens.drop lead.length
  let core := (others.reverse.dropWhile isSpace).reverse
  let trail := (others.reverse.takeWhile isSpace).reverse
  have hothers : others = p.tokens.dropWhile isSpace := by
    calc p.tokens.drop lead.length
        = (lead ++ p.tokens.dropWhile isSpace).drop lead.length := by
          rw [List.takeWhile_append_dropWhile]
      _ = p.tokens.dropWhile isSpace := List.drop_left
  have hends : others = core ++ trail := by
    rw [← List.reverse_append, List.takeWhile_append_dropWhile, List.reverse_reverse]
  have hparts : p.tokens = lead ++ core ++ trail := by
    rw [List.append_assoc, ← hends, hothers, List.takeWhile_append_dropWhile]
  have hlength := congrArg List.length hparts
  rw [length_tokens h] at hlength
  simp only [List.length_append] at hlength
  have htrim : p.trim = ⟨p.pattern, p.start + lead.length, p.stop - trail.length⟩ := by
    have hrange : p.trim = p.range (p.start + lead.length) (p.stop - trail.length) := by
      simp only [trail, List.length_reverse]
      rfl
    rw [hrange, range_eq (Nat.le_add_right _ _) (by omega) (Nat.sub_le _ _)]
  have hcore : p.trim.tokens = core := by
    have hmiddle : p.stop - trail.length - (p.start + lead.length) = core.length := by omega
    rw [htrim, tokens_part (Nat.le_add_right _ _) (Nat.sub_le _ _), hparts, Nat.add_sub_cancel_left,
      List.append_assoc, List.drop_left, hmiddle, List.take_left]
  refine ⟨lead, trail, hcore ▸ hparts, ?_, ?_, htrim, ?_, ?_, ?_⟩
  · exact fun t ht => List.mem_takeWhile_imp ht
  · exact fun t ht => List.mem_takeWhile_imp (List.mem_reverse.1 ht)
  · rw [htrim]
    exact ⟨by dsimp only; omega, Nat.le_trans (Nat.sub_le _ _) h.stop_le⟩
  · intro t ht
    rw [hcore] at ht
    have hhead : t ∈ (p.tokens.dropWhile isSpace).head? := by
      obtain ⟨l, hl⟩ := List.head?_eq_some_iff.1 ht
      rw [← hothers, hends, hl]
      rfl
    have hnot := List.head?_dropWhile_not isSpace p.tokens
    rw [Option.mem_def.1 hhead] at hnot
    exact hnot
  · intro t ht
    rw [hcore, List.getLast?_reverse] at ht
    have hnot := List.head?_dropWhile_not isSpace others.reverse
    rw [Option.mem_def.1 ht] at hnot
    exact hnot

end Passage

namespace Reader

variable {r : Reader}

/-- The next token is the first of those that are left. -/
theorem head?_rest (hstart : r.passage.start ≤ r.index) : r.rest.head? = r.peek? := by
  rw [rest_eq_take hstart, peek?, Passage.token?]
  by_cases h : r.index < r.passage.stop
  · rw [if_pos ⟨hstart, h⟩, List.head?_take, if_neg (by omega), List.head?_drop,
      Array.getElem?_toList]
  · rw [if_neg (by omega), Nat.sub_eq_zero_of_le (by omega), List.take_zero, List.head?_nil]

theorem rest_next (hstart : r.passage.start ≤ r.index) : r.next.rest = r.rest.tail := by
  rw [rest_eq_take hstart, rest_eq_take (Nat.le_succ_of_le hstart)]
  simp only [next]
  rw [← List.drop_one, List.drop_take, List.drop_drop, Nat.sub_sub]

theorem read?_of_rest (hstart : r.passage.start ≤ r.index) {t : Token} {l : List Token}
    (h : r.rest = t :: l) : r.read? = some (t, r.next) ∧ r.next.rest = l := by
  have hhead := head?_rest hstart
  rw [h] at hhead
  exact ⟨by rw [read?, ← hhead]; rfl, by rw [rest_next hstart, h]; rfl⟩

theorem read?_of_rest_nil (hstart : r.passage.start ≤ r.index) (h : r.rest = []) :
    r.read? = none := by
  have hhead := head?_rest hstart
  rw [h] at hhead
  rw [read?, ← hhead]
  rfl

theorem rest_of_read? (hstart : r.passage.start ≤ r.index) {t : Token} {r₁ : Reader}
    (h : r.read? = some (t, r₁)) : r.rest = t :: r₁.rest ∧ r₁ = r.next := by
  obtain ⟨t, hpeek, heq⟩ := Option.map_eq_some_iff.1 h
  cases heq
  rw [← head?_rest hstart] at hpeek
  obtain ⟨l, hl⟩ := List.head?_eq_some_iff.1 hpeek
  exact ⟨by rw [rest_next hstart, hl]; rfl, rfl⟩

theorem start_le_of_read? (hstart : r.passage.start ≤ r.index) {t : Token} {r₁ : Reader}
    (h : r.read? = some (t, r₁)) : r₁.passage.start ≤ r₁.index := by
  rw [(rest_of_read? hstart h).2]
  exact Nat.le_succ_of_le hstart

theorem rest_ofPassage (p : Passage) : (ofPassage p).rest = p.tokens := by
  rw [rest_eq (Nat.le_refl _)]
  rfl

end Reader

namespace Scan

variable {s : Scope} {separator : TokenKind} {r r' : Reader}

/-- An argument is what stands before the token that ends it, without the blanks around it. -/
theorem argument_trim (hstart : r.passage.start ≤ r.index) {p : Position}
    {found : Passage × Scope.Ending} (h : argument s separator p r = (.ok found, r')) :
    ∃ i, r.index ≤ i ∧ i < r.passage.stop ∧ i < r.passage.pattern.tokens.size ∧
      found.1 = Passage.trim ⟨r.passage.pattern, r.index, i⟩ ∧ r' = { r with index := i + 1 } := by
  obtain ⟨i, hle, hlt, houtcome, rfl, hfound, rfl⟩ := argument_eq_ok h
  have hbound := Scope.cut_index_lt houtcome
  have hne : r.rest ≠ [] := fun hnil => by simp [hnil, Scope.cut] at houtcome
  have hsize := Reader.index_add_length_rest_le hstart hne
  refine ⟨_, hle, hlt, by omega, ?_, rfl⟩
  rw [hfound, Reader.range_eq hstart hle (Nat.le_of_lt hlt)]

/-- All arguments that are found are stretches of the pattern without blanks around them. -/
theorem Finds.exists_trim {ps : List Passage} (h : Finds s separator r ps r')
    (hstart : r.passage.start ≤ r.index) : ∀ a ∈ ps, ∃ q : Passage, q.Fits ∧ a = q.trim := by
  induction h with
  | closed h =>
    obtain ⟨i, hle, hlt, hsize, rfl, -⟩ := argument_trim hstart h
    exact List.forall_mem_singleton.2 ⟨_, ⟨hle, Nat.le_of_lt hsize⟩, rfl⟩
  | separated h _ ih =>
    obtain ⟨i, hle, hlt, hsize, rfl, rfl⟩ := argument_trim hstart h
    refine List.forall_mem_cons.2 ⟨⟨_, ⟨hle, Nat.le_of_lt hsize⟩, rfl⟩, ih ?_⟩
    exact Nat.le_succ_of_le (Nat.le_trans hstart hle)

end Scan

end Wordsmith
