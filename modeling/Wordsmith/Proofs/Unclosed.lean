import Wordsmith.Proofs.Arguments

/-!
# Openers without a closer

A scan that comes to the end of its tokens fails with the innermost opener that waits. Where brackets
inside the scope wait, the scan has that opener on its stack, and names its place. Where none waits,
it is the scope itself that has no closer. The scan has begun behind its opener and does not know
it, so it names the token that was read last: the opener, if the contents begin right behind it, but
in square brackets the colon in front of the contents, or a blank behind it, or the question mark of
a metapattern, and in a silent expression the at sign.

Either way there is an opener that has no closer: what stands behind it is balanced up to the end of
the tokens (`Unclosed`). Every construct is read by a row of scans, and what one scan leaves to the
next is that the reader has come from the opener through tokens that are balanced, or in which one
more square bracket waits, that of the header of a definition.

Main result: `Scan.explains_read` for square brackets, with its counterparts for the other brackets.
-/

namespace Wordsmith

variable {s s' : Scope} {k c : TokenKind} {q : Position} {t w opener : Token}
  {waiting before behind head rest tokens : List Token}

/-! ## Rows of tokens -/

/-- The place by which the opener of a scope is named, given what stands behind it: its own, or that
of the sign in front of the contents. -/
inductive Scope.Marks (s : Scope) (opener : Token) : List Token → Position → Prop
  | opener {behind : List Token} : Marks s opener behind opener.position
  | sign {front rest : List Token} {t : Token} (hs : s.opener = .leftSquare)
    (hfront : s.Balanced front) (ht : t.kind ∈ [.colon, .question, .whitespace]) :
    Marks s opener (front ++ t :: rest) t.position
  | silence {rest : List Token} {t : Token} (hs : s.opener = .leftParen) (ht : t.kind = .at) :
    Marks s opener (t :: rest) t.position

/-- An opener has no closer: it begins a scope, and what stands behind it is balanced up to the end
of the tokens. -/
inductive Unclosed (tokens : List Token) : TokenKind → TokenKind → Position → Prop
  | intro {s : Scope} {before behind : List Token} {opener : Token} {q : Position}
    (hs : s.IsBracket) (htokens : tokens = before ++ opener :: behind)
    (hopener : opener.kind = s.opener) (hbehind : s.Balanced behind)
    (hq : s.Marks opener behind q) : Unclosed tokens s.opener s.closer q

/-- At the place stands a token, the opener or a sign that stands for it. -/
theorem Unclosed.exists_token (h : Unclosed tokens k c q) : ∃ t ∈ tokens, t.position = q ∧
    (t.kind = k ∨ k = .leftSquare ∧ t.kind ∈ [.colon, .question, .whitespace] ∨
      k = .leftParen ∧ t.kind = .at) := by
  cases h with
  | intro _ htokens hopener _ hq =>
    subst htokens
    cases hq with
    | opener => exact ⟨_, by simp, rfl, .inl hopener⟩
    | @sign _ _ t hs _ ht => exact ⟨t, by simp, rfl, .inr (.inl ⟨hs, ht⟩)⟩
    | @silence _ t hs ht => exact ⟨t, by simp, rfl, .inr (.inr ⟨hs, ht⟩)⟩

theorem Unclosed.append_left (h : Unclosed tokens k c q) (front : List Token) :
    Unclosed (front ++ tokens) k c q := by
  cases h with
  | intro hs htokens hopener hbehind hq =>
    exact .intro hs (by rw [htokens, List.append_assoc]) hopener hbehind hq

namespace Scope

/-- The delimiters of a scope are among the brackets of its table. -/
theorem IsBracket.mem_table (hs : s.IsBracket) : (s.opener, s.closer) ∈ s.table.pairs := by
  obtain ⟨hcloser, hnests⟩ := hs
  generalize s.opener = o, s.closer = c, s.table = b at *
  rcases hnests with rfl | ⟨rfl, rfl⟩
  · cases o <;> cases hcloser <;> decide
  · cases hcloser
    decide

theorem IsBracket.mem_pairs (hs : s.IsBracket) :
    (s.opener, s.closer) ∈ BracketTable.all.pairs := s.table.pairs_subset hs.mem_table

theorem IsBracket.mem_pairs_iff (hs : s.IsBracket) {pair : TokenKind × TokenKind} :
    pair ∈ s.pairs ↔ pair ∈ s.table.pairs := by
  rw [pairs, List.mem_cons, or_iff_right_of_imp]
  rintro rfl
  exact hs.mem_table

/-- A bracket that nests in a scope begins a scope in which the same brackets nest. -/
theorem IsBracket.inner (hs : s.IsBracket) (hpair : (k, c) ∈ s.pairs) :
    Scope.IsBracket ⟨k, c, s.table⟩ := by
  refine ⟨closer?_of_mem hs.mem_pairs hpair, hs.nests.imp_right fun ⟨htable, _⟩ => ⟨htable, ?_⟩⟩
  rw [hs.mem_pairs_iff, htable] at hpair
  exact (Prod.mk.inj (List.mem_singleton.1 hpair)).1

theorem Balanced.congr (h : s.Balanced tokens) (hpairs : ∀ pair, pair ∈ s.pairs ↔ pair ∈ s'.pairs) :
    s'.Balanced tokens := by
  induction h with
  | nil => exact .nil
  | neutral ht _ ih => exact .neutral (fun pair hpair => ht pair ((hpairs pair).2 hpair)) ih
  | pair hpair _ _ ihinner ihrest => exact .pair ((hpairs _).1 hpair) ihinner ihrest

/-- A scan that comes to the end of its tokens fails with an opener that has no closer. -/
theorem unclosed_of_awaits (hs : s.IsBracket)
    (htokens : tokens = before ++ opener :: (head ++ rest)) (hopener : opener.kind = s.opener)
    (hhead : s.Balanced head) (hq : s.Marks opener (head ++ rest) q)
    (hrest : s.Awaits waiting rest) :
    ∃ k c q', s.unterminated q waiting = .unterminated k c q' ∧ Unclosed tokens k c q' := by
  cases hrest with
  | nothing hrest => exact ⟨_, _, _, rfl, .intro hs htokens hopener (hhead.append hrest) hq⟩
  | @opener _ between inner w c _ hw hinner =>
    have hcloser : s.closerOf w.kind = c := closerOf_of_mem hs.mem_pairs hw
    have hbracket := hs.inner hw
    have hpairs : ∀ pair, pair ∈ s.pairs ↔ pair ∈ pairs ⟨w.kind, c, s.table⟩ := fun pair => by
      rw [hs.mem_pairs_iff, hbracket.mem_pairs_iff]
    refine ⟨w.kind, c, w.position, by rw [unterminated, hcloser], ?_⟩
    have hrow : tokens = (before ++ opener :: (head ++ between)) ++ w :: inner := by simp [htokens]
    exact .intro hbracket hrow rfl (hinner.congr hpairs) .opener

end Scope

namespace Nested

variable {kinds : List TokenKind}

theorem exists_of_append (h : Nested kinds (before ++ rest)) : ∃ kinds', Nested kinds' rest := by
  induction before generalizing kinds with
  | nil => exact ⟨kinds, h⟩
  | cons t before ih =>
    cases h with
    | neutral _ h | opener _ h | closer _ h => exact ih h

/-- Where brackets nest, every opener has its closer. -/
theorem not_unclosed (h : Nested kinds tokens) : ¬Unclosed tokens k c q := by
  rintro ⟨hs, rfl, hopener, hbehind, -⟩
  obtain ⟨kinds', hrest⟩ := h.exists_of_append
  have hinside : Nested ([] ++ _ :: kinds') _ :=
    hrest.of_opener ((congrArg TokenKind.closer? hopener).trans hs.closer)
  have hnone : ∀ k ∈ (none : Option TokenKind), k.isNeutral = true := nofun
  obtain ⟨ending, hcut, -⟩ := Scope.cut_of_nested (p := .nowhere) (i := 0) hs hnone hinside nofun
    (List.map_nil : [].map _ = [])
  rw [Scope.cut_of_awaits hs.mem_pairs (.nothing hbehind)] at hcut
  cases hcut

end Nested

theorem Passage.pattern_of_mem_pieces {p a : Passage} {first stop : Nat} {cuts : List Nat}
    (h : a ∈ p.pieces first cuts stop) : a.pattern = p.pattern := by
  induction cuts generalizing first with
  | nil =>
    cases List.mem_singleton.1 h
    rfl
  | cons i cuts ih =>
    rcases List.mem_cons.1 h with rfl | h
    · rfl
    · exact ih h

/-! ## Readers behind an opener -/

namespace Reader

/-- If the error is about an opener without a closer, then there is that opener among the tokens that
the reader has left. -/
def Explains (r : Reader) (e : ScopeError) : Prop :=
  ∀ k c q, e = .unterminated k c q → Unclosed r.rest k c q

/-- A scan has stayed in the passage of the reader, and what it has found is of the same pattern. -/
structure Keeps (r : Reader) (ps : List Passage) (r' : Reader) : Prop where
  passage : r'.passage = r.passage
  pattern : ∀ q ∈ ps, q.pattern = r.passage.pattern

/-- The second reader is where the first has read some tokens. -/
def Passed (r : Reader) (tokens : List Token) (r' : Reader) : Prop :=
  (∃ more, r.rest = tokens ++ more) ∧ r' = { r with index := r.index + tokens.length }

/-- Of the tokens that another reader has left, the reader has read up to an opener, and some tokens
behind it. -/
structure Opened (r origin : Reader) (opener : Token) (head : List Token) : Prop where
  passage : r.passage = origin.passage
  start_lt : r.passage.start < r.index
  rest : ∃ before, origin.rest = before ++ opener :: (head ++ r.rest)
  previous : r.previous? = (opener :: head).getLast?

/-- The reader is where the contents of a scope begin, and the token that it has just read stands for
the opener of the scope. -/
structure Begins (r origin : Reader) (s : Scope) : Prop where
  passage : r.passage = origin.passage
  start_le : r.passage.start ≤ r.index
  opener : ∃ before opener head, origin.rest = before ++ opener :: (head ++ r.rest) ∧
    opener.kind = s.opener ∧ s.Balanced head ∧ s.Marks opener (head ++ r.rest) r.previousPosition

variable {r r' origin : Reader}

theorem previous?_next (hpeek : r.peek? = some t) : r.next.previous? = some t := hpeek

theorem rest_of_peek? (hstart : r.passage.start ≤ r.index) (hpeek : r.peek? = some t) :
    r.rest = t :: r.next.rest :=
  (rest_of_read? hstart (by rw [read?, hpeek]; rfl)).1

theorem exists_of_take? {kind : TokenKind} (h : r.take? kind = some r') :
    ∃ t, t.kind = kind ∧ r.peek? = some t ∧ r' = r.next := by
  unfold take? at h
  split at h
  · next hkind =>
    cases h
    obtain ⟨t, hpeek, ht⟩ := Option.map_eq_some_iff.1 hkind
    exact ⟨t, ht, hpeek, rfl⟩
  · cases h

namespace Opened

theorem of_read? (hstart : origin.passage.start ≤ origin.index)
    (hread : origin.read? = some (t, r)) : r.Opened origin t [] := by
  obtain ⟨hrest, rfl⟩ := rest_of_read? hstart hread
  obtain ⟨_, hpeek, heq⟩ := Option.map_eq_some_iff.1 hread
  cases heq
  exact ⟨rfl, Nat.lt_succ_of_le hstart, ⟨[], hrest⟩, previous?_next hpeek⟩

theorem start_le (h : r.Opened origin opener head) : r.passage.start ≤ r.index :=
  Nat.le_of_lt h.start_lt

theorem next (h : r.Opened origin opener head) (hpeek : r.peek? = some t) :
    r.next.Opened origin opener (head ++ [t]) := by
  obtain ⟨before, hrest⟩ := h.rest
  refine ⟨h.passage, Nat.lt_succ_of_lt h.start_lt, ⟨before, ?_⟩, ?_⟩
  · rw [hrest, rest_of_peek? h.start_le hpeek, List.append_assoc]
    rfl
  · rw [previous?_next hpeek, ← List.cons_append, List.getLast?_concat]

theorem passed (h : r.Opened origin opener head) (hr : r.Passed tokens r') :
    r'.Opened origin opener (head ++ tokens) := by
  obtain ⟨⟨more, hrest⟩, rfl⟩ := hr
  induction tokens generalizing r head with
  | nil => simpa using h
  | cons t tokens ih =>
    have hpeek : r.peek? = some t := by
      rw [← head?_rest h.start_le, hrest]
      rfl
    have hnext := rest_of_peek? h.start_le hpeek
    rw [hrest] at hnext
    have hopened := ih (h.next hpeek) (List.cons.inj hnext).2.symm
    simpa only [Reader.next, List.append_assoc, List.cons_append, List.nil_append,
      List.length_cons, Nat.add_assoc, Nat.add_comm 1] using hopened

theorem skipSpace (h : r.Opened origin opener head) : ∃ blanks,
    (∀ t ∈ blanks, Passage.isSpace t = true) ∧ r.skipSpace.Opened origin opener (head ++ blanks) :=
  ⟨_, fun _ ht => List.mem_takeWhile_imp ht,
    h.passed ⟨⟨_, List.takeWhile_append_dropWhile.symm⟩, rfl⟩⟩

/-- The contents begin right behind the opener. -/
theorem begins (h : r.Opened origin opener []) (hopener : opener.kind = s.opener) :
    r.Begins origin s := by
  obtain ⟨before, hrest⟩ := h.rest
  refine ⟨h.passage, h.start_le, before, opener, [], hrest, hopener, .nil, ?_⟩
  rw [previousPosition, h.previous]
  exact .opener

/-- The contents of a silent expression begin behind its at sign. -/
theorem begins_silent (h : r.Opened origin opener [t]) (hopener : opener.kind = .leftParen)
    (ht : t.kind = .at) : r.Begins origin ⟨.leftParen, .rightParen, .all⟩ := by
  obtain ⟨before, hrest⟩ := h.rest
  refine ⟨h.passage, h.start_le, before, opener, [t], hrest, hopener, .neutral ?_ .nil, ?_⟩
  · rw [ht]
    decide
  · rw [previousPosition, h.previous]
    exact .silence rfl ht

end Opened

end Reader

/-! ## Scopes -/

namespace Scan

variable {α β : Type} {fails : ScopeError → Prop} {P Q : α → Reader → Prop}
  {R : β → Reader → Prop} {r origin : Reader} {x y : Scan α}

namespace Passes

theorem pure {a : α} (h : P a r) : Passes fails P (Pure.pure a) r := h

theorem weaken (h : Passes fails P x r) (hPQ : ∀ a r', P a r' → Q a r') : Passes fails Q x r := by
  unfold Passes at h ⊢
  split at h
  · exact hPQ _ _ h
  · exact h

theorem bind {f : α → Scan β} (h : Passes fails P x r)
    (hf : ∀ a r', P a r' → Passes fails R (f a) r') : Passes fails R (x >>= f) r := by
  unfold Passes at h ⊢
  rcases hx : x r with ⟨e | a, r'⟩ <;> rw [hx] at h
  · rw [bind_of_error hx]
    exact h
  · rw [bind_of_ok hx]
    exact hf a r' h

theorem ite {b : Prop} [Decidable b] (hx : b → Passes fails P x r) (hy : ¬b → Passes fails P y r) :
    Passes fails P (if b then x else y) r := by
  split
  · next hb => exact hx hb
  · next hb => exact hy hb

end Passes

theorem explains_body (hs : s.IsBracket) (h : r.Begins origin s) :
    Passes origin.Explains (fun a r' => origin.Keeps [a] r') (body s) r := by
  obtain ⟨k, hk⟩ | ⟨k, e, hk⟩ | ⟨waiting, hawaits⟩ :=
    topLevel_or_clashes_or_awaits hs.mem_pairs h.start_le
  · rw [Passes, body_of_topLevel hs.mem_pairs h.start_le hk]
    exact ⟨h.passage, by simp [Passage.trim, Passage.range, h.passage]⟩
  · rw [Passes, body_of_clashes hs.mem_pairs h.start_le hk]
    obtain ⟨-, t, -, ⟨⟩⟩ := hk
    rintro _ _ _ ⟨⟩
  · rw [Passes, body_of_awaits hs.mem_pairs hawaits]
    obtain ⟨before, opener, head, hrest, hopener, hhead, hq⟩ := h.opener
    obtain ⟨k, c, q, he, hunclosed⟩ :=
      Scope.unclosed_of_awaits hs hrest hopener hhead hq hawaits
    rw [he]
    rintro _ _ _ ⟨⟩
    exact hunclosed

/-- Arguments end, and fail, where the body of the scope would. -/
theorem explains_arguments {separator : TokenKind} (hs : s.IsBracket)
    (hseparator : separator.isNeutral = true) (h : r.Begins origin s) :
    Passes origin.Explains (fun ps r' => origin.Keeps ps r' ∧ ∃ inner t, t.kind = s.closer ∧
      s.Balanced inner ∧ r.Passed (inner ++ [t]) r') (arguments s separator) r := by
  have hneutral := Scope.isNeutral_of_isNeutral hs.mem_pairs hseparator
  obtain ⟨cuts, -, -, heq⟩ := argumentsFrom_eq hs.mem_pairs hneutral h.start_le r.previousPosition
  rw [Passes, arguments, heq]
  obtain ⟨inner, t, more, hrest, ht, hinner⟩ | ⟨inner, t, more, e, hrest, hmismatch⟩ |
    ⟨waiting, hawaits⟩ := Scope.balanced_or_mismatch_or_awaits hs.mem_pairs r.rest
  · have hcut := Scope.cut_of_balanced hs.mem_pairs hinner ht r.previousPosition r.index more
    rw [← hrest] at hcut
    rw [hcut]
    refine ⟨⟨h.passage, fun q hq => ?_⟩, inner, t, ht, hinner, ⟨more, ?_⟩, ?_⟩
    · obtain ⟨a, ha, rfl⟩ := List.mem_map.1 hq
      rw [← h.passage]
      exact (Passage.pattern_of_mem_pieces ha : a.pattern = _)
    · rw [hrest, List.append_assoc]
      rfl
    · simp [Nat.add_assoc]
  · have hcut := Scope.cut_of_mismatch hs.mem_pairs hmismatch r.previousPosition r.index more
    rw [← hrest] at hcut
    rw [hcut]
    obtain ⟨⟩ := hmismatch
    rintro _ _ _ ⟨⟩
  · rw [Scope.cut_of_awaits hs.mem_pairs hawaits]
    obtain ⟨before, opener, head, hrest, hopener, hhead, hq⟩ := h.opener
    obtain ⟨k, c, q, he, hunclosed⟩ :=
      Scope.unclosed_of_awaits hs hrest hopener hhead hq hawaits
    dsimp only
    rw [he]
    rintro _ _ _ ⟨⟩
    exact hunclosed

theorem explains_readItems (h : r.Opened origin opener []) (hopener : opener.kind = .leftCurly) :
    Passes origin.Explains (fun ps r' => origin.Keeps ps r') Block.readItems r :=
  (explains_arguments Block.isBracket_scope rfl (h.begins hopener)).weaken fun _ _ h => h.1

theorem explains_query (h : r.Opened origin opener []) (hopener : opener.kind = .leftAngle) :
    Passes origin.Explains (fun a r' => origin.Keeps [a] r') query r :=
  explains_body ⟨rfl, .inr ⟨rfl, rfl⟩⟩ (h.begins hopener)

/-! ## Single tokens -/

theorem passes_take (kind : TokenKind) : Passes origin.Explains (fun taken r' =>
    if taken then ∃ t, t.kind = kind ∧ r.peek? = some t ∧ r' = r.next else r' = r)
      (take kind) r := by
  unfold Passes take
  cases htake : r.take? kind with
  | none => rfl
  | some r' => exact Reader.exists_of_take? htake

theorem passes_expect (kind : TokenKind) (expected : String) : Passes origin.Explains
    (fun t r' => t.kind = kind ∧ r.peek? = some t ∧ r' = r.next) (expect kind expected) r := by
  unfold Passes expect
  cases hpeek : r.peek? with
  | none => rintro _ _ _ ⟨⟩
  | some t =>
    dsimp only
    by_cases hkind : t.kind = kind
    · rw [if_pos hkind]
      exact ⟨hkind, rfl, rfl⟩
    · rw [if_neg hkind]
      exact nofun

theorem explains_expression (h : r.Opened origin opener []) (hopener : opener.kind = .leftParen) :
    Passes origin.Explains (fun e r' => origin.Keeps [e.2] r') expression r := by
  refine (passes_take .at).bind fun taken r₁ htaken => ?_
  have hbegins : r₁.Begins origin ⟨.leftParen, .rightParen, .all⟩ := by
    cases taken with
    | true =>
      obtain ⟨t, ht, hpeek, rfl⟩ := htaken
      exact (h.next hpeek).begins_silent hopener ht
    | false =>
      obtain rfl : r₁ = r := htaken
      exact h.begins hopener
  exact (explains_body ⟨rfl, .inl rfl⟩ hbegins).bind fun _ _ hkeeps => .pure hkeeps

end Scan

/-! ## Square brackets -/

namespace Reader

open Subroutine (scope isBracket_scope)

variable {r r' origin : Reader}

/-- The reader has come from the opener through tokens among which some openers wait. -/
def Inside (r origin : Reader) (opener : Token) (waiting : List Token) : Prop :=
  ∃ head, scope.Awaits waiting head ∧ r.Opened origin opener head

/-- The token that was read last is a sign behind which contents begin. -/
def BehindSign (r origin : Reader) (opener : Token) (waiting : List Token) : Prop :=
  ∃ head t, scope.Awaits waiting head ∧ t.kind ∈ [.colon, .question, .whitespace] ∧
    r.Opened origin opener (head ++ [t])

theorem balanced_singleton (ht : t.kind.isNeutral = true) : scope.Balanced [t] :=
  .neutral (Scope.isNeutral_of_isNeutral isBracket_scope.mem_pairs ht) .nil

namespace Inside

theorem start_le (h : r.Inside origin opener waiting) : r.passage.start ≤ r.index := by
  obtain ⟨_, -, hopened⟩ := h
  exact hopened.start_le

theorem next (h : r.Inside origin opener waiting) (hpeek : r.peek? = some t)
    (ht : t.kind.isNeutral = true) : r.next.Inside origin opener waiting := by
  obtain ⟨head, hhead, hopened⟩ := h
  exact ⟨_, hhead.append (balanced_singleton ht), hopened.next hpeek⟩

theorem sign (h : r.Inside origin opener waiting) (hpeek : r.peek? = some t)
    (ht : t.kind ∈ [.colon, .question, .whitespace]) : r.next.BehindSign origin opener waiting := by
  obtain ⟨head, hhead, hopened⟩ := h
  exact ⟨head, t, hhead, ht, hopened.next hpeek⟩

theorem open_ (h : r.Inside origin opener waiting) (hpeek : r.peek? = some t)
    (ht : t.kind = .leftSquare) : r.next.Inside origin opener (t :: waiting) := by
  obtain ⟨head, hhead, hopened⟩ := h
  exact ⟨_, .opener hhead (c := .rightSquare) (by rw [ht]; decide) .nil, hopened.next hpeek⟩

theorem close (h : r.Inside origin opener (w :: waiting)) (hpeek : r.peek? = some t)
    (hw : w.kind = .leftSquare) (ht : t.kind = .rightSquare) :
    r.next.Inside origin opener waiting := by
  obtain ⟨head, hhead, hopened⟩ := h
  exact ⟨_, hhead.close (by rw [hw, ht]; decide), hopened.next hpeek⟩

theorem skipSpace (h : r.Inside origin opener waiting) :
    r.skipSpace.Inside origin opener waiting := by
  obtain ⟨head, hhead, hopened⟩ := h
  obtain ⟨blanks, hblanks, hopened⟩ := hopened.skipSpace
  exact ⟨_, hhead.append (Scope.balanced_of_isSpace isBracket_scope.mem_pairs hblanks), hopened⟩

end Inside

namespace BehindSign

theorem isNeutral_of_mem (ht : t.kind ∈ [.colon, .question, .whitespace]) :
    t.kind.isNeutral = true := by
  generalize t.kind = kind at ht
  revert kind
  decide

theorem skipSpace (h : r.BehindSign origin opener waiting) :
    r.skipSpace.BehindSign origin opener waiting := by
  obtain ⟨head, t, hhead, ht, hopened⟩ := h
  obtain ⟨blanks, hblanks, hopened⟩ := hopened.skipSpace
  obtain rfl | ⟨front, b, rfl⟩ := blanks.eq_nil_or_concat'
  · exact ⟨head, t, hhead, ht, by simpa using hopened⟩
  · obtain ⟨hfront, hb⟩ := List.forall_mem_append.1 hblanks
    have hspace : Passage.isSpace b = true := hb b (List.mem_singleton_self b)
    have hkind : b.kind = .whitespace := eq_of_beq hspace
    refine ⟨head ++ [t] ++ front, b, ?_, by simp [hkind], by rwa [List.append_assoc]⟩
    exact (hhead.append (balanced_singleton (isNeutral_of_mem ht))).append
      (Scope.balanced_of_isSpace isBracket_scope.mem_pairs hfront)

/-- Contents begin behind the sign, those of the innermost scope. -/
theorem begins (h : r.BehindSign origin opener waiting) (hopener : opener.kind = .leftSquare)
    (hwaiting : ∀ w ∈ waiting, w.kind = .leftSquare) : r.Begins origin scope := by
  obtain ⟨head, t, hhead, ht, hopened⟩ := h
  obtain ⟨before, hrest⟩ := hopened.rest
  have hprevious : r.previousPosition = t.position := by
    rw [previousPosition, hopened.previous, ← List.cons_append, List.getLast?_concat]
    rfl
  have hsign := balanced_singleton (isNeutral_of_mem ht)
  cases hhead with
  | nothing hbalanced =>
    refine ⟨hopened.passage, hopened.start_le, before, opener, _, hrest, hopener,
      hbalanced.append hsign, ?_⟩
    rw [hprevious, List.append_assoc]
    exact .sign rfl hbalanced ht
  | @opener others outer inner w _ _ _ hinner =>
    refine ⟨hopened.passage, hopened.start_le, before ++ opener :: outer, w, inner ++ [t], ?_,
      hwaiting w List.mem_cons_self, hinner.append hsign, ?_⟩
    · simp [hrest]
    · rw [hprevious, List.append_assoc]
      exact .sign rfl hinner ht

end BehindSign

end Reader

namespace Scan

open Reader

variable {r origin : Reader}

theorem inside_space (h : r.Inside origin opener waiting) :
    Passes origin.Explains (fun _ r' => r'.Inside origin opener waiting) space r := h.skipSpace

theorem inside_nextKind? (h : r.Inside origin opener waiting) :
    Passes origin.Explains (fun _ r' => r'.Inside origin opener waiting) Bracket.nextKind? r := h

theorem inside_take {kind : TokenKind} (hkind : kind.isNeutral = true)
    (h : r.Inside origin opener waiting) : Passes origin.Explains
      (fun _ r' => r'.Inside origin opener waiting) (take kind) r := by
  refine (passes_take kind).weaken fun taken r' htaken => ?_
  cases taken with
  | true =>
    obtain ⟨t, rfl, hpeek, rfl⟩ := htaken
    exact h.next hpeek hkind
  | false =>
    obtain rfl : r' = r := htaken
    exact h

theorem inside_expect {kind : TokenKind} (hkind : kind.isNeutral = true) (expected : String)
    (h : r.Inside origin opener waiting) : Passes origin.Explains
      (fun _ r' => r'.Inside origin opener waiting) (expect kind expected) r := by
  refine (passes_expect kind expected).weaken ?_
  rintro t _ ⟨rfl, hpeek, rfl⟩
  exact h.next hpeek hkind

/-- Behind a sign that was taken, contents may begin. -/
theorem behindSign_take {kind : TokenKind} (hkind : kind ∈ [.colon, .question, .whitespace])
    (h : r.Inside origin opener waiting) : Passes origin.Explains
      (fun taken r' => if taken then r'.BehindSign origin opener waiting
        else r'.Inside origin opener waiting) (take kind) r := by
  refine (passes_take kind).weaken fun taken r' htaken => ?_
  cases taken with
  | true =>
    obtain ⟨t, rfl, hpeek, rfl⟩ := htaken
    exact h.sign hpeek hkind
  | false =>
    obtain rfl : r' = r := htaken
    exact h

theorem behindSign_expect {kind : TokenKind} (hkind : kind ∈ [.colon, .question, .whitespace])
    (expected : String) (h : r.Inside origin opener waiting) : Passes origin.Explains
      (fun _ r' => r'.BehindSign origin opener waiting) (expect kind expected) r := by
  refine (passes_expect kind expected).weaken ?_
  rintro t _ ⟨rfl, hpeek, rfl⟩
  exact h.sign hpeek hkind

theorem behindSign_takeLoose (h : r.Inside origin opener waiting) : Passes origin.Explains
    (fun taken r' => if taken then r'.BehindSign origin opener waiting
      else r'.Inside origin opener waiting) (takeLoose .colon) r := by
  unfold Passes takeLoose
  cases hloose : r.takeLoose? .colon with
  | none => exact h
  | some r' =>
    obtain ⟨r₁, htake, rfl⟩ := Option.map_eq_some_iff.1 hloose
    obtain ⟨t, ht, hpeek, rfl⟩ := exists_of_take? htake
    exact (h.skipSpace.sign hpeek (by rw [ht]; decide)).skipSpace

end Scan

namespace Subroutine

open Scan

variable {r origin : Reader}

theorem explains_readParameters (hopener : opener.kind = .leftSquare) (hw : w.kind = .leftSquare)
    (h : r.Inside origin opener [w]) : Scan.Passes origin.Explains
      (fun _ r' => r'.Inside origin opener []) readParameters r := by
  refine (behindSign_take (by decide) h).bind fun taken r₁ h₁ => ?_
  cases taken with
  | true =>
    have hsign : r₁.BehindSign origin opener [w] := h₁
    have hseparator : TokenKind.semicolon.isNeutral = true := rfl
    refine (explains_arguments isBracket_scope hseparator
      (hsign.begins hopener (by simpa using hw))).bind fun ps r₂ h₂ => .pure ?_
    obtain ⟨head, t, hhead, ht, hopened⟩ := hsign
    obtain ⟨-, inner, closer, hcloser, hinner, hpassed⟩ := h₂
    refine ⟨head ++ [t] ++ (inner ++ [closer]), ?_, hopened.passed hpassed⟩
    rw [← List.append_assoc]
    have hsingle := Reader.balanced_singleton (Reader.BehindSign.isNeutral_of_mem ht)
    exact ((hhead.append hsingle).append hinner).close (by rw [hw, hcloser]; decide)
  | false =>
    refine (passes_expect .rightSquare _).bind fun t r₂ h₂ => .pure ?_
    obtain ⟨ht, hpeek, rfl⟩ := h₂
    exact Reader.Inside.close h₁ hpeek hw ht

theorem explains_readHeader (hopener : opener.kind = .leftSquare)
    (h : r.Inside origin opener []) : Scan.Passes origin.Explains
      (fun _ r' => r'.BehindSign origin opener []) readHeader r := by
  refine (inside_space h).bind fun _ _ h => (passes_expect .leftSquare _).bind fun w _ hw => ?_
  obtain ⟨hw, hpeek, rfl⟩ := hw
  refine (inside_space (h.open_ hpeek hw)).bind fun _ _ h =>
    (inside_expect rfl _ h).bind fun _ _ h => (inside_space h).bind fun _ _ h =>
    (explains_readParameters hopener hw h).bind fun _ _ h =>
    (behindSign_takeLoose h).bind fun taken _ h => ?_
  cases taken with
  | true => exact .pure h
  | false => exact (behindSign_expect (by decide) _ h).bind fun _ _ h => .pure h

end Subroutine

namespace Bracket

open Scan

variable {r origin : Reader}

theorem explains_readArguments (hopener : opener.kind = .leftSquare)
    (h : r.BehindSign origin opener []) :
    Scan.Passes origin.Explains (fun ps r' => origin.Keeps ps r') readArguments r :=
  (explains_arguments Subroutine.isBracket_scope rfl (h.begins hopener nofun)).weaken
    fun _ _ h => h.1

theorem explains_readCall (hopener : opener.kind = .leftSquare) (h : r.Inside origin opener []) :
    Scan.Passes origin.Explains (fun ps r' => origin.Keeps ps r') readCall r := by
  refine (inside_space h).bind fun _ _ h => (behindSign_take (by decide) h).bind fun taken _ h => ?_
  cases taken with
  | true => exact explains_readArguments hopener h
  | false =>
    refine (passes_expect .rightSquare _).bind fun t r₂ h₂ => .pure ?_
    obtain ⟨ht, hpeek, rfl⟩ := h₂
    obtain ⟨head, -, hopened⟩ := h
    exact ⟨hopened.passage, nofun⟩

theorem explains_readReplacement (hopener : opener.kind = .leftSquare)
    (h : r.Inside origin opener []) :
    Scan.Passes origin.Explains (fun ps r' => origin.Keeps ps r') readReplacement r :=
  (inside_space h).bind fun _ _ h => (behindSign_expect (by decide) _ h).bind fun _ _ h =>
    explains_readArguments hopener h

/-- The passages of the brackets are of the pattern that is read. -/
abbrev KeptBy (origin : Reader) (b : Bracket) (r' : Reader) : Prop := origin.Keeps b.passages r'

theorem explains_readDefinition (hopener : opener.kind = .leftSquare) (isMeta : Bool)
    (h : r.Inside origin opener []) :
    Scan.Passes origin.Explains (KeptBy origin) (readDefinition isMeta) r :=
  (Subroutine.explains_readHeader hopener h).bind fun _ _ h =>
    (explains_body Subroutine.isBracket_scope (h.begins hopener nofun)).bind fun _ _ h => .pure h

theorem explains_readSubroutineCall (hopener : opener.kind = .leftSquare)
    (h : r.Inside origin opener []) :
    Scan.Passes origin.Explains (KeptBy origin) readSubroutineCall r :=
  (inside_expect rfl _ h).bind fun _ _ h => (explains_readCall hopener h).bind fun _ _ h => .pure h

theorem explains_readSubroutine (hopener : opener.kind = .leftSquare)
    (h : r.Inside origin opener []) :
    Scan.Passes origin.Explains (KeptBy origin) readSubroutine r :=
  (inside_take rfl h).bind fun _ _ h => (inside_space h).bind fun _ _ h =>
    (inside_nextKind? h).bind fun _ _ h => .ite (fun _ => explains_readDefinition hopener _ h)
      fun _ => explains_readSubroutineCall hopener h

theorem explains_readMetapattern (hopener : opener.kind = .leftSquare)
    (h : r.BehindSign origin opener []) :
    Scan.Passes origin.Explains (KeptBy origin) readMetapattern r :=
  (explains_body Subroutine.isBracket_scope (h.begins hopener nofun)).bind fun _ _ h => .pure h

theorem explains_readReplacer {readReplaced : Scan (List Passage)}
    (hreplaced : ∀ {r : Reader}, r.Inside origin opener [] →
      Scan.Passes origin.Explains (fun ps r' => origin.Keeps ps r') readReplaced r)
    (h : r.Inside origin opener []) :
    Scan.Passes origin.Explains (KeptBy origin) (readReplacer readReplaced) r :=
  (inside_expect rfl _ h).bind fun _ _ h => (hreplaced h).bind fun _ _ h => .pure h

theorem explains_readTag (hopener : opener.kind = .leftSquare) (h : r.Inside origin opener []) :
    Scan.Passes origin.Explains (KeptBy origin) readTag r :=
  (inside_expect rfl _ h).bind fun _ _ h => (explains_readCall hopener h).bind fun _ _ h => .pure h

/-- Square brackets without a closer are named by their opener, or by the sign in front of their
contents. -/
theorem explains_read {readReplaced : Scan (List Passage)}
    (hreplaced : ∀ {r : Reader}, r.Inside origin opener [] →
      Scan.Passes origin.Explains (fun ps r' => origin.Keeps ps r') readReplaced r)
    (hopener : opener.kind = .leftSquare) (h : r.Opened origin opener []) :
    Scan.Passes origin.Explains (KeptBy origin) (read readReplaced) r := by
  have hinside : r.Inside origin opener [] := ⟨[], .nothing .nil, h⟩
  refine (inside_space hinside).bind fun _ _ h => (inside_take rfl h).bind fun _ _ h =>
    .ite (fun _ => explains_readSubroutine hopener h) fun _ =>
    (behindSign_take (by decide) h).bind fun question _ h => ?_
  cases question with
  | true => exact explains_readMetapattern hopener h
  | false =>
    exact (inside_nextKind? h).bind fun _ _ h =>
      .ite (fun _ => explains_readReplacer hreplaced h) fun _ => explains_readTag hopener h

end Bracket

end Wordsmith
