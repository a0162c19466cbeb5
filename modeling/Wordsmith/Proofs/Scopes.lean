import Mathlib.Data.List.DropRight
import Wordsmith.Proofs.Nesting

/-!
# Balanced scopes

A scan goes by a stack of the openers that wait. What it accepts can be told without a stack. Over
the brackets that nest in a scope, its own among them, tokens are balanced if each opener has its
closer behind it and what stands between the two is balanced; all other kinds are neutral. A scope
ends at the closer of its own behind balanced tokens, and there is at most one such closer. Where
there is none, some closer behind tokens whose closers all match does not match the opener that is
innermost there, or the tokens end.

The stack is the witness of this: through balanced tokens it comes back to what it was, whatever it
was, and behind tokens that it gets through it holds the openers that have no closer yet.

Main result: `Scan.body_accepts`.
-/

namespace Wordsmith

variable {s : Scope} {k o c : TokenKind} {t w : Token}
  {waiting waiting' before rest tokens : List Token}

/-! ## Brackets -/

theorem BracketTable.closer?_of_mem {b : BracketTable} (h : (o, c) ∈ b.pairs) :
    b.closer? o = some c := by
  cases b with
  | all =>
    simp only [pairs, List.mem_cons, Prod.mk.injEq, List.not_mem_nil, or_false] at h
    rcases h with ⟨rfl, rfl⟩ | ⟨rfl, rfl⟩ | ⟨rfl, rfl⟩ | ⟨rfl, rfl⟩ <;> rfl
  | angle =>
    obtain ⟨rfl, rfl⟩ := Prod.mk.inj (List.mem_singleton.1 h)
    rfl
  | none => cases h

theorem BracketTable.pairs_subset (b : BracketTable) : b.pairs ⊆ all.pairs := by
  cases b <;> decide

namespace Scope

/-- The brackets that nest in the scope, each opener with its closer: the delimiters of the scope
and the brackets of its table. -/
def pairs (s : Scope) : List (TokenKind × TokenKind) := (s.opener, s.closer) :: s.table.pairs

/-- The kind is no bracket that nests in the scope. -/
def IsNeutral (s : Scope) (k : TokenKind) : Prop := ∀ pair ∈ s.pairs, k ≠ pair.1 ∧ k ≠ pair.2

instance : Decidable (s.IsNeutral k) :=
  inferInstanceAs (Decidable (∀ pair ∈ s.pairs, k ≠ pair.1 ∧ k ≠ pair.2))

/-- Every opener has its closer behind it, with balanced tokens between the two. -/
inductive Balanced (s : Scope) : List Token → Prop
  | nil : Balanced s []
  | neutral {t : Token} {rest : List Token} (ht : s.IsNeutral t.kind) (hrest : Balanced s rest) :
    Balanced s (t :: rest)
  | pair {w t : Token} {inner rest : List Token} (hpair : (w.kind, t.kind) ∈ s.pairs)
    (hinner : Balanced s inner) (hrest : Balanced s rest) : Balanced s (w :: inner ++ t :: rest)

/-- Some openers among the tokens wait, the innermost first: the tokens behind each of them are
balanced up to the next one. -/
inductive Awaits (s : Scope) : List Token → List Token → Prop
  | nothing {tokens : List Token} (h : s.Balanced tokens) : Awaits s [] tokens
  | opener {waiting before inner : List Token} {w : Token} {c : TokenKind}
    (hbefore : Awaits s waiting before) (hw : (w.kind, c) ∈ s.pairs) (hinner : s.Balanced inner) :
    Awaits s (w :: waiting) (before ++ w :: inner)

/-- The opener that the next closer must match: the innermost that waits, or that of the scope. -/
def innermost (s : Scope) (waiting : List Token) : TokenKind :=
  (waiting.head?.map (·.kind)).getD s.opener

/-- A token behind others is the first closer that does not match its innermost opener, and the
error says so. -/
inductive Mismatch (s : Scope) : List Token → Token → ScopeError → Prop
  | intro {waiting before : List Token} {t : Token} {o c : TokenKind}
    (hbefore : s.Awaits waiting before) (hcloses : (o, t.kind) ∈ s.pairs)
    (hexpected : (s.innermost waiting, c) ∈ s.pairs) (hne : t.kind ≠ c) :
    Mismatch s before t (.mismatched (s.innermost waiting) t.kind c t.position)

theorem opens_iff : s.opens k = true ↔ ∃ c, (k, c) ∈ s.pairs := by
  simp [opens, BracketTable.opens, pairs, exists_or]

theorem closes_iff : s.closes k = true ↔ ∃ o, (o, k) ∈ s.pairs := by
  simp [closes, BracketTable.closes, pairs, exists_or]

theorem isNeutral_iff : s.IsNeutral k ↔ s.opens k = false ∧ s.closes k = false := by
  rw [← Bool.not_eq_true, ← Bool.not_eq_true, opens_iff, closes_iff]
  constructor
  · exact fun h => ⟨fun ⟨c, hc⟩ => (h _ hc).1 rfl, fun ⟨o, ho⟩ => (h _ ho).2 rfl⟩
  · rintro ⟨hopens, hcloses⟩ ⟨o, c⟩ hpair
    exact ⟨fun hk => hopens ⟨c, hk ▸ hpair⟩, fun hk => hcloses ⟨o, hk ▸ hpair⟩⟩

section Bracket

variable (hs : (s.opener, s.closer) ∈ BracketTable.all.pairs)

include hs

theorem closer?_of_mem (h : (o, c) ∈ s.pairs) : o.closer? = some c := by
  refine BracketTable.closer?_of_mem ?_
  rcases List.mem_cons.1 h with heq | hmem
  · exact heq ▸ hs
  · exact s.table.pairs_subset hmem

theorem closerOf_of_mem (h : (o, c) ∈ s.pairs) : s.closerOf o = c := by
  unfold closerOf
  split
  · next heq =>
    subst heq
    have hown := closer?_of_mem hs List.mem_cons_self
    exact Option.some.inj (hown.symm.trans (closer?_of_mem hs h))
  · next hne =>
    rcases List.mem_cons.1 h with heq | hmem
    · exact absurd (Prod.mk.inj heq).1 hne
    · rw [BracketTable.closer?_of_mem hmem]
      rfl

/-- No opener is a closer as well. -/
theorem opens_of_closes (h : (o, k) ∈ s.pairs) : s.opens k = false := by
  rw [← Bool.not_eq_true, opens_iff]
  rintro ⟨c, hc⟩
  have hcloser := TokenKind.isCloser_of_closer? (closer?_of_mem hs h)
  cases (TokenKind.closer?_of_isCloser hcloser).symm.trans (closer?_of_mem hs hc)

/-- A kind that is no bracket of any family is neutral in every scope. -/
theorem isNeutral_of_isNeutral (h : k.isNeutral = true) : s.IsNeutral k := by
  obtain ⟨hnone, hfalse⟩ := TokenKind.isNeutral_iff.1 h
  rintro ⟨o, c⟩ hpair
  have hcloser := closer?_of_mem hs hpair
  constructor
  · rintro rfl
    cases hnone.symm.trans hcloser
  · rintro rfl
    cases hfalse.symm.trans (TokenKind.isCloser_of_closer? hcloser)

end Bracket

/-! ## One token -/

/-- What a token does to the openers that wait: it leaves them as they are, it is one more of them,
it matches the innermost of them, it ends the scope, or it is a closer that does not match. -/
inductive Feeds (s : Scope) :
    List Token → Token → Except ScopeError (Option (List Token)) → Prop
  | neutral {waiting : List Token} {t : Token} (h : s.IsNeutral t.kind) :
    Feeds s waiting t (.ok (some waiting))
  | opener {waiting : List Token} {t : Token} {c : TokenKind} (h : (t.kind, c) ∈ s.pairs) :
    Feeds s waiting t (.ok (some (t :: waiting)))
  | closer {waiting : List Token} {w t : Token} (h : (w.kind, t.kind) ∈ s.pairs) :
    Feeds s (w :: waiting) t (.ok (some waiting))
  | ends {t : Token} (h : t.kind = s.closer) : Feeds s [] t (.ok none)
  | mismatch {waiting : List Token} {t : Token} {o c : TokenKind} (hcloses : (o, t.kind) ∈ s.pairs)
    (hexpected : (s.innermost waiting, c) ∈ s.pairs) (hne : t.kind ≠ c) :
    Feeds s waiting t (.error (.mismatched (s.innermost waiting) t.kind c t.position))

section Bracket

variable (hs : (s.opener, s.closer) ∈ BracketTable.all.pairs)

include hs

theorem Feeds.feed_eq {x : Except ScopeError (Option (List Token))} (h : s.Feeds waiting t x) :
    s.feed waiting t = x := by
  cases h with
  | neutral h =>
    obtain ⟨hopens, hcloses⟩ := isNeutral_iff.1 h
    unfold feed
    rw [hopens, hcloses]
    rfl
  | opener h =>
    unfold feed
    rw [if_pos (opens_iff.2 ⟨_, h⟩)]
  | closer h =>
    unfold feed
    rw [opens_of_closes hs h, closes_iff.2 ⟨_, h⟩]
    exact if_pos (closerOf_of_mem hs h)
  | ends h =>
    have hown : (s.opener, t.kind) ∈ s.pairs := h ▸ List.mem_cons_self
    unfold feed
    rw [opens_of_closes hs hown, closes_iff.2 ⟨_, hown⟩]
    exact if_pos h
  | mismatch hcloses hexpected hne =>
    have hclosing := closerOf_of_mem hs hexpected
    unfold feed
    rw [opens_of_closes hs hcloses, closes_iff.2 ⟨_, hcloses⟩]
    cases waiting with
    | nil =>
      have hown : s.closer = _ := (closerOf_of_mem hs List.mem_cons_self).symm.trans hclosing
      subst hown
      exact if_neg hne
    | cons w waiting =>
      have hown : s.closerOf w.kind = _ := hclosing
      subst hown
      exact if_neg (Ne.symm hne)

/-- There is nothing else that a token does, if what waits are openers. -/
theorem feeds (hwaiting : ∀ w ∈ waiting, ∃ c, (w.kind, c) ∈ s.pairs) (t : Token) :
    s.Feeds waiting t (s.feed waiting t) := by
  suffices h : ∃ x, s.Feeds waiting t x by
    obtain ⟨x, hx⟩ := h
    exact (hx.feed_eq hs).symm ▸ hx
  by_cases hopens : s.opens t.kind = true
  · obtain ⟨c, hc⟩ := opens_iff.1 hopens
    exact ⟨_, .opener hc⟩
  by_cases hcloses : s.closes t.kind = true
  · obtain ⟨o, ho⟩ := closes_iff.1 hcloses
    cases waiting with
    | nil =>
      by_cases hown : t.kind = s.closer
      · exact ⟨_, .ends hown⟩
      · exact ⟨_, .mismatch ho List.mem_cons_self hown⟩
    | cons w waiting =>
      obtain ⟨c, hc⟩ := hwaiting w List.mem_cons_self
      by_cases hfits : t.kind = c
      · exact ⟨_, .closer (hfits ▸ hc)⟩
      · exact ⟨_, .mismatch ho hc hfits⟩
  · exact ⟨_, .neutral (isNeutral_iff.2 ⟨eq_false_of_ne_true hopens, eq_false_of_ne_true hcloses⟩)⟩

end Bracket

/-! ## Rows of tokens -/

/-- The openers that wait behind some tokens, if none of these ends the scope or does not match. -/
def through (s : Scope) : List Token → List Token → Option (List Token)
  | waiting, [] => some waiting
  | waiting, t :: rest =>
    match s.feed waiting t with
    | .ok (some waiting) => s.through waiting rest
    | _ => none

theorem through_cons (h : s.feed waiting t = .ok (some waiting')) :
    s.through waiting (t :: rest) = s.through waiting' rest := by
  rw [through, h]

theorem through_append (h : s.through waiting before = some waiting') (rest : List Token) :
    s.through waiting (before ++ rest) = s.through waiting' rest := by
  induction before generalizing waiting with
  | nil =>
    cases h
    rfl
  | cons t before ih =>
    rw [List.cons_append, through]
    rw [through] at h
    split at h
    · next hfeed => exact ih h
    · cases h

/-- A scan that gets through tokens gets through the first of them. -/
theorem exists_through_of_append (h : s.through waiting (before ++ rest) = some waiting') :
    ∃ middle, s.through waiting before = some middle ∧ s.through middle rest = some waiting' := by
  induction before generalizing waiting with
  | nil => exact ⟨waiting, rfl, h⟩
  | cons t before ih =>
    rw [List.cons_append, through] at h
    rw [through]
    split at h
    · next hfeed => exact ih h
    · cases h

/-- A scan gets through tokens, or there is a first one among them that it does not get past. -/
theorem through_or_stops (s : Scope) (waiting tokens : List Token) :
    (∃ waiting', s.through waiting tokens = some waiting') ∨
      ∃ before t rest waiting', tokens = before ++ t :: rest ∧
        s.through waiting before = some waiting' ∧
        (s.feed waiting' t = .ok none ∨ ∃ e, s.feed waiting' t = .error e) := by
  induction tokens generalizing waiting with
  | nil => exact .inl ⟨waiting, rfl⟩
  | cons t tokens ih =>
    cases hfeed : s.feed waiting t with
    | error e => exact .inr ⟨[], t, tokens, waiting, rfl, rfl, .inr ⟨e, hfeed⟩⟩
    | ok fed =>
      cases fed with
      | none => exact .inr ⟨[], t, tokens, waiting, rfl, rfl, .inl hfeed⟩
      | some next =>
        rcases ih next with ⟨waiting', h⟩ | ⟨before, u, rest, waiting', rfl, h, hstops⟩
        · exact .inl ⟨waiting', (through_cons hfeed).trans h⟩
        · exact .inr ⟨t :: before, u, rest, waiting', rfl, (through_cons hfeed).trans h, hstops⟩

theorem Balanced.append (h : s.Balanced before) (hrest : s.Balanced rest) :
    s.Balanced (before ++ rest) := by
  induction h with
  | nil => exact hrest
  | neutral ht _ ih => exact .neutral ht ih
  | pair hpair hinner _ _ ih =>
    rw [List.append_assoc, List.cons_append]
    exact .pair hpair hinner ih

namespace Awaits

theorem append (h : s.Awaits waiting before) (hrest : s.Balanced rest) :
    s.Awaits waiting (before ++ rest) := by
  cases h with
  | nothing hbalanced => exact .nothing (hbalanced.append hrest)
  | opener hbefore hw hinner =>
    rw [List.append_assoc, List.cons_append]
    exact .opener hbefore hw (hinner.append hrest)

/-- The closer of the innermost opener. -/
theorem close (h : s.Awaits (w :: waiting) before) (hpair : (w.kind, t.kind) ∈ s.pairs) :
    s.Awaits waiting (before ++ [t]) := by
  cases h with
  | opener hbefore _ hinner =>
    rw [List.append_assoc]
    exact hbefore.append (.pair hpair hinner .nil)

theorem balanced (h : s.Awaits [] tokens) : s.Balanced tokens := by
  cases h with
  | nothing h => exact h

theorem opens (h : s.Awaits waiting tokens) : ∀ w ∈ waiting, ∃ c, (w.kind, c) ∈ s.pairs := by
  induction h with
  | nothing => simp
  | opener _ hw _ ih => exact List.forall_mem_cons.2 ⟨⟨_, hw⟩, ih⟩

end Awaits

section Bracket

variable (hs : (s.opener, s.closer) ∈ BracketTable.all.pairs)

include hs

/-- Through balanced tokens a scan comes back to the openers that it had. -/
theorem Balanced.through (h : s.Balanced tokens) (waiting : List Token) :
    s.through waiting tokens = some waiting := by
  induction h generalizing waiting with
  | nil => rfl
  | neutral ht _ ih => exact (through_cons ((Feeds.neutral ht).feed_eq hs)).trans (ih waiting)
  | pair hpair _ _ ihinner ihrest =>
    rw [List.cons_append, through_cons ((Feeds.opener hpair).feed_eq hs),
      through_append (ihinner _), through_cons ((Feeds.closer hpair).feed_eq hs)]
    exact ihrest waiting

theorem Awaits.through (h : s.Awaits waiting tokens) : s.through [] tokens = some waiting := by
  induction h with
  | nothing h => exact h.through hs []
  | opener _ hw hinner ih =>
    rw [through_append ih, through_cons ((Feeds.opener hw).feed_eq hs)]
    exact hinner.through hs _

/-- A scan knows the openers that wait behind the tokens that it gets through. -/
theorem awaits_iff : s.Awaits waiting tokens ↔ s.through [] tokens = some waiting := by
  refine ⟨Awaits.through hs, fun h => ?_⟩
  -- from the end: the last token acts on the openers that wait behind those before it
  induction tokens using List.reverseRecOn generalizing waiting with
  | nil =>
    cases h
    exact .nothing .nil
  | append_singleton before t ih =>
    obtain ⟨middle, hbefore, hlast⟩ := exists_through_of_append h
    have hawaits := ih hbefore
    have hfeeds := feeds hs hawaits.opens t
    rw [Scope.through] at hlast
    split at hlast
    · next waiting' hfeed =>
      cases hlast
      rw [hfeed] at hfeeds
      cases hfeeds with
      | neutral ht => exact hawaits.append (.neutral ht .nil)
      | opener hpair => exact .opener hawaits hpair .nil
      | closer hpair => exact hawaits.close hpair
    · cases hlast

theorem balanced_iff : s.Balanced tokens ↔ s.through [] tokens = some [] := by
  rw [← awaits_iff hs]
  exact ⟨.nothing, Awaits.balanced⟩

theorem Balanced.of_append_left (h : s.Balanced (before ++ rest)) (hbefore : s.Balanced before) :
    s.Balanced rest := by
  rw [balanced_iff hs, through_append (hbefore.through hs [])] at h
  exact (balanced_iff hs).2 h

theorem Balanced.of_append_right (h : s.Balanced (before ++ rest)) (hrest : s.Balanced rest) :
    s.Balanced before := by
  obtain ⟨middle, hbefore, hmiddle⟩ := exists_through_of_append ((balanced_iff hs).1 h)
  rw [hrest.through hs] at hmiddle
  exact (balanced_iff hs).2 (hbefore.trans hmiddle)

theorem balanced_of_isSpace (h : ∀ t ∈ tokens, Passage.isSpace t = true) : s.Balanced tokens := by
  induction tokens with
  | nil => exact .nil
  | cons t tokens ih =>
    obtain ⟨ht, htokens⟩ := List.forall_mem_cons.1 h
    exact .neutral (isNeutral_of_isNeutral hs (TokenKind.isNeutral_of_isSpace ht)) (ih htokens)

end Bracket

/-! ## Scans -/

/-- No separator stands among the tokens where nothing waits. -/
def Unsplit (s : Scope) (separator : Option TokenKind) (waiting tokens : List Token) : Prop :=
  ∀ before t rest, tokens = before ++ t :: rest → s.through waiting before = some [] →
    separator ≠ some t.kind

theorem unsplit_none : s.Unsplit none waiting tokens := by simp [Unsplit]

/-- Whether a separator stands behind the first token depends on what that does to the stack. -/
theorem unsplit_cons {separator : Option TokenKind} : s.Unsplit separator waiting (t :: tokens) ↔
    ¬(waiting = [] ∧ separator = some t.kind) ∧
      ∀ next, s.feed waiting t = .ok (some next) → s.Unsplit separator next tokens := by
  constructor
  · refine fun h => ⟨fun ⟨hnil, hsome⟩ => h [] t tokens rfl (congrArg some hnil) hsome, ?_⟩
    intro next hfeed before u rest htokens hbefore
    exact h (t :: before) u rest (htokens ▸ rfl) ((through_cons hfeed).trans hbefore)
  · rintro ⟨hhere, hbehind⟩ before u rest htokens hbefore
    cases before with
    | nil =>
      cases htokens
      exact fun hsome => hhere ⟨Option.some.inj hbefore, hsome⟩
    | cons v before =>
      cases htokens
      rw [through] at hbefore
      split at hbefore
      · next next hfeed => exact hbehind next hfeed before u rest rfl hbefore
      · cases hbefore

/-- A scan goes on behind tokens that it gets through. -/
theorem cut_append_of_through {separator : Option TokenKind}
    (h : s.through waiting before = some waiting') (hunsplit : s.Unsplit separator waiting before)
    (p : Position) (i : Nat) (rest : List Token) :
    s.cut separator p waiting i (before ++ rest) =
      s.cut separator p waiting' (i + before.length) rest := by
  induction before generalizing waiting i with
  | nil =>
    cases h
    rfl
  | cons t before ih =>
    obtain ⟨hgoes, hbehind⟩ := unsplit_cons.1 hunsplit
    rw [through] at h
    rw [List.cons_append, cut, if_neg hgoes]
    split at h
    · next next hfeed =>
      rw [hfeed]
      dsimp only
      rw [ih h (hbehind next hfeed), List.length_cons, Nat.add_right_comm, Nat.add_assoc]
    · cases h

section Bracket

variable (hs : (s.opener, s.closer) ∈ BracketTable.all.pairs)

include hs

theorem cut_of_balanced (h : s.Balanced before) (ht : t.kind = s.closer) (p : Position) (i : Nat)
    (rest : List Token) :
    s.cut none p [] i (before ++ t :: rest) = ⟨.ok .closed, i + before.length⟩ := by
  rw [cut_append_of_through (h.through hs []) unsplit_none, cut, if_neg (by simp),
    (Feeds.ends ht).feed_eq hs]

theorem cut_of_mismatch {e : ScopeError} (h : s.Mismatch before t e) (p : Position) (i : Nat)
    (rest : List Token) :
    s.cut none p [] i (before ++ t :: rest) = ⟨.error e, i + before.length⟩ := by
  cases h with
  | intro hbefore hcloses hexpected hne =>
    rw [cut_append_of_through (hbefore.through hs) unsplit_none, cut, if_neg (by simp),
      (Feeds.mismatch hcloses hexpected hne).feed_eq hs]

theorem cut_of_awaits (h : s.Awaits waiting tokens) (p : Position) (i : Nat) :
    s.cut none p [] i tokens = ⟨.error (s.unterminated p waiting), i + tokens.length⟩ := by
  rw [← List.append_nil tokens, cut_append_of_through (h.through hs) unsplit_none,
    List.append_nil, cut]

/-- Tokens hold the closer of the scope behind balanced ones, or a closer that does not match, or
else openers wait at their end. -/
theorem balanced_or_mismatch_or_awaits (tokens : List Token) :
    (∃ before t rest, tokens = before ++ t :: rest ∧ t.kind = s.closer ∧ s.Balanced before) ∨
      (∃ before t rest e, tokens = before ++ t :: rest ∧ s.Mismatch before t e) ∨
      ∃ waiting, s.Awaits waiting tokens := by
  obtain ⟨waiting, h⟩ | ⟨before, t, rest, waiting, htokens, hbefore, hstops⟩ :=
    s.through_or_stops [] tokens
  · exact .inr (.inr ⟨waiting, (awaits_iff hs).2 h⟩)
  · have hawaits := (awaits_iff hs).2 hbefore
    have hfeeds := feeds hs hawaits.opens t
    generalize s.feed waiting t = x at *
    cases hfeeds with
    | ends hkind => exact .inl ⟨before, t, rest, htokens, hkind, hawaits.balanced⟩
    | mismatch hcloses hexpected hne =>
      exact .inr (.inl ⟨before, t, rest, _, htokens, .intro hawaits hcloses hexpected hne⟩)
    | neutral | opener | closer => simp at hstops

end Bracket

end Scope

/-! ## Readers -/

/-- Tokens without the blanks at their edges. -/
def unpadded (tokens : List Token) : List Token :=
  (tokens.dropWhile Passage.isSpace).rdropWhile Passage.isSpace

/-- Blanks at the edges are no brackets. -/
theorem Scope.Balanced.unpadded (hs : (s.opener, s.closer) ∈ BracketTable.all.pairs)
    (h : s.Balanced tokens) : s.Balanced (unpadded tokens) := by
  have hfront : s.Balanced (tokens.dropWhile Passage.isSpace) := by
    rw [← List.takeWhile_append_dropWhile (p := Passage.isSpace) (l := tokens)] at h
    exact h.of_append_left hs (balanced_of_isSpace hs fun t ht => List.mem_takeWhile_imp ht)
  have hparts := List.rdropWhile_append_rtakeWhile (p := Passage.isSpace)
    (l := tokens.dropWhile Passage.isSpace)
  rw [← hparts] at hfront
  exact hfront.of_append_right hs (balanced_of_isSpace hs fun t ht => List.mem_rtakeWhile_imp ht)

theorem Passage.tokens_trim {p : Passage} (h : p.Fits) : p.trim.tokens = unpadded p.tokens := by
  obtain ⟨lead, trail, htokens, hlead, htrail, -, -, hunpadded⟩ := trim_tokens h
  rw [unpadded, htokens]
  exact (trim_append hlead htrail hunpadded.head hunpadded.last).symm

namespace Reader

variable {r : Reader} {k : Nat}

/-- The tokens from the next one to an index are the first of those that are left. -/
theorem tokens_range (hstart : r.passage.start ≤ r.index) (k : Nat) :
    (r.passage.range r.index k).tokens = r.rest.take (k - r.index) := by
  rw [rest_eq_take hstart, List.take_take, Passage.tokens_eq]
  simp only [Passage.range]
  by_cases hle : r.index ≤ r.passage.stop
  · have hfirst : min (max r.index r.passage.start) r.passage.stop = r.index := by omega
    rw [hfirst]
    congr 1
    omega
  · have hnone : r.passage.stop - r.index = 0 := by omega
    rw [hnone, Nat.min_zero, List.take_zero]
    exact List.take_eq_nil_iff.2 (.inl (by omega))

theorem token?_eq (hstart : r.passage.start ≤ r.index) (hle : r.index ≤ k) :
    r.passage.token? k = r.rest[k - r.index]? := by
  rw [rest_eq_take hstart, List.getElem?_take, List.getElem?_drop, Nat.add_sub_cancel' hle,
    Array.getElem?_toList, Passage.token?]
  exact if_congr (by omega) rfl rfl

/-- What stands before a token and behind it, of the tokens that are left. -/
theorem rest_eq_append (hstart : r.passage.start ≤ r.index) (hle : r.index ≤ k)
    (ht : r.passage.token? k = some t) :
    r.rest = (r.passage.range r.index k).tokens ++ t :: Reader.rest { r with index := k + 1 } ∧
      r.index + (r.passage.range r.index k).tokens.length = k := by
  rw [token?_eq hstart hle] at ht
  obtain ⟨hlt, rfl⟩ := List.getElem?_eq_some_iff.1 ht
  have hbehind := rest_drop hstart (k - r.index + 1)
  rw [← Nat.add_assoc, Nat.add_sub_cancel' hle] at hbehind
  rw [hbehind, tokens_range hstart]
  constructor
  · rw [← List.drop_eq_getElem_cons hlt, List.take_append_drop]
  · rw [List.length_take, Nat.min_eq_left (Nat.le_of_lt hlt), Nat.add_sub_cancel' hle]

theorem token?_of_rest (hstart : r.passage.start ≤ r.index) (h : r.rest = before ++ t :: rest) :
    r.passage.token? (r.index + before.length) = some t ∧
      (r.passage.range r.index (r.index + before.length)).tokens = before := by
  rw [token?_eq hstart (Nat.le_add_right ..), tokens_range hstart, Nat.add_sub_cancel_left, h]
  exact ⟨by simp, List.take_left⟩

theorem fits_range (hstart : r.passage.start ≤ r.index) (hle : r.index ≤ k)
    (ht : r.passage.token? k = some t) : (r.passage.range r.index k).Fits := by
  have hlt : k < r.passage.stop := by
    by_contra hge
    rw [Passage.token?, if_neg (by omega)] at ht
    cases ht
  have hsize : k < r.passage.pattern.tokens.size := by
    rw [Passage.token?, if_pos ⟨by omega, hlt⟩] at ht
    exact (Array.getElem?_eq_some_iff.1 ht).1
  rw [range_eq hstart hle (Nat.le_of_lt hlt)]
  exact ⟨hle, Nat.le_of_lt hsize⟩

/-- A token of the kind stands at the index outside of all brackets: what stands before it, from the
next token on, is balanced. -/
structure TopLevel (r : Reader) (s : Scope) (kind : TokenKind) (k : Nat) : Prop where
  le : r.index ≤ k
  kind : (r.passage.token? k).map (·.kind) = some kind
  balanced : s.Balanced (r.passage.range r.index k).tokens

theorem TopLevel.fits {kind : TokenKind} (h : r.TopLevel s kind k)
    (hstart : r.passage.start ≤ r.index) : (r.passage.range r.index k).Fits := by
  obtain ⟨t, ht, -⟩ := Option.map_eq_some_iff.1 h.kind
  exact fits_range hstart h.le ht

/-- The token at the index is the first closer that does not match its innermost opener. -/
def Clashes (r : Reader) (s : Scope) (k : Nat) (e : ScopeError) : Prop :=
  r.index ≤ k ∧ ∃ t, r.passage.token? k = some t ∧
    s.Mismatch (r.passage.range r.index k).tokens t e

end Reader

namespace Scan

section Bracket

variable {r : Reader} {k : Nat} (hs : (s.opener, s.closer) ∈ BracketTable.all.pairs)

include hs

/-- A scope lasts up to the closer of its own that stands outside of all brackets. -/
theorem body_of_topLevel (hstart : r.passage.start ≤ r.index) (h : r.TopLevel s s.closer k) :
    body s r = (.ok (r.passage.range r.index k).trim, { r with index := k + 1 }) := by
  obtain ⟨t, ht, hkind⟩ := Option.map_eq_some_iff.1 h.kind
  obtain ⟨hrest, hk⟩ := Reader.rest_eq_append hstart h.le ht
  have hcut : s.cut none r.previousPosition [] r.index r.rest = ⟨.ok .closed, k⟩ := by
    rw [hrest, Scope.cut_of_balanced hs h.balanced hkind, hk]
  simp only [body, hcut]

theorem body_of_clashes (hstart : r.passage.start ≤ r.index) {e : ScopeError}
    (h : r.Clashes s k e) : body s r = (.error e, { r with index := k }) := by
  obtain ⟨hle, t, ht, hmismatch⟩ := h
  obtain ⟨hrest, hk⟩ := Reader.rest_eq_append hstart hle ht
  have hcut : s.cut none r.previousPosition [] r.index r.rest = ⟨.error e, k⟩ := by
    rw [hrest, Scope.cut_of_mismatch hs hmismatch, hk]
  simp only [body, hcut]

theorem body_of_awaits (h : s.Awaits waiting r.rest) :
    body s r = (.error (s.unterminated r.previousPosition waiting),
      { r with index := r.index + r.rest.length }) := by
  simp only [body, Scope.cut_of_awaits hs h]

/-- A scope ends, or a closer in it does not match, or its tokens end. -/
theorem topLevel_or_clashes_or_awaits (hstart : r.passage.start ≤ r.index) :
    (∃ k, r.TopLevel s s.closer k) ∨ (∃ k e, r.Clashes s k e) ∨
      ∃ waiting, s.Awaits waiting r.rest := by
  obtain ⟨before, t, rest, hrest, hkind, hbalanced⟩ | ⟨before, t, rest, e, hrest, hmismatch⟩ | h :=
    Scope.balanced_or_mismatch_or_awaits hs r.rest
  · obtain ⟨ht, htokens⟩ := Reader.token?_of_rest hstart hrest
    refine .inl ⟨_, Nat.le_add_right _ before.length, ?_, htokens.symm ▸ hbalanced⟩
    rw [ht, ← hkind]
    rfl
  · obtain ⟨ht, htokens⟩ := Reader.token?_of_rest hstart hrest
    exact .inr (.inl ⟨_, e, Nat.le_add_right _ before.length, t, ht, htokens.symm ▸ hmismatch⟩)
  · exact .inr (.inr h)

theorem exists_topLevel_of_body (hstart : r.passage.start ≤ r.index) {a : Passage} {r' : Reader}
    (h : body s r = (.ok a, r')) :
    ∃ k, r.TopLevel s s.closer k ∧ r' = { r with index := k + 1 } := by
  obtain ⟨k, hk⟩ | ⟨k, e, hk⟩ | ⟨waiting, hk⟩ := topLevel_or_clashes_or_awaits hs hstart
  · exact ⟨k, hk, (Prod.mk.inj (h.symm.trans (body_of_topLevel hs hstart hk))).2⟩
  · cases h.symm.trans (body_of_clashes hs hstart hk)
  · cases h.symm.trans (body_of_awaits hs hk)

/-- Scopes are found where they are balanced: up to the one closer of the scope behind balanced
tokens, without the blanks at the edges, and the reader stops behind that closer. Otherwise the
first closer that does not match its innermost opener is the error, and if there is none, the scope
or the innermost opener that waits at the end has no closer. -/
theorem body_accepts (hstart : r.passage.start ≤ r.index) :
    ((∃ p r', body s r = (.ok p, r')) ↔ ∃ k, r.TopLevel s s.closer k) ∧
      (∀ k, r.TopLevel s s.closer k → (∀ j, r.TopLevel s s.closer j → j = k) ∧
        ∃ p, body s r = (.ok p, { r with index := k + 1 }) ∧ p.pattern = r.passage.pattern ∧
          p.tokens = unpadded (r.passage.range r.index k).tokens) ∧
      (∀ k e, r.Clashes s k e → body s r = (.error e, { r with index := k })) ∧
      ((∀ k, ¬r.TopLevel s s.closer k) → (∀ k e, ¬r.Clashes s k e) →
        ∃ waiting, s.Awaits waiting r.rest ∧
          body s r = (.error (s.unterminated r.previousPosition waiting),
            { r with index := r.index + r.rest.length })) := by
  refine ⟨⟨?_, fun ⟨k, h⟩ => ⟨_, _, body_of_topLevel hs hstart h⟩⟩, fun k h => ⟨fun j hj => ?_, ?_⟩,
    fun k e h => body_of_clashes hs hstart h, fun hnone hclash => ?_⟩
  · rintro ⟨p, r', hbody⟩
    obtain ⟨k, hk, -⟩ := exists_topLevel_of_body hs hstart hbody
    exact ⟨k, hk⟩
  · have hsame := (body_of_topLevel hs hstart hj).symm.trans (body_of_topLevel hs hstart h)
    exact Nat.succ.inj (congrArg (·.2.index) hsame)
  · exact ⟨_, body_of_topLevel hs hstart h, rfl, Passage.tokens_trim (h.fits hstart)⟩
  · obtain ⟨k, h⟩ | ⟨k, e, h⟩ | ⟨waiting, h⟩ := topLevel_or_clashes_or_awaits hs hstart
    · exact absurd h (hnone k)
    · exact absurd h (hclash k e)
    · exact ⟨waiting, h, body_of_awaits hs h⟩

end Bracket

/-- A pattern with a scope in which a bracket nests, and with more behind it. -/
def bracketed : Pattern where
  name := "bracketed"
  code := "[<a> ]>"
  tokens := #[⟨.leftSquare, "[", ⟨1, 1, 0⟩⟩, ⟨.leftAngle, "<", ⟨1, 2, 1⟩⟩, ⟨.text, "a", ⟨1, 3, 2⟩⟩,
    ⟨.rightAngle, ">", ⟨1, 4, 3⟩⟩, ⟨.whitespace, " ", ⟨1, 5, 4⟩⟩, ⟨.rightSquare, "]", ⟨1, 6, 5⟩⟩,
    ⟨.rightAngle, ">", ⟨1, 7, 6⟩⟩]
  tokenize_code := by with_unfolding_all rfl

/-- The scope behind the first token is accepted, and what begins behind it is not. -/
theorem body_accepts_bracketed :
    let s : Scope := ⟨.leftSquare, .rightSquare, .angle⟩
    (∃ p, body s ⟨bracketed.passage, 1⟩ = (.ok p, ⟨bracketed.passage, 6⟩) ∧
      p.tokens.map (·.kind) = [.leftAngle, .text, .rightAngle]) ∧
    (body s ⟨bracketed.passage, 6⟩).1 =
      .error (.mismatched .leftSquare .rightAngle .rightSquare ⟨1, 7, 6⟩) := by
  intro s
  have hs : (s.opener, s.closer) ∈ BracketTable.all.pairs := by decide
  have hbalanced : s.Balanced (bracketed.passage.range 1 5).tokens :=
    @Scope.Balanced.pair s _ _ [_] _ (by decide) (.neutral (by decide) .nil)
      (.neutral (by decide) .nil)
  have hclashes : Reader.Clashes ⟨bracketed.passage, 6⟩ s 6
      (.mismatched .leftSquare .rightAngle .rightSquare ⟨1, 7, 6⟩) :=
    ⟨Nat.le_refl 6, _, rfl, .intro (.nothing .nil) (o := .leftAngle) (by decide) (by decide)
      (by decide)⟩
  have haccepts := body_accepts hs (r := ⟨bracketed.passage, 1⟩) (by decide)
  have hrefuses := body_accepts hs (r := ⟨bracketed.passage, 6⟩) (by decide)
  obtain ⟨-, p, hbody, -, htokens⟩ := haccepts.2.1 5 ⟨by decide, rfl, hbalanced⟩
  refine ⟨⟨p, hbody, ?_⟩, ?_⟩
  · rw [htokens]
    rfl
  · rw [hrefuses.2.2.1 6 _ hclashes]

end Scan

end Wordsmith
