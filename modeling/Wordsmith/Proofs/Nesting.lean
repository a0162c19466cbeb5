import Wordsmith.Proofs.Likeness.Standard
import Wordsmith.Proofs.Passages

/-!
# Brackets that nest

In a row of tokens brackets nest if every closer fits the innermost opener that still waits, and no
opener waits at the end. A scan for the end of a scope goes by a stack of the same kind, so it cuts
off a row in which brackets nest, whatever stands behind it; and where brackets nest, it finds the
end of every scope that has begun.

A pattern need not be of this kind, and what a run fails with may lie anywhere in it. But whatever
else is run was cut off, so its brackets nest. Of a reader it is therefore asked that they nest in
what it has left, unless it can read on to the end of its pattern.

Main results: `Scope.cut_of_nested`, `Scope.nested_take_cut`, and `Standard.whole`, that code of
this kind contains no other.
-/

namespace Wordsmith

variable {waiting inner : List TokenKind} {t : Token} {tokens rest lead trail : List Token}

/-! ## Kinds of brackets -/

namespace TokenKind

variable {k c : TokenKind}

/-- The closer that a kind waits for, if it opens a bracket of any family. -/
def closer? (k : TokenKind) : Option TokenKind := BracketTable.all.closer? k

/-- Whether a kind closes a bracket of any family. -/
def isCloser (k : TokenKind) : Bool := BracketTable.all.closes k

/-- Whether a kind is no bracket. -/
def isNeutral (k : TokenKind) : Bool := k.closer?.isNone && !k.isCloser

theorem isCloser_of_closer? (h : k.closer? = some c) : c.isCloser = true := by
  cases k <;> cases h <;> rfl

theorem closer?_of_isCloser (h : k.isCloser = true) : k.closer? = none := by
  cases k <;> first | rfl | cases h

theorem closer?_of_not_mem (h : k ∉ [.leftCurly, .leftSquare, .leftParen, .leftAngle]) :
    k.closer? = none := by
  cases k <;> first | rfl | exact absurd (by decide) h

theorem isNeutral_iff : k.isNeutral = true ↔ k.closer? = none ∧ k.isCloser = false := by
  rw [isNeutral, Bool.and_eq_true, Option.isNone_iff_eq_none, Bool.not_eq_true']

theorem isNeutral_of_isSpace (h : Passage.isSpace t = true) : t.kind.isNeutral = true := by
  rw [eq_of_beq h]
  rfl

end TokenKind

/-! ## Rows of tokens -/

/-- The tokens close the brackets that wait, the first of the kinds first, and those that are opened
among them. -/
inductive Nested : List TokenKind → List Token → Prop
  | nil : Nested [] []
  | neutral {waiting : List TokenKind} {t : Token} {rest : List Token}
    (h : t.kind.isNeutral = true) (hrest : Nested waiting rest) : Nested waiting (t :: rest)
  | opener {waiting : List TokenKind} {t : Token} {rest : List Token} {c : TokenKind}
    (h : t.kind.closer? = some c) (hrest : Nested (c :: waiting) rest) : Nested waiting (t :: rest)
  | closer {waiting : List TokenKind} {t : Token} {rest : List Token}
    (h : t.kind.isCloser = true) (hrest : Nested waiting rest) :
    Nested (t.kind :: waiting) (t :: rest)

namespace Nested

theorem of_neutral (h : Nested waiting (t :: rest)) (ht : t.kind.isNeutral = true) :
    Nested waiting rest := by
  obtain ⟨hnone, hfalse⟩ := TokenKind.isNeutral_iff.1 ht
  cases h with
  | neutral _ hrest => exact hrest
  | opener hopens => cases hnone.symm.trans hopens
  | closer hcloses => cases hfalse.symm.trans hcloses

theorem of_opener (h : Nested waiting (t :: rest)) {c : TokenKind} (ht : t.kind.closer? = some c) :
    Nested (c :: waiting) rest := by
  cases h with
  | neutral hneutral => cases (TokenKind.isNeutral_iff.1 hneutral).1.symm.trans ht
  | opener hopens hrest =>
    cases ht.symm.trans hopens
    exact hrest
  | closer hcloses => cases (TokenKind.closer?_of_isCloser hcloses).symm.trans ht

theorem of_closer (h : Nested waiting (t :: rest)) (ht : t.kind.isCloser = true) :
    ∃ others, waiting = t.kind :: others ∧ Nested others rest := by
  cases h with
  | neutral hneutral => cases (TokenKind.isNeutral_iff.1 hneutral).2.symm.trans ht
  | opener hopens => cases (TokenKind.closer?_of_isCloser ht).symm.trans hopens
  | closer _ hrest => exact ⟨_, rfl, hrest⟩

theorem eq_nil (h : Nested waiting []) : waiting = [] := by
  cases h
  rfl

theorem of_append_left (h : Nested waiting (lead ++ rest))
    (hlead : ∀ t ∈ lead, t.kind.isNeutral = true) : Nested waiting rest := by
  induction lead with
  | nil => exact h
  | cons t lead ih =>
    obtain ⟨ht, hlead⟩ := List.forall_mem_cons.1 hlead
    exact ih (of_neutral h ht) hlead

theorem of_append_right (h : Nested waiting (tokens ++ trail))
    (htrail : ∀ t ∈ trail, t.kind.isNeutral = true) : Nested waiting tokens := by
  induction tokens generalizing waiting with
  | nil =>
    rw [List.nil_append, ← List.append_nil trail] at h
    exact h.of_append_left htrail
  | cons t tokens ih =>
    cases h with
    | neutral ht hrest => exact .neutral ht (ih hrest)
    | opener ht hrest => exact .opener ht (ih hrest)
    | closer ht hrest => exact .closer ht (ih hrest)

end Nested

/-- The passage lies within its pattern, and brackets nest in it. -/
structure Passage.IsWhole (p : Passage) : Prop where
  fits : p.Fits
  nested : Nested [] p.tokens

/-- Blanks at the edges are no brackets. -/
theorem Passage.IsWhole.trim {p : Passage} (h : p.IsWhole) : p.trim.IsWhole := by
  obtain ⟨lead, trail, htokens, hlead, htrail, -, hfits, -⟩ := Passage.trim_tokens h.fits
  have hnested := h.nested
  rw [htokens, List.append_assoc] at hnested
  refine ⟨hfits, (hnested.of_append_left fun t ht => ?_).of_append_right fun t ht => ?_⟩
  · exact TokenKind.isNeutral_of_isSpace (hlead t ht)
  · exact TokenKind.isNeutral_of_isSpace (htrail t ht)

/-! ## Scopes -/

namespace Scope

/-- The delimiters of the scope are a pair of brackets, and either all brackets nest inside it or
these alone, which are angle brackets. -/
structure IsBracket (s : Scope) : Prop where
  closer : s.opener.closer? = some s.closer
  nests : s.table = .all ∨ s.table = .angle ∧ s.opener = .leftAngle

variable {s : Scope} {w : Token} {stack : List Token}

namespace IsBracket

theorem isCloser (hs : s.IsBracket) : s.closer.isCloser = true :=
  TokenKind.isCloser_of_closer? hs.closer

theorem closes_of_all (h : s.table = .all) {k : TokenKind} (hk : k.isCloser = true) :
    s.closes k = true := by
  rw [closes, h]
  exact Bool.or_eq_true_iff.2 (.inr hk)

theorem closerOf (hs : s.IsBracket) {k c : TokenKind} (hk : k.closer? = some c) :
    s.opens k = s.closes c ∧ (s.closes c = true → s.closerOf k = c) := by
  obtain ⟨hcloser, hnests⟩ := hs
  obtain ⟨opener, closer, table⟩ := s
  obtain rfl | ⟨rfl, rfl⟩ := hnests
  · cases k <;> cases hk <;> cases opener <;> cases hcloser <;> exact ⟨rfl, fun _ => rfl⟩
  · cases k <;> cases hk <;> cases hcloser <;> exact ⟨rfl, by decide⟩

theorem opens_of_not (hs : s.IsBracket) {k : TokenKind} (hk : k.closer? = none) :
    s.opens k = false := by
  obtain ⟨hcloser, hnests⟩ := hs
  obtain ⟨opener, closer, table⟩ := s
  obtain rfl | ⟨rfl, rfl⟩ := hnests
  · cases k <;> cases hk <;> cases opener <;> cases hcloser <;> rfl
  · cases k <;> cases hk <;> rfl

theorem closes_of_not (hs : s.IsBracket) {k : TokenKind} (hk : k.isCloser = false) :
    s.closes k = false := by
  obtain ⟨hcloser, hnests⟩ := hs
  obtain ⟨opener, closer, table⟩ := s
  obtain rfl | ⟨rfl, rfl⟩ := hnests
  · cases k <;> cases hk <;> cases opener <;> cases hcloser <;> rfl
  · cases k <;> cases hk <;> cases hcloser <;> rfl

theorem feed_neutral (hs : s.IsBracket) (ht : t.kind.isNeutral = true) :
    s.feed stack t = .ok (some stack) := by
  obtain ⟨hnone, hfalse⟩ := TokenKind.isNeutral_iff.1 ht
  unfold feed
  rw [hs.opens_of_not hnone, hs.closes_of_not hfalse]
  rfl

theorem feed_opener (hs : s.IsBracket) {c : TokenKind} (ht : t.kind.closer? = some c) :
    s.feed stack t = .ok (some (if s.closes c then t :: stack else stack)) := by
  have hcloses : s.closes t.kind = false :=
    hs.closes_of_not (by
      by_contra hcloser
      cases (TokenKind.closer?_of_isCloser (Bool.not_eq_false _ ▸ hcloser)).symm.trans ht)
  unfold feed
  rw [(hs.closerOf ht).1, hcloses]
  split <;> rfl

theorem feed_other_closer (hs : s.IsBracket) (ht : t.kind.isCloser = true)
    (hother : s.closes t.kind = false) : s.feed stack t = .ok (some stack) := by
  unfold feed
  rw [hs.opens_of_not (TokenKind.closer?_of_isCloser ht), hother]
  rfl

theorem feed_nil (hs : s.IsBracket) (ht : t.kind.isCloser = true)
    (hcloses : s.closes t.kind = true) : s.feed [] t = if t.kind = s.closer then .ok none
      else .error (.mismatched s.opener t.kind s.closer t.position) := by
  unfold feed
  rw [hs.opens_of_not (TokenKind.closer?_of_isCloser ht), hcloses]
  rfl

theorem feed_cons (hs : s.IsBracket) (ht : t.kind.isCloser = true)
    (hcloses : s.closes t.kind = true) :
    s.feed (w :: stack) t = if s.closerOf w.kind = t.kind then .ok (some stack)
      else .error (.mismatched w.kind t.kind (s.closerOf w.kind) t.position) := by
  unfold feed
  rw [hs.opens_of_not (TokenKind.closer?_of_isCloser ht), hcloses]
  rfl

end IsBracket

/-- What a scan leaves behind: brackets nest behind the closer of the scope, and behind a separator
the scope is still waiting for its closer, with no bracket in it that it knows of. -/
def Ending.Leaves (s : Scope) (waiting : List TokenKind) (behind : List Token) : Ending → Prop
  | .closed => Nested waiting behind
  | .separated => ∃ inner : List TokenKind, (∀ k ∈ inner, k.isCloser = true) ∧
    inner.filter s.closes = [] ∧ Nested (inner ++ s.closer :: waiting) behind

variable {separator : Option TokenKind} {p : Position} {i : Nat} {ending : Ending}

/-- Where brackets nest, the scan finds the closer of the scope, or a separator before it. -/
theorem cut_of_nested (hs : s.IsBracket) (hseparator : ∀ k ∈ separator, k.isNeutral = true)
    (h : Nested (inner ++ s.closer :: waiting) tokens)
    (hinner : ∀ k ∈ inner, k.isCloser = true)
    (hstack : stack.map (fun w => s.closerOf w.kind) = inner.filter s.closes) :
    ∃ ending : Ending, (s.cut separator p stack i tokens).outcome = .ok ending ∧
      ending.Leaves s waiting
        (tokens.drop ((s.cut separator p stack i tokens).index + 1 - i)) := by
  induction tokens generalizing inner stack i with
  | nil => exact absurd h.eq_nil (by simp)
  | cons t rest ih =>
    have further : ∀ {stack' : List Token} {inner' : List TokenKind},
        Nested (inner' ++ s.closer :: waiting) rest → (∀ k ∈ inner', k.isCloser = true) →
        stack'.map (fun w => s.closerOf w.kind) = inner'.filter s.closes →
        ∃ ending : Ending, (s.cut separator p stack' (i + 1) rest).outcome = .ok ending ∧
          ending.Leaves s waiting
            ((t :: rest).drop ((s.cut separator p stack' (i + 1) rest).index + 1 - i)) := by
      intro stack' inner' h hinner hstack
      obtain ⟨ending, houtcome, hleaves⟩ := ih h hinner hstack
      have hindex := s.le_cut_index separator p stack' (i + 1) rest
      refine ⟨ending, houtcome, ?_⟩
      rwa [Nat.succ_sub (by omega), List.drop_succ_cons, ← Nat.add_sub_add_right _ 1 i]
    rw [cut]
    split
    · next hends =>
      obtain ⟨rfl, hsome⟩ := hends
      have hrest := h.of_neutral (hseparator t.kind hsome)
      refine ⟨.separated, rfl, inner, hinner, hstack.symm, ?_⟩
      rwa [Nat.add_sub_cancel_left]
    · cases hopens : t.kind.closer? with
      | some c =>
        rw [hs.feed_opener hopens]
        have hrest : Nested ((c :: inner) ++ s.closer :: waiting) rest := h.of_opener hopens
        refine further hrest ?_ ?_
        · exact List.forall_mem_cons.2 ⟨TokenKind.isCloser_of_closer? hopens, hinner⟩
        · rw [List.filter_cons]
          split
          · next hcloses => rw [List.map_cons, hstack, (hs.closerOf hopens).2 hcloses]
          · exact hstack
      | none =>
        cases hcloses : t.kind.isCloser with
        | false =>
          have hneutral := TokenKind.isNeutral_iff.2 ⟨hopens, hcloses⟩
          rw [hs.feed_neutral hneutral]
          exact further (h.of_neutral hneutral) hinner hstack
        | true =>
          obtain ⟨others, hwaiting, hrest⟩ := h.of_closer hcloses
          cases inner with
          | nil =>
            obtain ⟨hkind, rfl⟩ := List.cons.inj hwaiting
            obtain rfl : stack = [] := List.map_eq_nil_iff.1 hstack
            have hknown : s.closes t.kind = true := by simp [closes, hkind]
            rw [hs.feed_nil hcloses hknown, if_pos hkind.symm]
            refine ⟨.closed, rfl, ?_⟩
            rwa [Nat.add_sub_cancel_left]
          | cons k inner =>
            obtain ⟨rfl, rfl⟩ := List.cons.inj hwaiting
            have hinner' := (List.forall_mem_cons.1 hinner).2
            cases hknown : s.closes t.kind with
            | false =>
              rw [hs.feed_other_closer hcloses hknown]
              rw [List.filter_cons_of_neg (by simp [hknown])] at hstack
              exact further hrest hinner' hstack
            | true =>
              rw [List.filter_cons_of_pos hknown] at hstack
              obtain ⟨w, stack, rfl, hw, hstack⟩ := List.map_eq_cons_iff.1 hstack
              rw [hs.feed_cons hcloses hknown, if_pos hw]
              exact further hrest hinner' hstack

/-- A scan without a separator ends at the closer. -/
theorem eq_closed_of_cut (h : (s.cut none p stack i tokens).outcome = .ok ending) :
    ending = .closed := by
  induction tokens generalizing stack i with
  | nil => simp [cut] at h
  | cons t rest ih =>
    have hnone : ¬(stack = [] ∧ none = some t.kind) := by simp
    rw [cut, if_neg hnone] at h
    split at h
    · cases h
    · exact (Except.ok.inj h).symm
    · exact ih h

/-- Where all brackets nest in the scope, a separator stands outside all of them. -/
theorem nested_of_leaves_separated (hall : s.table = .all)
    (h : Ending.separated.Leaves s waiting tokens) : Nested (s.closer :: waiting) tokens := by
  obtain ⟨inner, hclosers, hunknown, hnested⟩ := h
  have hknown : inner.filter s.closes = inner :=
    List.filter_eq_self.2 fun k hk => IsBracket.closes_of_all hall (hclosers k hk)
  obtain rfl : inner = [] := hknown.symm.trans hunknown
  exact hnested

/-- What a scan cuts off closes the brackets that wait, if all brackets nest in the scope. -/
theorem nested_take_cut (hs : s.IsBracket) (hall : s.table = .all)
    (h : (s.cut separator p stack i tokens).outcome = .ok ending) :
    Nested (stack.map fun w => s.closerOf w.kind)
      (tokens.take ((s.cut separator p stack i tokens).index - i)) := by
  induction tokens generalizing stack i with
  | nil => simp [cut] at h
  | cons t rest ih =>
    have hindex := fun stack' => s.le_cut_index separator p stack' (i + 1) rest
    have htake : ∀ stack', (t :: rest).take ((s.cut separator p stack' (i + 1) rest).index - i) =
        t :: rest.take ((s.cut separator p stack' (i + 1) rest).index - (i + 1)) := by
      intro stack'
      have := hindex stack'
      rw [← List.take_succ_cons]
      congr 1
      omega
    rw [cut] at h ⊢
    split at h
    · next hends =>
      rw [if_pos hends, hends.1, Nat.sub_self]
      exact .nil
    · next hends =>
      rw [if_neg hends]
      cases hopens : t.kind.closer? with
      | some c =>
        have hcloses := IsBracket.closes_of_all hall (TokenKind.isCloser_of_closer? hopens)
        rw [hs.feed_opener hopens, if_pos hcloses] at h ⊢
        rw [htake]
        refine .opener hopens ?_
        rw [← (hs.closerOf hopens).2 hcloses]
        exact ih h
      | none =>
        cases hcloses : t.kind.isCloser with
        | false =>
          have hneutral := TokenKind.isNeutral_iff.2 ⟨hopens, hcloses⟩
          rw [hs.feed_neutral hneutral] at h ⊢
          rw [htake]
          exact .neutral hneutral (ih h)
        | true =>
          have hknown := IsBracket.closes_of_all hall hcloses
          cases stack with
          | nil =>
            rw [hs.feed_nil hcloses hknown] at h ⊢
            by_cases hkind : t.kind = s.closer
            · rw [if_pos hkind, Nat.sub_self]
              exact .nil
            · rw [if_neg hkind] at h
              cases h
          | cons w stack =>
            rw [hs.feed_cons hcloses hknown] at h ⊢
            by_cases hkind : s.closerOf w.kind = t.kind
            · rw [if_pos hkind] at h ⊢
              rw [htake, List.map_cons, hkind]
              exact .closer hcloses (ih h)
            · rw [if_neg hkind] at h
              cases h

end Scope

/-! ## Readers -/

namespace Reader

variable {r r' : Reader} {s : Scope} {separator : Option TokenKind} {p : Position}
  {ending : Scope.Ending}

theorem rest_drop (hstart : r.passage.start ≤ r.index) (n : Nat) :
    Reader.rest { r with index := r.index + n } = r.rest.drop n := by
  rw [rest_eq_take hstart, rest_eq_take (Nat.le_add_right_of_le hstart), List.drop_take,
    List.drop_drop, Nat.sub_sub]

/-- Where brackets nest, a scope that has begun can be scanned. -/
theorem exists_cut (hs : s.IsBracket) (hseparator : ∀ k ∈ separator, k.isNeutral = true)
    (hstart : r.passage.start ≤ r.index) (hrest : Nested (s.closer :: waiting) r.rest)
    (p : Position) : ∃ ending : Scope.Ending,
      (s.cut separator p [] r.index r.rest).outcome = .ok ending ∧ ending.Leaves s waiting
        (Reader.rest { r with index := (s.cut separator p [] r.index r.rest).index + 1 }) := by
  have hindex := s.le_cut_index separator p [] r.index r.rest
  have hsum : (s.cut separator p [] r.index r.rest).index + 1 =
      r.index + ((s.cut separator p [] r.index r.rest).index + 1 - r.index) := by omega
  have hnested : Nested ([] ++ s.closer :: waiting) r.rest := hrest
  rw [hsum, rest_drop hstart]
  exact Scope.cut_of_nested hs hseparator hnested nofun rfl

/-- What the reader has left closes the brackets that wait, unless it can read on to the end of its
pattern. -/
structure IsWhole (waiting : List TokenKind) (r : Reader) : Prop where
  start_le : r.passage.start ≤ r.index
  nested : r.passage.pattern.tokens.size ≤ r.passage.stop ∨ Nested waiting r.rest

theorem isWhole_ofPassage {q : Passage} (h : q.IsWhole) : (ofPassage q).IsWhole [] :=
  ⟨Nat.le_refl _, .inr (rest_ofPassage q ▸ h.nested)⟩

namespace IsWhole

theorem alike (h : r.IsWhole waiting) (hr : r.Alike r') : r'.IsWhole waiting := by
  refine ⟨hr.start_le', ?_⟩
  rw [← Pattern.tokens_eq hr.code, ← hr.stop, ← hr.rest]
  exact h.nested

/-- The reader has moved on by some tokens. -/
theorem move (h : r.IsWhole waiting) {others : List TokenKind} (n : Nat)
    (hnested : Nested waiting r.rest → Nested others (r.rest.drop n)) :
    IsWhole others { r with index := r.index + n } :=
  ⟨Nat.le_add_right_of_le h.start_le,
    h.nested.imp id fun hrest => (rest_drop h.start_le n).symm ▸ hnested hrest⟩

theorem next (h : r.IsWhole waiting) {others : List TokenKind} (hpeek : r.peek? = some t)
    (hnested : ∀ rest, Nested waiting (t :: rest) → Nested others rest) :
    r.next.IsWhole others := by
  refine h.move 1 fun hrest => ?_
  rw [← head?_rest h.start_le] at hpeek
  obtain ⟨rest, hl⟩ := List.head?_eq_some_iff.1 hpeek
  rw [hl] at hrest ⊢
  exact hnested rest hrest

theorem skipSpace (h : r.IsWhole waiting) : r.skipSpace.IsWhole waiting := by
  have hsplit := List.takeWhile_append_dropWhile (p := Passage.isSpace) (l := r.rest)
  have hdrop : r.rest.drop (r.rest.takeWhile Passage.isSpace).length =
      r.rest.dropWhile Passage.isSpace :=
    calc r.rest.drop (r.rest.takeWhile Passage.isSpace).length
        = (r.rest.takeWhile Passage.isSpace ++ r.rest.dropWhile Passage.isSpace).drop
            (r.rest.takeWhile Passage.isSpace).length := by rw [hsplit]
      _ = r.rest.dropWhile Passage.isSpace := List.drop_left
  refine h.move _ fun hrest => ?_
  rw [← hsplit] at hrest
  rw [hdrop]
  exact hrest.of_append_left fun t ht => TokenKind.isNeutral_of_isSpace (List.mem_takeWhile_imp ht)

/-- A scan of a scope that ends well ends where other brackets wait than before. -/
theorem behind (h : r.IsWhole (s.closer :: waiting)) (hs : s.IsBracket)
    (hseparator : ∀ k ∈ separator, k.isNeutral = true)
    (houtcome : (s.cut separator p [] r.index r.rest).outcome = .ok ending)
    {others : List TokenKind}
    (hothers : ∀ behind, ending.Leaves s waiting behind → Nested others behind) :
    IsWhole others { r with index := (s.cut separator p [] r.index r.rest).index + 1 } := by
  refine ⟨Nat.le_succ_of_le (Nat.le_trans h.start_le (s.le_cut_index ..)), h.nested.imp id ?_⟩
  intro hrest
  obtain ⟨ending', houtcome', hleaves⟩ := exists_cut hs hseparator h.start_le hrest p
  cases houtcome.symm.trans houtcome'
  exact hothers _ hleaves

end IsWhole

/-- Brackets nest in what a scan cuts off, if all of them nest in the scope. -/
theorem isWhole_trim_range (hstart : r.passage.start ≤ r.index) (hs : s.IsBracket)
    (hall : s.table = .all) (houtcome : (s.cut separator p [] r.index r.rest).outcome = .ok ending) :
    (r.passage.range r.index (s.cut separator p [] r.index r.rest).index).trim.IsWhole := by
  have hne : r.rest ≠ [] := fun hnil => by simp [hnil, Scope.cut] at houtcome
  have hbound := Scope.cut_index_lt houtcome
  have hstop := rest_length_add_index_le hne
  have hsize := index_add_length_rest_le hstart hne
  have hnested := Scope.nested_take_cut hs hall houtcome
  generalize (s.cut separator p [] r.index r.rest).index = i at *
  rw [range_eq hstart hbound.1 (by omega)]
  refine Passage.IsWhole.trim ⟨⟨hbound.1, by dsimp only; omega⟩, ?_⟩
  rw [Passage.tokens_eq]
  rw [rest_eq_take hstart, List.take_take, Nat.min_eq_left (by omega)] at hnested
  exact hnested

end Reader

/-! ## Scans -/

namespace Scan

variable {α β : Type} {w w₁ w₂ : List TokenKind} {P : α → Prop} {Q : β → Prop} {s t : Scan α}

/-- If the scan succeeds while some brackets wait, then others wait behind it, and its result
fulfils a condition. -/
structure Closes (w w₁ : List TokenKind) (P : α → Prop) (s : Scan α) : Prop where
  from_whole : ∀ r a r', r.IsWhole w → s r = (.ok a, r') → P a ∧ r'.IsWhole w₁

namespace Closes

theorem pure {a : α} (h : P a) : Closes w w P (Pure.pure a : Scan α) := by
  refine ⟨fun r b r' hr hs => ?_⟩
  cases hs
  exact ⟨h, hr⟩

theorem bind {f : α → Scan β} (hs : Closes w w₁ P s) (hf : ∀ a, P a → Closes w₁ w₂ Q (f a)) :
    Closes w w₂ Q (s >>= f) := by
  refine ⟨fun r b r' hr h => ?_⟩
  obtain ⟨a, r₁, ha, hb⟩ := bind_eq_ok h
  obtain ⟨hP, hr₁⟩ := hs.from_whole _ _ _ hr ha
  exact (hf a hP).from_whole _ _ _ hr₁ hb

theorem weaken (hs : Closes w w₁ P s) {R : α → Prop} (h : ∀ a, P a → R a) : Closes w w₁ R s :=
  ⟨fun _ _ _ hr ha => (hs.from_whole _ _ _ hr ha).imp_left (h _)⟩

theorem ite {c : Prop} [Decidable c] (hs : Closes w w₁ P s) (ht : Closes w w₁ P t) :
    Closes w w₁ P (if c then s else t) := by
  split
  · exact hs
  · exact ht

end Closes

theorem closes_expect {kind : TokenKind} (expected : String)
    (h : ∀ t rest, t.kind = kind → Nested w (t :: rest) → Nested w₁ rest) :
    Closes w w₁ (fun _ => True) (expect kind expected) := by
  refine ⟨fun r a r' hr hs => ⟨trivial, ?_⟩⟩
  unfold expect at hs
  cases hpeek : r.peek? with
  | none =>
    rw [hpeek] at hs
    cases hs
  | some t =>
    rw [hpeek] at hs
    dsimp only at hs
    split at hs
    · next hkind =>
      cases hs
      exact hr.next hpeek fun rest => h a rest hkind
    · cases hs

theorem closes_expect_neutral {kind : TokenKind} (expected : String)
    (hkind : kind.isNeutral = true) : Closes w w (fun _ => True) (expect kind expected) :=
  closes_expect expected fun _ _ ht h => h.of_neutral (ht ▸ hkind)

theorem closes_expect_opener {kind c : TokenKind} (expected : String)
    (hkind : kind.closer? = some c) : Closes w (c :: w) (fun _ => True) (expect kind expected) :=
  closes_expect expected fun _ _ ht h => h.of_opener (ht ▸ hkind)

theorem closes_expect_closer {kind : TokenKind} (expected : String)
    (hkind : kind.isCloser = true) :
    Closes (kind :: w) w (fun _ => True) (expect kind expected) := by
  refine closes_expect expected fun t _ ht h => ?_
  obtain ⟨_, hwaiting, hrest⟩ := h.of_closer (ht ▸ hkind)
  exact (List.cons.inj hwaiting).2 ▸ hrest

theorem closes_space : Closes w w (fun _ => True) space := by
  refine ⟨fun r a r' hr hs => ⟨trivial, ?_⟩⟩
  cases hs
  exact hr.skipSpace

theorem closes_nextKind? : Closes w w (fun _ => True) Bracket.nextKind? := by
  refine ⟨fun r a r' hr hs => ⟨trivial, ?_⟩⟩
  cases hs
  exact hr

theorem isWhole_of_take? {kind : TokenKind} (hkind : kind.isNeutral = true) {r r' : Reader}
    (hr : r.IsWhole w) (h : r.take? kind = some r') : r'.IsWhole w := by
  unfold Reader.take? at h
  split at h
  · next hpeek =>
    cases h
    obtain ⟨t, ht, rfl⟩ := Option.map_eq_some_iff.1 hpeek
    exact hr.next ht fun _ h => h.of_neutral hkind
  · cases h

theorem closes_take {kind : TokenKind} (hkind : kind.isNeutral = true) :
    Closes w w (fun _ => True) (take kind) := by
  refine ⟨fun r a r' hr hs => ⟨trivial, ?_⟩⟩
  unfold take at hs
  split at hs
  · next htake =>
    cases hs
    exact isWhole_of_take? hkind hr htake
  · cases hs
    exact hr

theorem closes_takeLoose {kind : TokenKind} (hkind : kind.isNeutral = true) :
    Closes w w (fun _ => True) (takeLoose kind) := by
  refine ⟨fun r a r' hr hs => ⟨trivial, ?_⟩⟩
  unfold takeLoose at hs
  split at hs
  · next htake =>
    cases hs
    obtain ⟨r₁, hfirst, rfl⟩ := Option.map_eq_some_iff.1 htake
    exact (isWhole_of_take? hkind hr.skipSpace hfirst).skipSpace
  · cases hs
    exact hr

section Scopes

variable {s : Scope} {separator : TokenKind}

theorem closes_body (hs : s.IsBracket) : Closes (s.closer :: w) w
    (fun q => s.table = .all → q.IsWhole) (body s) := by
  refine ⟨fun r a r' hr h => ?_⟩
  unfold body at h
  dsimp only at h
  split at h
  · cases h
  · next ending houtcome =>
    cases h
    refine ⟨fun hall => Reader.isWhole_trim_range hr.start_le hs hall houtcome, ?_⟩
    obtain rfl := Scope.eq_closed_of_cut houtcome
    exact hr.behind hs (by simp) houtcome fun _ => id

/-- Behind an argument the scope is over, or goes on behind a separator. -/
theorem closes_argument (hs : s.IsBracket) (hall : s.table = .all)
    (hseparator : separator.isNeutral = true) {p : Position} {r r' : Reader} {q : Passage}
    {ending : Scope.Ending} (hr : r.IsWhole (s.closer :: w))
    (h : argument s separator p r = (.ok (q, ending), r')) : q.IsWhole ∧
      r'.IsWhole (if ending = .closed then w else s.closer :: w) := by
  unfold argument at h
  dsimp only at h
  split at h
  · cases h
  · next houtcome =>
    cases h
    refine ⟨Reader.isWhole_trim_range hr.start_le hs hall houtcome, ?_⟩
    refine hr.behind hs (by simpa using hseparator) houtcome fun behind hleaves => ?_
    cases ending with
    | closed => exact hleaves
    | separated => exact Scope.nested_of_leaves_separated hall hleaves

theorem closes_arguments (hs : s.IsBracket) (hall : s.table = .all)
    (hseparator : separator.isNeutral = true) : Closes (s.closer :: w) w
      (fun ps => ∀ q ∈ ps, q.IsWhole) (arguments s separator) := by
  refine ⟨fun r ps r' hr h => ?_⟩
  have hfinds := finds_of_argumentsFrom h
  clear h
  induction hfinds with
  | closed h =>
    obtain ⟨hq, hr'⟩ := closes_argument hs hall hseparator hr h
    exact ⟨List.forall_mem_singleton.2 hq, hr'⟩
  | separated h _ ih =>
    obtain ⟨hq, hr₁⟩ := closes_argument hs hall hseparator hr h
    obtain ⟨hothers, hr'⟩ := ih hr₁
    exact ⟨List.forall_mem_cons.2 ⟨hq, hothers⟩, hr'⟩

/-- Where brackets nest, a scope that has begun has arguments. -/
theorem exists_finds (hs : s.IsBracket) (hall : s.table = .all)
    (hseparator : separator.isNeutral = true) {r : Reader} (hstart : r.passage.start ≤ r.index)
    (hrest : Nested (s.closer :: w) r.rest) : ∃ ps r', Finds s separator r ps r' := by
  induction hk : r.remaining using Nat.strongRecOn generalizing r with
  | ind k ih =>
    have hseparator' : ∀ k ∈ some separator, k.isNeutral = true := by simpa using hseparator
    obtain ⟨ending, houtcome, hleaves⟩ := Reader.exists_cut hs hseparator' hstart hrest .nowhere
    obtain ⟨q, r₁, hargument, hr₁⟩ : ∃ q r₁, argument s separator .nowhere r =
        (.ok (q, ending), r₁) ∧
          r₁ = { r with index := (s.cut separator .nowhere [] r.index r.rest).index + 1 } := by
      simp only [argument, houtcome]
      exact ⟨_, _, rfl, rfl⟩
    cases ending with
    | closed => exact ⟨[q], r₁, .closed hargument⟩
    | separated =>
      have hless := hk ▸ argument_remaining_lt hargument
      have hstart₁ : r₁.passage.start ≤ r₁.index := by
        rw [hr₁]
        exact Nat.le_succ_of_le (Nat.le_trans hstart (s.le_cut_index ..))
      rw [← hr₁] at hleaves
      obtain ⟨ps, r', hothers⟩ :=
        ih _ hless hstart₁ (Scope.nested_of_leaves_separated hall hleaves) rfl
      exact ⟨q :: ps, r', .separated hargument hothers⟩

end Scopes

end Scan

/-! ## Constructs -/

open Scan

theorem Block.isBracket_scope : Block.scope.IsBracket := ⟨rfl, .inl rfl⟩

theorem Subroutine.isBracket_scope : Subroutine.scope.IsBracket := ⟨rfl, .inl rfl⟩

variable {w : List TokenKind}

theorem Block.closes_readItems :
    Closes (.rightCurly :: w) w (fun ps => ∀ q ∈ ps, q.IsWhole) Block.readItems :=
  closes_arguments isBracket_scope rfl rfl

/-- Brackets nest in the code of an item, with or without a weight. -/
theorem BlockItem.isWhole_code {p : Passage} (h : p.IsWhole) : (ofPassage p).code.IsWhole := by
  unfold ofPassage
  split
  · next opener number closer others htokens =>
    split
    · next hkinds =>
      obtain ⟨hopener, hnumber, hcloser⟩ := hkinds
      split
      · have hsplit : p.tokens = [opener, number, closer] ++ others := htokens
        obtain ⟨hrange, hfits, hothers⟩ := Passage.range_behind (n := 3) h.fits hsplit rfl
        dsimp only
        rw [hrange]
        refine Passage.IsWhole.trim ⟨hfits, ?_⟩
        rw [hothers]
        have hnested := h.nested
        rw [htokens] at hnested
        have hparen := hnested.of_opener (c := .rightParen) (by rw [hopener]; rfl)
        obtain ⟨_, hwaiting, hrest⟩ :=
          (hparen.of_neutral (by rw [hnumber]; rfl)).of_closer (by rw [hcloser]; rfl)
        exact (List.cons.inj hwaiting).2 ▸ hrest
      · exact h
    · exact h
  · exact h

namespace Scan

theorem closes_expression : Closes (.rightParen :: w) w (fun e => e.2.IsWhole) expression :=
  (closes_take rfl).bind fun _ _ =>
    (closes_body (s := ⟨.leftParen, .rightParen, .all⟩) ⟨rfl, .inl rfl⟩).bind fun _ h =>
      .pure (h rfl)

theorem closes_query : Closes (.rightAngle :: w) w (fun _ => True) query :=
  (closes_body (s := ⟨.leftAngle, .rightAngle, .angle⟩) ⟨rfl, .inr ⟨rfl, rfl⟩⟩).weaken
    fun _ _ => trivial

end Scan

namespace Subroutine

theorem closes_readParameters :
    Closes (.rightSquare :: w) w (fun _ => True) readParameters := by
  refine (closes_take rfl).bind fun _ _ => .ite ?_ ?_
  · exact (closes_arguments isBracket_scope rfl rfl).bind fun _ _ => .pure trivial
  · exact (closes_expect_closer _ rfl).bind fun _ _ => .pure trivial

theorem closes_readHeader : Closes w w (fun _ => True) readHeader := by
  refine closes_space.bind fun _ _ => (closes_expect_opener _ rfl).bind fun _ _ =>
    closes_space.bind fun _ _ => (closes_expect_neutral _ rfl).bind fun _ _ =>
    closes_space.bind fun _ _ => closes_readParameters.bind fun _ _ =>
    (closes_takeLoose rfl).bind fun _ _ => ?_
  exact .ite (.pure trivial) ((closes_expect_neutral _ rfl).bind fun _ _ => .pure trivial)

end Subroutine

namespace Bracket

theorem closes_readArguments :
    Closes (.rightSquare :: w) w (fun ps => ∀ q ∈ ps, q.IsWhole) readArguments :=
  closes_arguments Subroutine.isBracket_scope rfl rfl

theorem closes_readCall :
    Closes (.rightSquare :: w) w (fun ps => ∀ q ∈ ps, q.IsWhole) readCall := by
  refine closes_space.bind fun _ _ => (closes_take rfl).bind fun _ _ => .ite closes_readArguments ?_
  exact (closes_expect_closer _ rfl).bind fun _ _ => .pure nofun

theorem closes_readReplacement :
    Closes (.rightSquare :: w) w (fun ps => ∀ q ∈ ps, q.IsWhole) readReplacement :=
  closes_space.bind fun _ _ => (closes_expect_neutral _ rfl).bind fun _ _ => closes_readArguments

/-- Brackets nest in all passages of a construct in square brackets. -/
def IsWhole (b : Bracket) : Prop := ∀ q ∈ b.passages, q.IsWhole

theorem closes_readDefinition (isMeta : Bool) :
    Closes (.rightSquare :: w) w IsWhole (readDefinition isMeta) :=
  Subroutine.closes_readHeader.bind fun _ _ => (closes_body Subroutine.isBracket_scope).bind
    fun _ h => .pure (List.forall_mem_singleton.2 (h rfl))

theorem closes_readSubroutineCall :
    Closes (.rightSquare :: w) w IsWhole readSubroutineCall :=
  (closes_expect_neutral _ rfl).bind fun _ _ => closes_readCall.bind fun _ h => .pure h

theorem closes_readSubroutine : Closes (.rightSquare :: w) w IsWhole readSubroutine :=
  (closes_take rfl).bind fun _ _ => closes_space.bind fun _ _ => closes_nextKind?.bind fun _ _ =>
    .ite (closes_readDefinition _) closes_readSubroutineCall

theorem closes_readMetapattern : Closes (.rightSquare :: w) w IsWhole readMetapattern :=
  (closes_body Subroutine.isBracket_scope).bind fun _ h =>
    .pure (List.forall_mem_singleton.2 (h rfl))

theorem closes_readReplacer {readReplaced : Scan (List Passage)}
    (hreplaced : Closes (.rightSquare :: w) w (fun ps => ∀ q ∈ ps, q.IsWhole) readReplaced) :
    Closes (.rightSquare :: w) w IsWhole (readReplacer readReplaced) :=
  (closes_expect_neutral _ rfl).bind fun _ _ => hreplaced.bind fun _ h => .pure h

theorem closes_readTag : Closes (.rightSquare :: w) w IsWhole readTag :=
  (closes_expect_neutral _ rfl).bind fun _ _ => closes_readCall.bind fun _ h => .pure h

theorem closes_read {readReplaced : Scan (List Passage)}
    (hreplaced : Closes (.rightSquare :: w) w (fun ps => ∀ q ∈ ps, q.IsWhole) readReplaced) :
    Closes (.rightSquare :: w) w IsWhole (read readReplaced) :=
  closes_space.bind fun _ _ => (closes_take rfl).bind fun _ _ =>
    .ite closes_readSubroutine <| (closes_take rfl).bind fun _ _ =>
      .ite closes_readMetapattern <| closes_nextKind?.bind fun _ _ =>
        .ite (closes_readReplacer hreplaced) closes_readTag

end Bracket

/-! ## The standard -/

theorem Reader.IsWhole.read {r r₁ : Reader} (h : r.IsWhole w) (hread : r.read? = some (t, r₁))
    {w₁ : List TokenKind} (hnested : ∀ rest, Nested w (t :: rest) → Nested w₁ rest) :
    r₁.IsWhole w₁ := by
  obtain ⟨_, hpeek, heq⟩ := Option.map_eq_some_iff.1 hread
  cases heq
  exact h.next hpeek hnested

theorem Reader.IsWhole.readOpener {r r₁ : Reader} (h : r.IsWhole w)
    (hread : r.read? = some (t, r₁)) {c : TokenKind} (ht : t.kind.closer? = some c) :
    r₁.IsWhole (c :: w) :=
  h.read hread fun _ h => h.of_opener ht

theorem Scan.Closes.passes {α : Type} {P : α → Prop} {Q : α → Reader → Prop} {s : Scan α}
    (hs : Closes w [] P s) {r : Reader} (hr : r.IsWhole w)
    (h : ∀ a r', P a → r'.IsWhole [] → Q a r') : Scan.Passes (fun _ => True) Q s r := by
  unfold Passes
  split
  · next hok =>
    obtain ⟨hP, hr'⟩ := hs.from_whole _ _ _ hr hok
    exact h _ _ hP hr'
  · trivial

/-- Code that reaches to the end of its pattern or in which brackets nest, as a standard. It is
lax. -/
def Standard.whole : Standard where
  reader := Reader.IsWhole []
  fails _ := True
  isLax := True
  makesCode := True
  lax_of_fails _ := trivial
  lax_of_makesCode _ := trivial
  alike := Reader.IsWhole.alike
  compiled _ p := ⟨Nat.le_refl _, .inl (Nat.le_refl _)⟩
  block h hread ht := Block.closes_readItems.passes (h.readOpener hread (by rw [ht]; rfl))
    fun _ _ hps hr => ⟨fun q hq => Reader.isWhole_ofPassage (BlockItem.isWhole_code (hps q hq)), hr⟩
  bracket h hread ht := (Bracket.closes_read Bracket.closes_readReplacement).passes
    (h.readOpener hread (by rw [ht]; rfl)) fun _ _ hb hr =>
      ⟨.inl trivial, .inl trivial, fun q hq => Reader.isWhole_ofPassage (hb q hq), hr⟩
  expression h hread ht := Scan.closes_expression.passes (h.readOpener hread (by rw [ht]; rfl))
    fun _ _ he hr => ⟨Reader.isWhole_ofPassage he, hr⟩
  query h hread ht := Scan.closes_query.passes (h.readOpener hread (by rw [ht]; rfl))
    fun _ _ _ hr => ⟨.inl trivial, hr⟩
  closer _ _ _ := trivial
  plain {r t r₁} h hread ht _ := by
    refine h.read hread fun rest hnested => ?_
    cases hnested with
    | neutral _ hrest => exact hrest
    | opener hopens => cases (TokenKind.closer?_of_not_mem ht).symm.trans hopens
  recalls {r t r₁ r₀ ps r₀'} h hread ht hstart hpattern hindex hitems := by
    have hr₁ := h.readOpener hread (c := .rightCurly) (by rw [ht]; rfl)
    rcases hr₁.nested with hend | hnested
    · have hbefore : r₀.Before r₁ := ⟨hpattern, hindex, hstart, hr₁.start_le, by
        rw [hpattern]
        exact Nat.le_trans (Nat.min_le_right ..) hend⟩
      exact ⟨ps, _, Block.readItems_of_finds ((Block.finds_readItems hitems).before hbefore)⟩
    · have hpipe : TokenKind.pipe.isNeutral = true := rfl
      obtain ⟨qs, r₂, hfinds⟩ :=
        Scan.exists_finds Block.isBracket_scope rfl hpipe hr₁.start_le hnested
      exact ⟨qs, r₂, Block.readItems_of_finds hfinds⟩

end Wordsmith
