import Wordsmith.Proofs.Nesting

/-!
# Scans of tokens that are known

What a scan gives is told by the tokens that the reader has left: it takes some of them, and what
stands behind is seen but not taken. Scans in a row take rows of tokens in a row. The body of a scope
is taken up to the closer, and an argument up to a separator outside all inner brackets.

Main results: `Scan.Reads.bind`, `Scope.cut_append_unbroken`, `Scan.reads_body` and
`Scan.reads_arguments`.
-/

namespace Wordsmith

variable {waiting : List TokenKind} {t : Token} {tokens rest : List Token}

/-! ## Rows without a separator -/

/-- The tokens close the brackets that wait, and those that are opened among them, and no separator
stands outside all brackets. -/
inductive Unbroken (separator : Option TokenKind) : List TokenKind → List Token → Prop
  | nil : Unbroken separator [] []
  | neutral {waiting : List TokenKind} {t : Token} {rest : List Token}
    (h : t.kind.isNeutral = true) (hseparator : waiting = [] → separator ≠ some t.kind)
    (hrest : Unbroken separator waiting rest) : Unbroken separator waiting (t :: rest)
  | opener {waiting : List TokenKind} {t : Token} {rest : List Token} {c : TokenKind}
    (h : t.kind.closer? = some c) (hrest : Unbroken separator (c :: waiting) rest) :
    Unbroken separator waiting (t :: rest)
  | closer {waiting : List TokenKind} {t : Token} {rest : List Token}
    (h : t.kind.isCloser = true) (hrest : Unbroken separator waiting rest) :
    Unbroken separator (t.kind :: waiting) (t :: rest)

namespace Unbroken

variable {separator : Option TokenKind}

theorem append (h : Unbroken separator waiting tokens) (hrest : Unbroken separator [] rest) :
    Unbroken separator waiting (tokens ++ rest) := by
  induction h with
  | nil => exact hrest
  | neutral h hseparator _ ih => exact .neutral h hseparator ih
  | opener h _ ih => exact .opener h ih
  | closer h _ ih => exact .closer h ih

/-- Where a bracket waits, separators do not count. -/
theorem of_nested (h : Nested waiting tokens) (ht : t.kind.isCloser = true) :
    Unbroken separator (waiting ++ [t.kind]) (tokens ++ [t]) := by
  induction h with
  | nil => exact .closer ht .nil
  | neutral h _ ih => exact .neutral h (by simp) ih
  | opener h _ ih => exact .opener h ih
  | closer h _ ih => exact .closer h ih

theorem of_none (h : Nested waiting tokens) : Unbroken none waiting tokens := by
  induction h with
  | nil => exact .nil
  | neutral h _ ih => exact .neutral h nofun ih
  | opener h _ ih => exact .opener h ih
  | closer h _ ih => exact .closer h ih

theorem nested (h : Unbroken separator waiting tokens) : Nested waiting tokens := by
  induction h with
  | nil => exact .nil
  | neutral h _ _ ih => exact .neutral h ih
  | opener h _ ih => exact .opener h ih
  | closer h _ ih => exact .closer h ih

end Unbroken

/-- The tokens are rows with a separator between them. -/
inductive Separated (separator : TokenKind) : List (List Token) → List Token → Prop
  | single (k : List Token) : Separated separator [k] k
  | cons {k : List Token} {ks : List (List Token)} {t : Token} {tokens : List Token}
    (ht : t.kind = separator) (h : Separated separator ks tokens) :
    Separated separator (k :: ks) (k ++ t :: tokens)

/-- More tokens in front belong to the first row. -/
theorem Separated.prepend {separator : TokenKind} {k : List Token} {ks : List (List Token)}
    (h : Separated separator (k :: ks) tokens) (more : List Token) :
    Separated separator ((more ++ k) :: ks) (more ++ tokens) := by
  cases h with
  | single => exact .single _
  | cons ht h =>
    rw [← List.append_assoc]
    exact .cons ht h

namespace Scope

variable {s : Scope} {separator : Option TokenKind} {p : Position} {i : Nat} {stack : List Token}

theorem cut_cons (hends : ¬(stack = [] ∧ separator = some t.kind)) {stack' : List Token}
    (hfeed : s.feed stack t = .ok (some stack')) :
    s.cut separator p stack i (t :: rest) = s.cut separator p stack' (i + 1) rest := by
  rw [cut, if_neg hends, hfeed]

/-- A scan passes over a row in which brackets nest and no separator stands outside them. -/
theorem cut_append_unbroken (hs : s.IsBracket) (hall : s.table = .all)
    (hseparator : ∀ k ∈ separator, k.isNeutral = true) (h : Unbroken separator waiting tokens)
    (hstack : stack.map (fun w => s.closerOf w.kind) = waiting) :
    s.cut separator p stack i (tokens ++ rest) =
      s.cut separator p [] (i + tokens.length) rest := by
  have hlength : ∀ (t : Token) (l : List Token) (i : Nat), i + (t :: l).length = i + 1 + l.length :=
    fun t l i => by rw [List.length_cons]; omega
  -- A bracket is no separator.
  have hnot : ∀ t : Token, t.kind.isNeutral = false → separator ≠ some t.kind := by
    rintro t ht rfl
    cases ht.symm.trans (hseparator _ rfl)
  induction h generalizing stack i with
  | nil =>
    rw [List.map_eq_nil_iff.1 hstack]
    rfl
  | neutral h hfree _ ih =>
    have hends := fun hstop : stack = [] ∧ separator = some _ =>
      hfree (hstack ▸ List.map_eq_nil_iff.2 hstop.1) hstop.2
    rw [List.cons_append, cut_cons hends (hs.feed_neutral h), ih hstack, hlength]
  | @opener _ t _ c h _ ih =>
    have hcloser := TokenKind.isCloser_of_closer? h
    have hknown := IsBracket.closes_of_all hall hcloser
    have hfeed : s.feed stack t = _ := hs.feed_opener h
    rw [if_pos hknown] at hfeed
    have hends := hnot t (by simp [TokenKind.isNeutral, h])
    rw [List.cons_append, cut_cons (fun hstop => hends hstop.2) hfeed, ih, hlength]
    rw [List.map_cons, hstack, (hs.closerOf h).2 hknown]
  | @closer _ t _ h _ ih =>
    obtain ⟨w, stack, rfl, hw, hstack⟩ := List.map_eq_cons_iff.1 hstack
    have hknown := IsBracket.closes_of_all hall h
    have hfeed : s.feed (w :: stack) t = _ := hs.feed_cons h hknown
    rw [if_pos hw] at hfeed
    rw [List.cons_append, cut_cons (by simp) hfeed, ih hstack, hlength]

theorem cut_closer (hs : s.IsBracket) (hall : s.table = .all)
    (hseparator : ∀ k ∈ separator, k.isNeutral = true) (ht : t.kind = s.closer) :
    s.cut separator p [] i (t :: rest) = ⟨.ok .closed, i⟩ := by
  have hcloser : t.kind.isCloser = true := ht ▸ hs.isCloser
  have hends : ¬([] = ([] : List Token) ∧ separator = some t.kind) := by
    rintro ⟨-, rfl⟩
    have hneutral := hseparator _ rfl
    simp [TokenKind.isNeutral, hcloser] at hneutral
  rw [cut, if_neg hends, hs.feed_nil hcloser (IsBracket.closes_of_all hall hcloser), if_pos ht]

theorem cut_separator (ht : separator = some t.kind) :
    s.cut separator p [] i (t :: rest) = ⟨.ok .separated, i⟩ := by
  rw [cut, if_pos ⟨rfl, ht⟩]

end Scope

/-! ## Scans -/

/-- The passage is what is left of a row of tokens when the blanks at its edges are taken off. -/
structure Passage.Spells (p : Passage) (tokens : List Token) : Prop where
  fits : p.Fits
  trimmed : p.IsTrimmed
  exists_blanks : ∃ lead trail, tokens = lead ++ p.tokens ++ trail ∧
    (∀ t ∈ lead, isSpace t = true) ∧ ∀ t ∈ trail, isSpace t = true

/-- A row without blanks in front is spelled up to those at its end. -/
theorem Passage.Spells.exists_trail {p : Passage} (h : p.Spells tokens)
    (hhead : ∀ t ∈ tokens.head?, isSpace t = false) :
    ∃ trail, tokens = p.tokens ++ trail ∧ ∀ t ∈ trail, isSpace t = true := by
  obtain ⟨lead, trail, rfl, hlead, htrail⟩ := h.exists_blanks
  obtain rfl : lead = [] := by
    cases lead with
    | nil => rfl
    | cons t lead => exact Bool.noConfusion ((hhead t rfl).symm.trans (hlead t List.mem_cons_self))
  exact ⟨trail, rfl, htrail⟩

/-- A row without blanks at its edges is spelled token by token. -/
theorem Passage.Spells.tokens_eq {p : Passage} (h : p.Spells tokens)
    (hhead : ∀ t ∈ tokens.head?, isSpace t = false)
    (hlast : ∀ t ∈ tokens.getLast?, isSpace t = false) : p.tokens = tokens := by
  obtain ⟨trail, rfl, htrail⟩ := h.exists_trail hhead
  obtain rfl : trail = [] := by
    by_contra hne
    have hmem := List.getLast_mem hne
    have hend : trail.getLast hne ∈ (p.tokens ++ trail).getLast? := by
      simp [List.getLast?_append, List.getLast?_eq_some_getLast hne]
    exact Bool.noConfusion ((hlast _ hend).symm.trans (htrail _ hmem))
  simp

/-- Blanks at the edges are not told from the passage. -/
theorem Passage.Spells.prepend {p : Passage} (h : p.Spells tokens) {blanks : List Token}
    (hblanks : ∀ t ∈ blanks, isSpace t = true) : p.Spells (blanks ++ tokens) := by
  obtain ⟨lead, trail, rfl, hlead, htrail⟩ := h.exists_blanks
  exact ⟨h.fits, h.trimmed, blanks ++ lead, trail, by simp,
    List.forall_mem_append.2 ⟨hblanks, hlead⟩, htrail⟩

namespace Scan

variable {α β : Type} {P : α → Prop} {Q : β → Prop} {s : Scan α} {k l m : List Token}

/-- If the reader has left the first tokens before the second ones, then the scan takes the first
ones and gives what fulfils a condition. -/
structure Reads (s : Scan α) (k l : List Token) (P : α → Prop) : Prop where
  from_rest : ∀ r : Reader, r.passage.start ≤ r.index → r.rest = k ++ l →
    ∃ a, s r = (.ok a, { r with index := r.index + k.length }) ∧ P a

namespace Reads

theorem pure {a : α} (h : P a) : Reads (Pure.pure a) [] l P := ⟨fun _ _ _ => ⟨a, rfl, h⟩⟩

theorem weaken {P' : α → Prop} (h : Reads s k l P) (hP : ∀ a, P a → P' a) : Reads s k l P' :=
  ⟨fun r hstart hrest =>
    have ⟨a, ha, hPa⟩ := h.from_rest r hstart hrest
    ⟨a, ha, hP a hPa⟩⟩

theorem bind {f : α → Scan β} (hs : Reads s k (l ++ m) P) (hf : ∀ a, P a → Reads (f a) l m Q) :
    Reads (s >>= f) (k ++ l) m Q := by
  refine ⟨fun r hstart hrest => ?_⟩
  rw [List.append_assoc] at hrest
  obtain ⟨a, ha, hP⟩ := hs.from_rest r hstart hrest
  have hrest₁ : Reader.rest { r with index := r.index + k.length } = l ++ m := by
    rw [Reader.rest_drop hstart, hrest, List.drop_left]
  obtain ⟨b, hb, hQ⟩ := (hf a hP).from_rest _ (Nat.le_add_right_of_le hstart) hrest₁
  refine ⟨b, ?_, hQ⟩
  rw [bind_of_ok ha, hb, List.length_append, Nat.add_assoc]

/-- A scan that takes nothing, and then one that takes the tokens. -/
theorem passing {f : α → Scan β} (hs : Reads s [] (l ++ m) P)
    (hf : ∀ a, P a → Reads (f a) l m Q) : Reads (s >>= f) l m Q := hs.bind hf

/-- A scan that takes one token, and then one that takes the others. -/
theorem token {f : α → Scan β} (hs : Reads s [t] (l ++ m) P)
    (hf : ∀ a, P a → Reads (f a) l m Q) : Reads (s >>= f) (t :: l) m Q := hs.bind hf

/-- A scan that takes the tokens, and then one that takes nothing. -/
theorem done {f : α → Scan β} (hs : Reads s k l P) (hf : ∀ a, P a → Reads (f a) [] l Q) :
    Reads (s >>= f) k l Q := by
  have h : Reads (s >>= f) (k ++ []) l Q := bind (l := []) hs hf
  rwa [List.append_nil] at h

/-- The reader behind a scan has left what stood behind. -/
theorem exists_reader (h : Reads s k l P) {r : Reader} (hstart : r.passage.start ≤ r.index)
    (hrest : r.rest = k ++ l) : ∃ a r', s r = (.ok a, r') ∧ P a ∧ r'.passage = r.passage ∧
      r'.passage.start ≤ r'.index ∧ r'.rest = l := by
  obtain ⟨a, ha, hP⟩ := h.from_rest r hstart hrest
  refine ⟨a, _, ha, hP, rfl, Nat.le_add_right_of_le hstart, ?_⟩
  rw [Reader.rest_drop hstart, hrest, List.drop_left]

end Reads

/-- If the reader has left the tokens, then the scan fails. -/
structure Fails (s : Scan α) (l : List Token) : Prop where
  from_rest : ∀ r : Reader, r.passage.start ≤ r.index → r.rest = l →
    ∃ e r', s r = (.error e, r')

theorem Fails.bind (hs : Fails s l) (f : α → Scan β) : Fails (s >>= f) l :=
  ⟨fun r hstart hrest =>
    have ⟨e, r', herror⟩ := hs.from_rest r hstart hrest
    ⟨e, r', bind_of_error herror f⟩⟩

/-- A scan that takes tokens, and then one that fails before the others. -/
theorem Reads.fails {f : α → Scan β} (hs : Reads s k l P) (hf : ∀ a, P a → Fails (f a) l) :
    Fails (s >>= f) (k ++ l) := by
  refine ⟨fun r hstart hrest => ?_⟩
  obtain ⟨a, r₁, ha, hP, -, hstart₁, hrest₁⟩ := hs.exists_reader hstart hrest
  obtain ⟨e, r', herror⟩ := (hf a hP).from_rest r₁ hstart₁ hrest₁
  exact ⟨e, r', (bind_of_ok ha f).trans herror⟩

theorem Reads.passing_fails {f : α → Scan β} (hs : Reads s [] l P) (hf : ∀ a, P a → Fails (f a) l) :
    Fails (s >>= f) l := hs.fails hf

theorem Reads.token_fails {f : α → Scan β} (hs : Reads s [t] l P)
    (hf : ∀ a, P a → Fails (f a) l) : Fails (s >>= f) (t :: l) := hs.fails hf

theorem fails_expect {kind : TokenKind} (expected : String) (hl : ∀ t ∈ l.head?, t.kind ≠ kind) :
    Fails (expect kind expected) l := by
  refine ⟨fun r hstart hrest => ?_⟩
  have hpeek : r.peek? = l.head? := by rw [← Reader.head?_rest hstart, hrest]
  unfold expect
  cases hhead : l.head? with
  | none => exact ⟨_, r, by rw [hpeek, hhead]⟩
  | some t =>
    refine ⟨.unexpected expected t.text t.position, r, ?_⟩
    rw [hpeek, hhead]
    exact if_neg (hl t hhead)

theorem reads_expect {kind : TokenKind} (expected : String) (ht : t.kind = kind) :
    Reads (expect kind expected) [t] l (· = t) := by
  refine ⟨fun r hstart hrest => ⟨t, ?_, rfl⟩⟩
  have hpeek : r.peek? = some t := by rw [← Reader.head?_rest hstart, hrest]; rfl
  simp only [expect, hpeek, if_pos ht]
  rfl

theorem reads_take {kind : TokenKind} (ht : t.kind = kind) :
    Reads (take kind) [t] l (· = true) := by
  refine ⟨fun r hstart hrest => ⟨true, ?_, rfl⟩⟩
  have hpeek : r.peek? = some t := by rw [← Reader.head?_rest hstart, hrest]; rfl
  simp only [take, Reader.take?, Reader.peekKind?, hpeek, Option.map_some, ht, if_true]
  rfl

theorem reads_take_other {kind : TokenKind} (hl : ∀ t ∈ l.head?, t.kind ≠ kind) :
    Reads (take kind) [] l (· = false) := by
  refine ⟨fun r hstart hrest => ⟨false, ?_, rfl⟩⟩
  have hpeek : r.peekKind? ≠ some kind := by
    rw [Reader.peekKind?, ← Reader.head?_rest hstart, hrest]
    intro hkind
    obtain ⟨t, ht, hkind⟩ := Option.map_eq_some_iff.1 hkind
    exact hl t ht hkind
  simp only [take, Reader.take?, if_neg hpeek]
  rfl

theorem reads_space (hl : ∀ t ∈ l.head?, Passage.isSpace t = false) :
    Reads space [] l fun _ => True := by
  refine ⟨fun r hstart hrest => ⟨(), ?_, trivial⟩⟩
  have hnone : r.rest.takeWhile Passage.isSpace = [] := by
    rw [hrest, List.nil_append]
    cases l with
    | nil => rfl
    | cons t l => exact List.takeWhile_cons_of_neg (Bool.eq_false_iff.1 (hl t rfl))
  simp only [space, Reader.skipSpace, Reader.skipWhile, hnone]

/-- A token that may stand between blanks. -/
theorem reads_takeLoose {kind : TokenKind} (ht : t.kind = kind) (hspace : Passage.isSpace t = false)
    {blanks : List Token} (hblanks : ∀ t ∈ blanks, Passage.isSpace t = true)
    (hl : ∀ t ∈ l.head?, Passage.isSpace t = false) :
    Reads (takeLoose kind) (t :: blanks) l (· = true) := by
  refine ⟨fun r hstart hrest => ⟨true, ?_, rfl⟩⟩
  have hskip : r.skipSpace = r := by
    have hnone : r.rest.takeWhile Passage.isSpace = [] := by
      rw [hrest]
      exact List.takeWhile_cons_of_neg (by simp [hspace])
    simp only [Reader.skipSpace, Reader.skipWhile, hnone, List.length_nil, Nat.add_zero]
  have hpeek : r.peek? = some t := by rw [← Reader.head?_rest hstart, hrest]; rfl
  have hbehind : r.next.rest.takeWhile Passage.isSpace = blanks := by
    have hnone : l.takeWhile Passage.isSpace = [] := by
      cases l with
      | nil => rfl
      | cons t l => exact List.takeWhile_cons_of_neg (by simp [hl t rfl])
    rw [Reader.rest_next hstart, hrest, List.cons_append, List.tail_cons,
      List.takeWhile_append_of_pos hblanks, hnone, List.append_nil]
  have hskip' : r.next.skipSpace = { r with index := r.index + (blanks.length + 1) } := by
    rw [Reader.skipSpace, Reader.skipWhile, hbehind, Nat.add_comm blanks.length, ← Nat.add_assoc]
    rfl
  have hloose : r.takeLoose? kind = some { r with index := r.index + (blanks.length + 1) } := by
    rw [Reader.takeLoose?, hskip, Reader.take?, Reader.peekKind?, hpeek, Option.map_some, ht,
      if_pos rfl, Option.map_some, hskip']
  rw [takeLoose, hloose, List.length_cons]

theorem reads_nextKind? : Reads Bracket.nextKind? [] l (· = l.head?.map (·.kind)) := by
  refine ⟨fun r hstart hrest => ⟨_, rfl, ?_⟩⟩
  rw [Reader.peekKind?, ← Reader.head?_rest hstart, hrest]
  rfl

section Scopes

variable {s : Scope}

/-- What was taken off a reader, without the blanks at its edges. -/
theorem spells_trim_range {r : Reader} (hstart : r.passage.start ≤ r.index)
    (hrest : r.rest = k ++ t :: l) :
    (r.passage.range r.index (r.index + k.length)).trim.Spells k := by
  have hne : r.rest ≠ [] := by simp [hrest]
  have hstop := Reader.rest_length_add_index_le hne
  have hsize := Reader.index_add_length_rest_le hstart hne
  have hlength := congrArg List.length hrest
  rw [List.length_append, List.length_cons] at hlength
  have hrange : r.passage.range r.index (r.index + k.length) =
      ⟨r.passage.pattern, r.index, r.index + k.length⟩ :=
    Reader.range_eq hstart (Nat.le_add_right _ _) (by omega)
  have hfits : Passage.Fits ⟨r.passage.pattern, r.index, r.index + k.length⟩ :=
    ⟨Nat.le_add_right _ _, by dsimp only; omega⟩
  have htokens : Passage.tokens ⟨r.passage.pattern, r.index, r.index + k.length⟩ = k := by
    rw [Reader.rest_eq_take hstart] at hrest
    have htake := congrArg (List.take k.length) hrest
    rw [List.take_take, List.take_left, Nat.min_eq_left (by omega)] at htake
    rw [Passage.tokens_eq, Nat.add_sub_cancel_left, htake]
  rw [hrange]
  obtain ⟨lead, trail, hparts, hlead, htrail, -, hfits', htrimmed⟩ := Passage.trim_tokens hfits
  rw [htokens] at hparts
  exact ⟨hfits', htrimmed, lead, trail, hparts, hlead, htrail⟩

theorem reads_body (hs : s.IsBracket) (hall : s.table = .all) (hk : Nested [] k)
    (ht : t.kind = s.closer) : Reads (body s) (k ++ [t]) l (·.Spells k) := by
  refine ⟨fun r hstart hrest => ?_⟩
  rw [List.append_assoc, List.singleton_append] at hrest
  have hcut : s.cut none r.previousPosition [] r.index r.rest =
      ⟨.ok .closed, r.index + k.length⟩ := by
    have hnone : ∀ k ∈ (none : Option TokenKind), k.isNeutral = true := by simp
    rw [hrest, Scope.cut_append_unbroken hs hall hnone (.of_none hk) rfl,
      Scope.cut_closer hs hall hnone ht]
  refine ⟨_, ?_, spells_trim_range hstart hrest⟩
  simp only [body, hcut, List.length_append]
  rfl

/-- An argument up to the token that ends it. -/
theorem argument_of_rest (hs : s.IsBracket) (hall : s.table = .all) {separator : TokenKind}
    (hneutral : separator.isNeutral = true) (hk : Unbroken (some separator) [] k) {r : Reader}
    (hstart : r.passage.start ≤ r.index) (hrest : r.rest = k ++ t :: l) {e : Scope.Ending}
    (ht : t.kind = if e = .closed then s.closer else separator)
    (p : Position) : ∃ a : Passage, a.Spells k ∧
      argument s separator p r = (.ok (a, e), { r with index := r.index + k.length + 1 }) := by
  have hsome : ∀ k ∈ some separator, k.isNeutral = true := by simpa using hneutral
  have hcut : s.cut (some separator) p [] r.index r.rest = ⟨.ok e, r.index + k.length⟩ := by
    rw [hrest, Scope.cut_append_unbroken hs hall hsome hk rfl]
    cases e with
    | closed => exact Scope.cut_closer hs hall hsome ht
    | separated => exact Scope.cut_separator (congrArg some ht.symm)
  refine ⟨_, spells_trim_range hstart hrest, ?_⟩
  simp only [argument, hcut]

theorem reads_arguments (hs : s.IsBracket) (hall : s.table = .all) {separator : TokenKind}
    (hneutral : separator.isNeutral = true) {ks : List (List Token)}
    (hks : ∀ k ∈ ks, Unbroken (some separator) [] k) (h : Separated separator ks tokens)
    (ht : t.kind = s.closer) :
    Reads (arguments s separator) (tokens ++ [t]) l (List.Forall₂ Passage.Spells · ks) := by
  have hfinds : ∀ r : Reader, r.passage.start ≤ r.index → r.rest = tokens ++ t :: l → ∃ ps,
      Finds s separator r ps { r with index := r.index + (tokens.length + 1) } ∧
        List.Forall₂ Passage.Spells ps ks := by
    induction h with
    | single k =>
      intro r hstart hrest
      obtain ⟨a, ha, hfound⟩ := argument_of_rest hs hall hneutral (hks k List.mem_cons_self)
        hstart hrest (e := .closed) ht .nowhere
      exact ⟨[a], .closed hfound, .cons ha .nil⟩
    | @cons k ks t' tokens ht' h ih =>
      intro r hstart hrest
      obtain ⟨hk, hks⟩ := List.forall_mem_cons.1 hks
      rw [List.append_assoc, List.cons_append] at hrest
      obtain ⟨a, ha, hfound⟩ := argument_of_rest hs hall hneutral hk hstart hrest
        (e := .separated) ht' .nowhere
      have hrest' : Reader.rest { r with index := r.index + k.length + 1 } = tokens ++ t :: l := by
        rw [Nat.add_assoc, Reader.rest_drop hstart, hrest]
        simp
      have hstart' : r.passage.start ≤ r.index + k.length + 1 := by omega
      obtain ⟨ps, hps, hspells⟩ := ih hks _ hstart' hrest'
      refine ⟨a :: ps, .separated hfound ?_, .cons ha hspells⟩
      have hlength : (k ++ t' :: tokens).length = k.length + 1 + tokens.length := by
        simp [Nat.add_comm, Nat.add_left_comm]
      simp only [hlength] at hps ⊢
      convert hps using 2
      omega
  refine ⟨fun r hstart hrest => ?_⟩
  rw [List.append_assoc, List.singleton_append] at hrest
  obtain ⟨ps, hps, hspells⟩ := hfinds r hstart hrest
  refine ⟨ps, ?_, hspells⟩
  rw [arguments, hps.argumentsFrom, List.length_append, List.length_singleton]

end Scopes

end Scan

end Wordsmith
