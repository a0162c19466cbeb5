import Mathlib.Data.List.Forall2
import Wordsmith.Reader.Extent

/-!
# Reading alike

A reader sees no more of a pattern than its tokens, which are those of its code. So two readers of
one code that are at the same token, and whose passages end at the same token, read the same,
whatever their patterns are called and wherever their passages begin. What they find differs in
nothing but the patterns that it belongs to.

Two computations match if both fail or both succeed, and so on with what they fail or succeed with.
Scans agree if they match from all readers that are alike.

Main results: `Scan.Agrees` for every construct, above all `Bracket.agrees_read`.
-/

namespace Wordsmith

/-! ## Computations that match -/

section Matches

variable {ε ε' α α' β β' γ γ' : Type}

/-- Both computations fail or both succeed, with errors and results that are related. -/
inductive Matches (E : ε → ε' → Prop) (R : α → α' → Prop) : Except ε α → Except ε' α' → Prop
  | ok {a : α} {a' : α'} (h : R a a') : Matches E R (.ok a) (.ok a')
  | error {e : ε} {e' : ε'} (h : E e e') : Matches E R (.error e) (.error e')

namespace Matches

variable {E F : ε → ε' → Prop} {R S : α → α' → Prop} {T : β → β' → Prop} {x : Except ε α}
  {x' : Except ε' α'}

theorem pure {a : α} {a' : α'} (h : R a a') :
    Matches E R (Pure.pure a : Except ε α) (Pure.pure a' : Except ε' α') := ok h

theorem throw {e : ε} {e' : ε'} (h : E e e') :
    Matches E R (MonadExcept.throw e : Except ε α) (MonadExcept.throw e' : Except ε' α') := error h

theorem weaken (h : Matches E R x x') (hE : ∀ e e', E e e' → F e e')
    (hR : ∀ a a', R a a' → S a a') : Matches F S x x' := by
  cases h with
  | ok h => exact ok (hR _ _ h)
  | error h => exact error (hE _ _ h)

theorem bind {f : α → Except ε β} {f' : α' → Except ε' β'} (h : Matches E R x x')
    (hf : ∀ a a', R a a' → Matches E T (f a) (f' a')) : Matches E T (x >>= f) (x' >>= f') := by
  cases h with
  | ok h => exact hf _ _ h
  | error h => exact error h

theorem ite {c : Prop} [Decidable c] {y : Except ε α} {y' : Except ε' α'} (h : Matches E R x x')
    (h' : Matches E R y y') : Matches E R (if c then x else y) (if c then x' else y') := by
  split
  · exact h
  · exact h'

/-- Items that are alike lead on from what is alike. -/
theorem foldlM {Q : γ → γ' → Prop} {f : α → γ → Except ε α} {f' : α' → γ' → Except ε' α'}
    (hf : ∀ a a' c c', R a a' → Q c c' → Matches E R (f a c) (f' a' c')) {l : List γ}
    {l' : List γ'} (hl : List.Forall₂ Q l l') {a : α} {a' : α'} (ha : R a a') :
    Matches E R (l.foldlM f a) (l'.foldlM f' a') := by
  induction hl generalizing a a' with
  | nil => exact pure ha
  | cons hc _ ih => exact (hf _ _ _ _ ha hc).bind fun _ _ => ih

/-- What a success on one side comes with on the other. -/
theorem exists_ok (h : Matches E R x x') {a : α} (hx : x = .ok a) : ∃ a', x' = .ok a' ∧ R a a' := by
  cases h with
  | ok h =>
    cases hx
    exact ⟨_, rfl, h⟩
  | error => cases hx

/-- What a failure on one side comes with on the other. -/
theorem exists_error (h : Matches E R x x') {e : ε} (hx : x = .error e) :
    ∃ e', x' = .error e' ∧ E e e' := by
  cases h with
  | ok => cases hx
  | error h =>
    cases hx
    exact ⟨_, rfl, h⟩

end Matches

end Matches

/-- What moves a state and succeeds does so in both of its parts. -/
theorem bind_eq_ok {ε σ α β : Type} {a : ExceptT ε (StateM σ) α}
    {f : α → ExceptT ε (StateM σ) β} {x z : σ} {b : β} (h : (a >>= f) x = (.ok b, z)) :
    ∃ c y, a x = (.ok c, y) ∧ f c y = (.ok b, z) := by
  simp only [Bind.bind, ExceptT.bind, ExceptT.mk, ExceptT.bindCont, StateT.bind] at h
  rcases ha : a x with ⟨_ | c, y⟩
  · rw [ha] at h
    cases h
  · rw [ha] at h
    exact ⟨c, y, rfl, h⟩

/-- What moves a state fails where one of its parts does. -/
theorem bind_eq_error {ε σ α β : Type} {a : ExceptT ε (StateM σ) α}
    {f : α → ExceptT ε (StateM σ) β} {x z : σ} {e : ε} (h : (a >>= f) x = (.error e, z)) :
    a x = (.error e, z) ∨ ∃ c y, a x = (.ok c, y) ∧ f c y = (.error e, z) := by
  simp only [Bind.bind, ExceptT.bind, ExceptT.mk, ExceptT.bindCont, StateT.bind] at h
  rcases ha : a x with ⟨e' | c, y⟩ <;> rw [ha] at h
  · cases h
    exact .inl rfl
  · exact .inr ⟨c, y, rfl, h⟩

theorem bind_of_ok {ε σ α β : Type} {a : ExceptT ε (StateM σ) α} {x y : σ} {c : α}
    (h : a x = (.ok c, y)) (f : α → ExceptT ε (StateM σ) β) : (a >>= f) x = f c y := by
  simp only [Bind.bind, ExceptT.bind, ExceptT.mk, ExceptT.bindCont, StateT.bind, h]

theorem bind_of_error {ε σ α β : Type} {a : ExceptT ε (StateM σ) α} {x y : σ} {e : ε}
    (h : a x = (.error e, y)) (f : α → ExceptT ε (StateM σ) β) : (a >>= f) x = (.error e, y) := by
  simp only [Bind.bind, ExceptT.bind, ExceptT.mk, ExceptT.bindCont, StateT.bind, h]
  rfl

/-! ## Passages and readers -/

/-- Patterns of one code have the same tokens. -/
theorem Pattern.tokens_eq {p q : Pattern} (h : p.code = q.code) : p.tokens = q.tokens := by
  have hp := p.tokenize_code
  rw [h, q.tokenize_code] at hp
  exact Array.toList_inj.1 (Except.ok.inj hp).symm

/-- The passages are the same range of one code. -/
structure Passage.Alike (p q : Passage) : Prop where
  code : p.pattern.code = q.pattern.code
  start : p.start = q.start
  stop : p.stop = q.stop

namespace Passage.Alike

variable {p q : Passage}

theorem refl (p : Passage) : p.Alike p := ⟨rfl, rfl, rfl⟩

theorem tokens (h : p.Alike q) : p.tokens = q.tokens := by
  rw [Passage.tokens, Passage.tokens, Pattern.tokens_eq h.code, h.start, h.stop]

theorem text (h : p.Alike q) : p.text = q.text := by rw [Passage.text, Passage.text, h.tokens]

theorem isEmpty (h : p.Alike q) : p.isEmpty = q.isEmpty := by
  rw [Passage.isEmpty, Passage.isEmpty, h.start, h.stop]

theorem range (h : p.Alike q) (start stop : Nat) :
    (p.range start stop).Alike (q.range start stop) :=
  ⟨h.code, by simp only [Passage.range, h.start, h.stop],
    by simp only [Passage.range, h.start, h.stop]⟩

theorem trim (h : p.Alike q) : p.trim.Alike q.trim := by
  rw [Passage.trim, Passage.trim, h.tokens, h.start, h.stop]
  exact h.range _ _

end Passage.Alike

/-- The readers read one code, are at the same token and stop at the same one. -/
structure Reader.Alike (r r' : Reader) : Prop where
  code : r.passage.pattern.code = r'.passage.pattern.code
  stop : r.passage.stop = r'.passage.stop
  index : r.index = r'.index
  start_le : r.passage.start ≤ r.index
  start_le' : r'.passage.start ≤ r'.index

namespace Reader.Alike

variable {r r' : Reader}

theorem refl (h : r.passage.start ≤ r.index) : r.Alike r := ⟨rfl, rfl, rfl, h, h⟩

theorem symm (h : r.Alike r') : r'.Alike r :=
  ⟨h.code.symm, h.stop.symm, h.index.symm, h.start_le', h.start_le⟩

/-- Both readers have moved to an index. -/
theorem move (h : r.Alike r') {i : Nat} (hi : r.index ≤ i) :
    Reader.Alike { r with index := i } { r' with index := i } :=
  ⟨h.code, h.stop, rfl, Nat.le_trans h.start_le hi, Nat.le_trans h.start_le' (h.index ▸ hi)⟩

theorem ofPassage {p q : Passage} (h : p.Alike q) : (Reader.ofPassage p).Alike (.ofPassage q) :=
  ⟨h.code, h.stop, h.start, Nat.le_refl _, Nat.le_refl _⟩

theorem peek? (h : r.Alike r') : r.peek? = r'.peek? := by
  have hle : r.passage.start ≤ r'.index := h.index ▸ h.start_le
  simp only [Reader.peek?, Passage.token?, Pattern.tokens_eq h.code, h.index, h.stop, hle,
    h.start_le', true_and]

theorem peekKind? (h : r.Alike r') : r.peekKind? = r'.peekKind? := by
  rw [Reader.peekKind?, Reader.peekKind?, h.peek?]

/-- What stands between the next token and another. -/
theorem range (h : r.Alike r') (stop : Nat) :
    (r.passage.range r.index stop).Alike (r'.passage.range r'.index stop) := by
  have hle := h.start_le
  have hle' := h.index ▸ h.start_le'
  refine ⟨h.code, ?_, ?_⟩
  · simp only [Passage.range, ← h.index, ← h.stop]
    omega
  · simp only [Passage.range, ← h.index, ← h.stop]
    omega

theorem rest (h : r.Alike r') : r.rest = r'.rest := by
  rw [Reader.rest, Reader.rest, ← h.stop]
  exact (h.range _).tokens

theorem next (h : r.Alike r') : r.next.Alike r'.next := by
  rw [Reader.next, Reader.next, ← h.index]
  exact h.move (Nat.le_succ _)

theorem skipWhile (h : r.Alike r') (p : Token → Bool) : (r.skipWhile p).Alike (r'.skipWhile p) := by
  rw [Reader.skipWhile, Reader.skipWhile, ← h.index, ← h.rest]
  exact h.move (Nat.le_add_right _ _)

theorem read? (h : r.Alike r') :
    Option.Rel (fun x y => x.1 = y.1 ∧ x.2.Alike y.2) r.read? r'.read? := by
  rw [Reader.read?, Reader.read?, ← h.peek?]
  cases r.peek? with
  | none => exact .none
  | some t => exact .some ⟨rfl, h.next⟩

theorem exists_read? (h : r.Alike r') {t : Token} {r₁ : Reader} (hread : r.read? = some (t, r₁)) :
    ∃ r₁', r'.read? = some (t, r₁') ∧ r₁.Alike r₁' := by
  obtain ⟨_, hpeek, heq⟩ := Option.map_eq_some_iff.1 hread
  cases heq
  exact ⟨r'.next, by rw [Reader.read?, ← h.peek?, hpeek]; rfl, h.next⟩

theorem take? (h : r.Alike r') (kind : TokenKind) :
    Option.Rel Reader.Alike (r.take? kind) (r'.take? kind) := by
  rw [Reader.take?, Reader.take?, ← h.peekKind?]
  split
  · exact .some h.next
  · exact .none

theorem takeLoose? (h : r.Alike r') (kind : TokenKind) :
    Option.Rel Reader.Alike (r.takeLoose? kind) (r'.takeLoose? kind) := by
  have htake := (h.skipWhile Passage.isSpace).take? kind
  rw [Reader.takeLoose?, Reader.takeLoose?, Reader.skipSpace, Reader.skipSpace]
  generalize (r.skipWhile Passage.isSpace).take? kind = x,
    (r'.skipWhile Passage.isSpace).take? kind = y at htake
  cases htake with
  | none => exact .none
  | some h => exact .some (h.skipWhile _)

end Reader.Alike

/-! ## Scopes -/

/-- The errors differ in nothing but the place where an unterminated scope began. -/
inductive ScopeError.Alike : ScopeError → ScopeError → Prop
  | refl (e : ScopeError) : Alike e e
  | unterminated (opener expected : TokenKind) (p q : Position) :
      Alike (.unterminated opener expected p) (.unterminated opener expected q)

namespace Scope

/-- Where a scope began says nothing about where it ends. -/
theorem cut_alike (s : Scope) (separator : Option TokenKind) (p q : Position) (waiting : List Token)
    (i : Nat) (tokens : List Token) :
    (s.cut separator p waiting i tokens).index = (s.cut separator q waiting i tokens).index ∧
      Matches ScopeError.Alike Eq (s.cut separator p waiting i tokens).outcome
        (s.cut separator q waiting i tokens).outcome := by
  induction tokens generalizing waiting i with
  | nil =>
    refine ⟨rfl, .error ?_⟩
    cases waiting with
    | nil => exact .unterminated ..
    | cons => exact .refl _
  | cons t rest ih =>
    unfold cut
    split
    · exact ⟨rfl, .ok rfl⟩
    · split
      · exact ⟨rfl, .error (.refl _)⟩
      · exact ⟨rfl, .ok rfl⟩
      · exact ih ..

theorem le_cut_index (s : Scope) (separator : Option TokenKind) (p : Position)
    (waiting : List Token) (i : Nat) (tokens : List Token) :
    i ≤ (s.cut separator p waiting i tokens).index := by
  induction tokens generalizing waiting i with
  | nil => exact Nat.le_refl _
  | cons t rest ih =>
    unfold cut
    split
    · exact Nat.le_refl _
    · split
      · exact Nat.le_refl _
      · exact Nat.le_refl _
      · exact Nat.le_of_succ_le (ih ..)

end Scope

/-! ## Scans -/

namespace Scan

variable {α α' β β' : Type}

/-- What two scans end with: errors that are alike, or results that are related and readers that are
alike. -/
inductive Ends (R : α → α' → Prop) :
    Except ScopeError α × Reader → Except ScopeError α' × Reader → Prop
  | ok {a : α} {a' : α'} {r r' : Reader} (h : R a a') (hr : r.Alike r') :
    Ends R (.ok a, r) (.ok a', r')
  | error {e e' : ScopeError} {r r' : Reader} (h : e.Alike e') :
    Ends R (.error e, r) (.error e', r')

/-- From readers that are alike, the scans end alike. -/
structure Agrees (R : α → α' → Prop) (s : Scan α) (s' : Scan α') : Prop where
  from_alike : ∀ r r', r.Alike r' → Ends R (s r) (s' r')

namespace Agrees

variable {R : α → α' → Prop} {S : β → β' → Prop} {s t : Scan α} {s' t' : Scan α'}

theorem pure {a : α} {a' : α'} (h : R a a') :
    Agrees R (Pure.pure a : Scan α) (Pure.pure a' : Scan α') := ⟨fun _ _ hr => .ok h hr⟩

theorem throw (e : ScopeError) :
    Agrees R (MonadExcept.throw e : Scan α) (MonadExcept.throw e : Scan α') :=
  ⟨fun _ _ _ => .error (.refl e)⟩

theorem bind {f : α → Scan β} {f' : α' → Scan β'} (hs : Agrees R s s')
    (hf : ∀ a a', R a a' → Agrees S (f a) (f' a')) : Agrees S (s >>= f) (s' >>= f') := by
  refine ⟨fun r r' hr => ?_⟩
  have h := hs.from_alike r r' hr
  simp only [Bind.bind, ExceptT.bind, ExceptT.mk, ExceptT.bindCont, StateT.bind]
  rcases hsr : s r with ⟨x, r₁⟩
  rcases hsr' : s' r' with ⟨x', r₁'⟩
  rw [hsr, hsr'] at h
  cases h with
  | ok h hr₁ => exact (hf _ _ h).from_alike _ _ hr₁
  | error h => exact .error h

theorem ite {c : Prop} [Decidable c] (hs : Agrees R s s') (ht : Agrees R t t') :
    Agrees R (if c then s else t) (if c then s' else t') := by
  split
  · exact hs
  · exact ht

/-- What a success from one reader comes with from the other. -/
theorem exists_ok (h : Agrees R s s') {r r' r₁ : Reader} {a : α} (hr : r.Alike r')
    (hs : s r = (.ok a, r₁)) :
    ∃ a' r₁', s' r' = (.ok a', r₁') ∧ R a a' ∧ r₁.Alike r₁' := by
  have hends := h.from_alike r r' hr
  rcases hs' : s' r' with ⟨x', r₁'⟩
  rw [hs, hs'] at hends
  cases hends with
  | ok hR hr₁ => exact ⟨_, _, rfl, hR, hr₁⟩

end Agrees

/-- A scan that agrees with itself leaves the reader in its passage. -/
theorem Agrees.start_le {R : α → α → Prop} {s : Scan α} (h : Agrees R s s) {r r' : Reader} {a : α}
    (hs : s r = (.ok a, r')) (hstart : r.passage.start ≤ r.index) :
    r'.passage.start ≤ r'.index := by
  obtain ⟨_, _, -, -, hr⟩ := h.exists_ok (.refl hstart) hs
  exact hr.start_le

/-- Passages that are alike, one by one. -/
abbrev AllAlike : List Passage → List Passage → Prop := List.Forall₂ Passage.Alike

theorem AllAlike.exists_left {ps qs : List Passage} (h : AllAlike ps qs) {q : Passage}
    (hq : q ∈ qs) : ∃ p ∈ ps, p.Alike q := by
  induction h with
  | nil => cases hq
  | cons h _ ih =>
    rcases List.mem_cons.1 hq with rfl | hq
    · exact ⟨_, List.mem_cons_self, h⟩
    · obtain ⟨p, hp, hpq⟩ := ih hq
      exact ⟨p, List.mem_cons_of_mem _ hp, hpq⟩

theorem AllAlike.exists_right {ps qs : List Passage} (h : AllAlike ps qs) {p : Passage}
    (hp : p ∈ ps) : ∃ q ∈ qs, p.Alike q := by
  induction h with
  | nil => cases hp
  | cons h _ ih =>
    rcases List.mem_cons.1 hp with rfl | hp
    · exact ⟨_, List.mem_cons_self, h⟩
    · obtain ⟨q, hq, hpq⟩ := ih hp
      exact ⟨q, List.mem_cons_of_mem _ hq, hpq⟩

theorem agrees_nextKind? : Agrees Eq Bracket.nextKind? Bracket.nextKind? :=
  ⟨fun _ _ h => .ok h.peekKind? h⟩

theorem agrees_expect (kind : TokenKind) (expected : String) :
    Agrees Eq (expect kind expected) (expect kind expected) := by
  refine ⟨fun r r' h => ?_⟩
  simp only [expect, ← h.peek?]
  cases r.peek? with
  | none => exact .error (.refl _)
  | some t =>
    dsimp only
    split
    · exact .ok rfl h.next
    · exact .error (.refl _)

theorem agrees_take (kind : TokenKind) : Agrees Eq (take kind) (take kind) := by
  refine ⟨fun r r' h => ?_⟩
  have htake := h.take? kind
  simp only [take]
  generalize r.take? kind = x, r'.take? kind = y at htake
  cases htake with
  | none => exact .ok rfl h
  | some htake => exact .ok rfl htake

theorem agrees_takeLoose (kind : TokenKind) : Agrees Eq (takeLoose kind) (takeLoose kind) := by
  refine ⟨fun r r' h => ?_⟩
  have htake := h.takeLoose? kind
  simp only [takeLoose]
  generalize r.takeLoose? kind = x, r'.takeLoose? kind = y at htake
  cases htake with
  | none => exact .ok rfl h
  | some htake => exact .ok rfl htake

theorem agrees_space : Agrees Eq space space := ⟨fun _ _ h => .ok rfl (h.skipWhile _)⟩

theorem agrees_body (s : Scope) : Agrees Passage.Alike (body s) (body s) := by
  refine ⟨fun r r' h => ?_⟩
  obtain ⟨hindex, hmatch⟩ :=
    s.cut_alike none r.previousPosition r'.previousPosition [] r.index r.rest
  have hle := s.le_cut_index none r.previousPosition [] r.index r.rest
  simp only [body, ← h.rest, ← h.index]
  generalize s.cut none r.previousPosition [] r.index r.rest = c at *
  generalize s.cut none r'.previousPosition [] r.index r.rest = c' at *
  obtain ⟨outcome, i⟩ := c
  obtain ⟨outcome', i'⟩ := c'
  obtain rfl : i = i' := hindex
  cases hmatch with
  | ok =>
    have hrange := h.range i
    rw [← h.index] at hrange
    exact .ok hrange.trim (h.move (Nat.le_succ_of_le hle))
  | error he => exact .error he

theorem agrees_argument (s : Scope) (separator : TokenKind) (p q : Position) :
    Agrees (fun x y => x.1.Alike y.1 ∧ x.2 = y.2) (argument s separator p)
      (argument s separator q) := by
  refine ⟨fun r r' h => ?_⟩
  obtain ⟨hindex, hmatch⟩ := s.cut_alike separator p q [] r.index r.rest
  have hle := s.le_cut_index separator p [] r.index r.rest
  simp only [argument, ← h.rest, ← h.index]
  generalize s.cut separator p [] r.index r.rest = c at *
  generalize s.cut separator q [] r.index r.rest = c' at *
  obtain ⟨outcome, i⟩ := c
  obtain ⟨outcome', i'⟩ := c'
  obtain rfl : i = i' := hindex
  cases hmatch with
  | ok he =>
    have hrange := h.range i
    rw [← h.index] at hrange
    exact .ok ⟨hrange.trim, he⟩ (h.move (Nat.le_succ_of_le hle))
  | error he => exact .error he

theorem agrees_argumentsFrom (s : Scope) (separator : TokenKind) (p q : Position) :
    Agrees AllAlike (argumentsFrom s separator p) (argumentsFrom s separator q) := by
  refine ⟨fun r r' h => ?_⟩
  induction hk : r.remaining using Nat.strongRecOn generalizing r r' with
  | ind k ih =>
    have harg := (agrees_argument s separator p q).from_alike r r' h
    rw [argumentsFrom.eq_def s separator p, argumentsFrom.eq_def s separator q]
    rcases hfound : argument s separator p r with ⟨x, r₁⟩
    rcases hfound' : argument s separator q r' with ⟨x', r₁'⟩
    rw [hfound, hfound'] at harg
    cases harg with
    | error he => exact .error he
    | @ok found found' _ _ hf hr =>
      obtain ⟨a, ending⟩ := found
      obtain ⟨a', ending'⟩ := found'
      obtain ⟨ha, rfl⟩ : a.Alike a' ∧ ending = ending' := hf
      cases ending with
      | closed => exact .ok (.cons ha .nil) hr
      | separated =>
        have hrest := ih r₁.remaining (hk ▸ argument_remaining_lt hfound) r₁ r₁' hr rfl
        dsimp only
        generalize argumentsFrom s separator p r₁ = y,
          argumentsFrom s separator q r₁' = y' at hrest
        cases hrest with
        | ok hps hr₂ => exact .ok (.cons ha hps) hr₂
        | error he => exact .error he

theorem agrees_arguments (s : Scope) (separator : TokenKind) :
    Agrees AllAlike (arguments s separator) (arguments s separator) :=
  ⟨fun r r' =>
    (agrees_argumentsFrom s separator r.previousPosition r'.previousPosition).from_alike r r'⟩

theorem agrees_expression :
    Agrees (fun x y => x.1 = y.1 ∧ x.2.Alike y.2) expression expression :=
  (agrees_take _).bind fun _ _ h => (agrees_body _).bind fun _ _ h' => .pure ⟨h, h'⟩

theorem agrees_query : Agrees Passage.Alike query query := agrees_body _

end Scan

open Scan

/-! ## Constructs -/

theorem Block.agrees_readItems : Agrees AllAlike readItems readItems := agrees_arguments ..

/-- Items that are alike weigh the same. -/
theorem BlockItem.ofPassage_alike {p q : Passage} (h : p.Alike q) :
    (ofPassage p).weight = (ofPassage q).weight ∧ (ofPassage p).code.Alike (ofPassage q).code := by
  simp only [ofPassage, ← h.tokens, ← h.start, ← h.stop]
  split
  · split
    · split
      · exact ⟨rfl, (h.range _ _).trim⟩
      · exact ⟨rfl, h⟩
    · exact ⟨rfl, h⟩
  · exact ⟨rfl, h⟩

theorem Parameter.ofPassage?_alike {p q : Passage} (h : p.Alike q) :
    ofPassage? p = ofPassage? q := by
  rw [ofPassage?, ofPassage?, h.text]

namespace Subroutine

theorem filterMap_ofPassage?_alike {ps qs : List Passage} (h : AllAlike ps qs) :
    ps.filterMap Parameter.ofPassage? = qs.filterMap Parameter.ofPassage? := by
  induction h with
  | nil => rfl
  | cons h _ ih => rw [List.filterMap_cons, List.filterMap_cons, Parameter.ofPassage?_alike h, ih]

theorem agrees_readParameters : Agrees Eq readParameters readParameters :=
  (agrees_take _).bind fun taken _ h => by
    subst h
    exact .ite ((agrees_arguments ..).bind fun _ _ h => .pure (filterMap_ofPassage?_alike h))
      ((agrees_expect ..).bind fun _ _ _ => .pure rfl)

theorem agrees_readHeader : Agrees Eq readHeader readHeader := by
  refine agrees_space.bind fun _ _ _ => (agrees_expect ..).bind fun _ _ _ =>
    agrees_space.bind fun _ _ _ => (agrees_expect ..).bind fun name _ hname => ?_
  subst hname
  refine agrees_space.bind fun _ _ _ => agrees_readParameters.bind fun ps _ hps => ?_
  subst hps
  refine (agrees_takeLoose _).bind fun taken _ htaken => ?_
  subst htaken
  exact .ite (.pure rfl) ((agrees_expect ..).bind fun _ _ _ => .pure rfl)

end Subroutine

namespace Bracket

/-- The brackets are of one kind and say the same, and their passages are alike. -/
inductive Alike : Bracket → Bracket → Prop
  | definition (isMeta : Bool) (name : String) (parameters : List Parameter) {p q : Passage}
      (h : p.Alike q) :
    Alike (.definition isMeta name parameters p) (.definition isMeta name parameters q)
  | call (name : Token) {ps qs : List Passage} (h : AllAlike ps qs) :
    Alike (.call name ps) (.call name qs)
  | metapattern {p q : Passage} (h : p.Alike q) : Alike (.metapattern p) (.metapattern q)
  | replacer (literal : Token) {ps qs : List Passage} (h : AllAlike ps qs) :
    Alike (.replacer literal ps) (.replacer literal qs)
  | tag (name : Token) {ps qs : List Passage} (h : AllAlike ps qs) :
    Alike (.tag name ps) (.tag name qs)

theorem Alike.passages {b b' : Bracket} (h : b.Alike b') : AllAlike b.passages b'.passages := by
  cases h with
  | definition _ _ _ h | metapattern h => exact .cons h .nil
  | call _ h | replacer _ h | tag _ h => exact h

theorem agrees_readArguments : Agrees AllAlike readArguments readArguments := agrees_arguments ..

theorem agrees_readCall : Agrees AllAlike readCall readCall := by
  refine agrees_space.bind fun _ _ _ => (agrees_take _).bind fun taken _ h => ?_
  subst h
  exact .ite agrees_readArguments ((agrees_expect ..).bind fun _ _ _ => .pure .nil)

theorem agrees_readReplacement : Agrees AllAlike readReplacement readReplacement :=
  agrees_space.bind fun _ _ _ => (agrees_expect ..).bind fun _ _ _ => agrees_readArguments

theorem agrees_readDefinition (isMeta : Bool) :
    Agrees Alike (readDefinition isMeta) (readDefinition isMeta) := by
  refine Subroutine.agrees_readHeader.bind fun header _ h => ?_
  subst h
  exact (agrees_body _).bind fun _ _ h => .pure (.definition _ _ _ h)

theorem agrees_readSubroutineCall : Agrees Alike readSubroutineCall readSubroutineCall := by
  refine (agrees_expect ..).bind fun name _ h => ?_
  subst h
  exact agrees_readCall.bind fun _ _ h => .pure (.call name h)

theorem agrees_readSubroutine : Agrees Alike readSubroutine readSubroutine := by
  refine (agrees_take _).bind fun isMeta _ h => agrees_space.bind fun _ _ _ =>
    agrees_nextKind?.bind fun kind _ hkind => ?_
  subst h hkind
  exact .ite (agrees_readDefinition isMeta) agrees_readSubroutineCall

theorem agrees_readMetapattern : Agrees Alike readMetapattern readMetapattern :=
  (agrees_body _).bind fun _ _ h => .pure (.metapattern h)

theorem agrees_readReplacer {readReplaced : Scan (List Passage)}
    (hreplaced : Agrees AllAlike readReplaced readReplaced) :
    Agrees Alike (readReplacer readReplaced) (readReplacer readReplaced) := by
  refine (agrees_expect ..).bind fun literal _ h => ?_
  subst h
  exact hreplaced.bind fun _ _ h => .pure (.replacer literal h)

theorem agrees_readTag : Agrees Alike readTag readTag := by
  refine (agrees_expect ..).bind fun name _ h => ?_
  subst h
  exact agrees_readCall.bind fun _ _ h => .pure (.tag name h)

/-- Readers that are alike find brackets that are alike. -/
theorem agrees_read {readReplaced : Scan (List Passage)}
    (hreplaced : Agrees AllAlike readReplaced readReplaced) :
    Agrees Alike (read readReplaced) (read readReplaced) := by
  refine agrees_space.bind fun _ _ _ => (agrees_take _).bind fun dollar _ hdollar => ?_
  subst hdollar
  refine .ite agrees_readSubroutine ((agrees_take _).bind fun question _ hquestion => ?_)
  subst hquestion
  refine .ite agrees_readMetapattern (agrees_nextKind?.bind fun kind _ hkind => ?_)
  subst hkind
  exact .ite (agrees_readReplacer hreplaced) agrees_readTag

end Bracket

end Wordsmith
