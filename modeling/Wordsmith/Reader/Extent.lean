import Wordsmith.Bracket
import Wordsmith.Block.Basic

/-!
# How far scans go

A scan never moves its reader back, and the passages that it yields are no longer than what was
left to read. Both go together in one statement about a scan, which holds of a sequence of scans if
it holds of each; so it is shown here for every construct, and what recurses on passages or on the
tokens that are left can rely on it.
-/

namespace Wordsmith

namespace Passage

theorem length_range_le (p : Passage) (start stop : Nat) :
    (p.range start stop).length ≤ p.stop - start := by
  simp only [range, length]
  omega

theorem length_range_le_length (p : Passage) (start stop : Nat) :
    (p.range start stop).length ≤ p.length := by
  simp only [range, length]
  omega

theorem length_trim_le (p : Passage) : p.trim.length ≤ p.length := length_range_le_length ..

end Passage

namespace Reader

theorem remaining_ofPassage (p : Passage) : (ofPassage p).remaining = p.length := rfl

theorem peek?_isSome_iff_lt {r : Reader} {t : Token} (h : r.peek? = some t) :
    r.index < r.passage.stop := by
  simp only [peek?, Passage.token?] at h
  split at h
  · next hb => exact hb.2
  · cases h

/-- Reading a token leaves fewer. -/
theorem read?_remaining_lt {r r' : Reader} {t : Token} (h : r.read? = some (t, r')) :
    r'.remaining < r.remaining := by
  obtain ⟨u, hu, he⟩ := Option.map_eq_some_iff.1 h
  cases he
  have := peek?_isSome_iff_lt hu
  simp only [remaining, next]
  omega

theorem next_remaining_le (r : Reader) : r.next.remaining ≤ r.remaining := by
  simp only [remaining, next]
  omega

theorem skipWhile_remaining_le (r : Reader) (p : Token → Bool) :
    (r.skipWhile p).remaining ≤ r.remaining := by
  simp only [remaining, skipWhile]
  omega

theorem take?_remaining_le {r r' : Reader} {kind : TokenKind} (h : r.take? kind = some r') :
    r'.remaining ≤ r.remaining := by
  simp only [take?] at h
  split at h
  · cases h
    exact r.next_remaining_le
  · cases h

theorem takeLoose?_remaining_le {r r' : Reader} {kind : TokenKind}
    (h : r.takeLoose? kind = some r') : r'.remaining ≤ r.remaining := by
  obtain ⟨u, hu, rfl⟩ := Option.map_eq_some_iff.1 h
  have h₁ := u.skipWhile_remaining_le Passage.isSpace
  have h₂ := take?_remaining_le hu
  have h₃ := r.skipWhile_remaining_le Passage.isSpace
  simp only [skipSpace] at *
  omega

theorem jump_remaining_le (r : Reader) (index : Nat) :
    (r.jump index).remaining ≤ r.remaining := by
  simp only [jump, remaining]
  split
  · simp only
    omega
  · exact Nat.le_refl _

end Reader

namespace Scan

variable {α β : Type} {n : Nat}

/-- From readers with at most `n` tokens left, the scan never moves back, and what it yields
fulfils a condition. -/
structure Yields (n : Nat) (s : Scan α) (P : α → Prop) : Prop where
  from_reader : ∀ r r' a, r.remaining ≤ n → s r = (.ok a, r') →
    r'.remaining ≤ r.remaining ∧ P a

namespace Yields

theorem weaken {s : Scan α} {P Q : α → Prop} (h : Yields n s P) (hPQ : ∀ a, P a → Q a) :
    Yields n s Q := ⟨fun r r' a hr hs =>
  have ⟨h₁, h₂⟩ := h.from_reader r r' a hr hs
  ⟨h₁, hPQ a h₂⟩⟩

theorem pure {a : α} {P : α → Prop} (h : P a) : Yields n (Pure.pure a : Scan α) P := by
  refine ⟨fun r r' b _ hs => ?_⟩
  cases hs
  exact ⟨Nat.le_refl _, h⟩

theorem bind {s : Scan α} {f : α → Scan β} {P : α → Prop} {Q : β → Prop} (hs : Yields n s P)
    (hf : ∀ a, P a → Yields n (f a) Q) : Yields n (s >>= f) Q := by
  refine ⟨fun r r' b hr hb => ?_⟩
  simp only [Bind.bind, ExceptT.bind, ExceptT.mk, ExceptT.bindCont, StateT.bind] at hb
  rcases hsr : s r with ⟨_ | a, r₁⟩
  · rw [hsr] at hb
    cases hb
  · rw [hsr] at hb
    have h₁ := hs.from_reader r r₁ a hr hsr
    have h₂ := (hf a h₁.2).from_reader r₁ r' b (Nat.le_trans h₁.1 hr) hb
    exact ⟨Nat.le_trans h₂.1 h₁.1, h₂.2⟩

theorem ite {c : Prop} [Decidable c] {s t : Scan α} {P : α → Prop} (hs : Yields n s P)
    (ht : Yields n t P) : Yields n (if c then s else t) P := by
  split
  · exact hs
  · exact ht

theorem get : Yields n (MonadState.get : Scan Reader) fun _ => True := by
  refine ⟨fun r r' a _ hs => ?_⟩
  cases hs
  exact ⟨Nat.le_refl _, trivial⟩

theorem throw {e : ScopeError} {P : α → Prop} : Yields n (MonadExcept.throw e : Scan α) P := by
  refine ⟨fun r r' a _ hs => ?_⟩
  cases hs

end Yields

/-! ## Single scans -/

theorem yields_expect (kind : TokenKind) (expected : String) :
    Yields n (expect kind expected) fun _ => True := by
  refine ⟨fun r r' a _ hs => ?_⟩
  simp only [expect] at hs
  split at hs
  · cases hs
  · split at hs
    · cases hs
      exact ⟨r.next_remaining_le, trivial⟩
    · cases hs

theorem yields_take (kind : TokenKind) : Yields n (take kind) fun _ => True := by
  refine ⟨fun r r' a _ hs => ?_⟩
  simp only [take] at hs
  split at hs
  · next h =>
    cases hs
    exact ⟨Reader.take?_remaining_le h, trivial⟩
  · cases hs
    exact ⟨Nat.le_refl _, trivial⟩

theorem yields_takeLoose (kind : TokenKind) : Yields n (takeLoose kind) fun _ => True := by
  refine ⟨fun r r' a _ hs => ?_⟩
  simp only [takeLoose] at hs
  split at hs
  · next h =>
    cases hs
    exact ⟨Reader.takeLoose?_remaining_le h, trivial⟩
  · cases hs
    exact ⟨Nat.le_refl _, trivial⟩

theorem yields_space : Yields n space fun _ => True := by
  refine ⟨fun r r' a _ hs => ?_⟩
  cases hs
  exact ⟨r.skipWhile_remaining_le _, trivial⟩

theorem yields_body (s : Scope) : Yields n (body s) fun p => p.length ≤ n := by
  refine ⟨fun r r' p hr hs => ?_⟩
  simp only [body] at hs
  split at hs
  · cases hs
  · next hcut =>
    have hlt := Scope.cut_index_lt hcut
    cases hs
    refine ⟨?_, ?_⟩
    · simp only [Reader.remaining]
      omega
    · have h₁ := Passage.length_trim_le (r.passage.range r.index
        (s.cut none r.previousPosition [] r.index r.rest).index)
      have h₂ := r.passage.length_range_le r.index
        (s.cut none r.previousPosition [] r.index r.rest).index
      simp only [Reader.remaining] at hr
      omega

theorem argument_length_le {s : Scope} {separator : TokenKind} {start : Position} {r r' : Reader}
    {found : Passage × Scope.Ending} (h : argument s separator start r = (.ok found, r')) :
    found.1.length ≤ r.remaining := by
  simp only [argument] at h
  split at h
  · cases h
  · cases h
    exact Nat.le_trans (Passage.length_trim_le _) (Passage.length_range_le ..)

theorem yields_argumentsFrom (s : Scope) (separator : TokenKind) (start : Position) :
    Yields n (argumentsFrom s separator start) fun ps => ∀ p ∈ ps, p.length ≤ n := by
  refine ⟨fun r r' ps hr hs => ?_⟩
  induction hk : r.remaining using Nat.strongRecOn generalizing r r' ps with
  | ind k ih =>
    rw [argumentsFrom] at hs
    split at hs
    · cases hs
    · next p r₁ h =>
      have hlt := argument_remaining_lt h
      have hle := argument_length_le h
      cases hs
      simp only at hle
      exact ⟨by omega, by simp; omega⟩
    · next p r₁ h =>
      have hlt := argument_remaining_lt h
      have hle := argument_length_le h
      simp only at hle
      split at hs
      · cases hs
      · next others _ hrest =>
        cases hs
        have := ih r₁.remaining (by omega) r₁ r' others (by omega) hrest rfl
        refine ⟨by omega, fun q hq => ?_⟩
        rcases List.mem_cons.1 hq with rfl | hq
        · omega
        · exact this.2 q hq

theorem yields_arguments (s : Scope) (separator : TokenKind) :
    Yields n (arguments s separator) fun ps => ∀ p ∈ ps, p.length ≤ n :=
  ⟨fun r => (yields_argumentsFrom s separator r.previousPosition).from_reader r⟩

/-! ## Constructs -/

theorem yields_expression : Yields n expression fun e => e.2.length ≤ n :=
  (yields_take _).bind fun _ _ => (yields_body _).bind fun _ h => .pure h

theorem yields_query : Yields n query fun p => p.length ≤ n := yields_body _

end Scan

open Scan

theorem Block.yields_readItems {n : Nat} :
    Yields n Block.readItems fun ps => ∀ p ∈ ps, p.length ≤ n := yields_arguments ..

namespace Subroutine

variable {n : Nat}

theorem yields_readParameters : Yields n readParameters fun _ => True :=
  (yields_take _).bind fun _ _ => .ite
    ((yields_arguments ..).bind fun _ _ => .pure trivial)
    ((yields_expect ..).bind fun _ _ => .pure trivial)

theorem yields_readHeader : Yields n readHeader fun _ => True :=
  yields_space.bind fun _ _ => (yields_expect ..).bind fun _ _ => yields_space.bind fun _ _ =>
    (yields_expect ..).bind fun _ _ => yields_space.bind fun _ _ =>
    yields_readParameters.bind fun _ _ => (yields_takeLoose _).bind fun _ _ => .ite
      (.pure trivial) ((yields_expect ..).bind fun _ _ => .pure trivial)

end Subroutine

namespace Bracket

variable {n : Nat}

theorem yields_readArguments : Yields n readArguments fun ps => ∀ p ∈ ps, p.length ≤ n :=
  yields_arguments ..

theorem yields_readCall : Yields n readCall fun ps => ∀ p ∈ ps, p.length ≤ n :=
  yields_space.bind fun _ _ => (yields_take _).bind fun _ _ => .ite yields_readArguments
    ((yields_expect ..).bind fun _ _ => .pure (by simp))

theorem yields_readReplacement : Yields n readReplacement fun ps => ∀ p ∈ ps, p.length ≤ n :=
  yields_space.bind fun _ _ => (yields_expect ..).bind fun _ _ => yields_readArguments

theorem yields_nextKind? : Yields n nextKind? fun _ => True :=
  Yields.get.bind fun _ _ => .pure trivial

theorem yields_readSubroutine :
    Yields n readSubroutine fun b => ∀ p ∈ b.passages, p.length ≤ n :=
  (yields_take _).bind fun _ _ => yields_space.bind fun _ _ => yields_nextKind?.bind fun _ _ => .ite
    (Subroutine.yields_readHeader.bind fun _ _ => (yields_body _).bind fun _ h =>
      .pure (by simpa [passages] using h))
    ((yields_expect ..).bind fun _ _ => yields_readCall.bind fun _ h => .pure h)

theorem yields_read {readReplaced : Scan (List Passage)}
    (hreplaced : Yields n readReplaced fun ps => ∀ p ∈ ps, p.length ≤ n) :
    Yields n (read readReplaced) fun b => ∀ p ∈ b.passages, p.length ≤ n :=
  yields_space.bind fun _ _ => (yields_take _).bind fun _ _ => .ite yields_readSubroutine
    ((yields_take _).bind fun _ _ => .ite
      ((yields_body _).bind fun _ h => .pure (by simpa [passages] using h))
      (yields_nextKind?.bind fun _ _ => .ite
        ((yields_expect ..).bind fun _ _ => hreplaced.bind fun _ h => .pure h)
        ((yields_expect ..).bind fun _ _ => yields_readCall.bind fun _ h => .pure h)))

end Bracket

end Wordsmith
