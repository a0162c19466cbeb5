import Mathlib.Data.List.DropRight
import Wordsmith.Proofs.Programs.Tokens
import Wordsmith.Proofs.Scanning

/-!
# Rows of tokens that write code

Brackets nest in tokens that write code, and marks that stand outside all of them separate arguments.
Blanks at the edges of code are blanks at the edges of its tokens, so a passage without them writes
the code without them.

Main results: `Writes.unbroken`, `Writes.separated` and `Writes.trim`.
-/

namespace Wordsmith

variable {a b : Phrase} {as : List Phrase} {t : Token} {tokens k l inner : List Token}

/-! ## Brackets -/

theorem Token.IsPlain.isNeutral (h : t.IsPlain) : t.kind.isNeutral = true := by
  have hkind := h.kind
  revert hkind
  cases t.kind <;> decide

/-- A pair of square brackets in front, around tokens in which brackets nest. -/
theorem Unbroken.brackets {separator : Option TokenKind} {opener closer : Token}
    (hopener : opener.kind = .leftSquare) (hinner : Nested [] inner)
    (hcloser : closer.kind = .rightSquare) (h : Unbroken separator [] tokens) :
    Unbroken separator [] (opener :: (inner ++ [closer] ++ tokens)) := by
  have hclosed : Unbroken separator ([] ++ [closer.kind]) (inner ++ [closer]) :=
    .of_nested hinner (by rw [hcloser]; rfl)
  rw [hcloser] at hclosed
  exact .opener (by rw [hopener]; rfl) (hclosed.append h)

/-- There is no separator, or it is a mark that stands nowhere in the code. -/
def IsFree (separator : Option TokenKind) (as : List Phrase) : Prop :=
  separator = none ∨ ∃ (mark : Char) (a : Phrase), TokenKind.ofSymbol? mark = separator ∧
    as = [a] ∧ .char mark ∉ a

theorem IsFree.behind {separator : Option TokenKind} (h : IsFree separator ((a ++ b) :: as)) :
    IsFree separator (b :: as) := by
  rcases h with hnone | ⟨mark, c, hmark, hrow, hfree⟩
  · exact .inl hnone
  · obtain ⟨rfl, rfl⟩ := List.cons.inj hrow
    exact .inr ⟨mark, b, hmark, rfl, fun hmem => hfree (List.mem_append_right _ hmem)⟩

namespace Writes

theorem ne_nil (h : Writes as tokens) : as ≠ [] := by
  cases h <;> exact List.cons_ne_nil _ _

theorem unbroken {separator : Option TokenKind} (h : Writes as tokens)
    (hseparator : IsFree separator as) : Unbroken separator [] tokens := by
  have neutral : ∀ {t : Token} {kind : TokenKind}, t.kind = kind → kind.isNeutral = true →
      t.kind.isNeutral = true := fun ht hkind => ht ▸ hkind
  induction h generalizing separator with
  | nil => exact .nil
  | plain ht _ ih =>
    refine .neutral ht.isNeutral (fun _ hkind => ?_) (ih hseparator.behind)
    rcases hseparator with rfl | ⟨mark, a, rfl, hrow, hfree⟩
    · cases hkind
    · obtain ⟨rfl, -⟩ := List.cons.inj hrow
      exact hfree (List.mem_append_left _ (List.mem_map_of_mem (ht.symbol mark hkind)))
  | argument hopener htag hname hcolon _ hcloser _ ihinner ih =>
    exact .brackets hopener (.neutral (neutral htag rfl) (.neutral (neutral hcolon rfl)
      (ihinner (.inl rfl)).nested)) hcloser (ih (hseparator.behind (a := [_])))
  | callBare hopener hdollar hname hcloser _ ih =>
    exact .brackets hopener (.neutral (neutral hdollar rfl) (.neutral (neutral hname rfl) .nil))
      hcloser (ih (hseparator.behind (a := [_])))
  | call hopener hdollar hname hcolon _ hcloser _ ihinner ih =>
    exact .brackets hopener (.neutral (neutral hdollar rfl) (.neutral (neutral hname rfl)
      (.neutral (neutral hcolon rfl) (ihinner (.inl rfl)).nested))) hcloser
      (ih (hseparator.behind (a := [_])))
  | separator ht h ih =>
    rcases hseparator with rfl | ⟨-, a, -, hrow, -⟩
    · exact .neutral (neutral ht rfl) (by simp) (ih (.inl rfl))
    · exact absurd (List.cons.inj hrow).2 h.ne_nil

theorem nested (h : Writes as tokens) : Nested [] tokens := (h.unbroken (.inl rfl)).nested

/-- A row of code is written by rows of tokens with semicolons between them. -/
theorem separated (h : Writes as tokens) : ∃ ks, Separated .semicolon ks tokens ∧
    List.Forall₂ (fun a k => Writes [a] k) as ks := by
  -- Tokens in front of a row belong to what its first part is.
  have front : ∀ {a b : Phrase} {as : List Phrase} {k tokens : List Token} {ks},
      Separated .semicolon ks tokens → List.Forall₂ (fun a k => Writes [a] k) (a :: as) ks →
      (∀ l, Writes [a] l → Writes [b] (k ++ l)) → ∃ ks, Separated .semicolon ks (k ++ tokens) ∧
        List.Forall₂ (fun a k => Writes [a] k) (b :: as) ks := by
    intro a b as k tokens ks hks hall hmore
    cases hall with
    | cons hfirst hothers => exact ⟨_, hks.prepend k, .cons (hmore _ hfirst) hothers⟩
  induction h with
  | nil => exact ⟨_, .single [], .cons .nil .nil⟩
  | plain ht _ ih =>
    obtain ⟨ks, hks, hall⟩ := ih
    exact front (k := [_]) hks hall fun _ h => .plain ht h
  | argument hopener htag hname hcolon hinner hcloser _ _ ih =>
    obtain ⟨ks, hks, hall⟩ := ih
    exact front hks hall fun _ h => .argument hopener htag hname hcolon hinner hcloser h
  | callBare hopener hdollar hname hcloser _ ih =>
    obtain ⟨ks, hks, hall⟩ := ih
    exact front hks hall fun _ h => .callBare hopener hdollar hname hcloser h
  | call hopener hdollar hname hcolon hinner hcloser _ _ ih =>
    obtain ⟨ks, hks, hall⟩ := ih
    exact front hks hall fun _ h => .call hopener hdollar hname hcolon hinner hcloser h
  | separator ht _ ih =>
    obtain ⟨ks, hks, hall⟩ := ih
    exact ⟨[] :: ks, .cons ht hks, .cons .nil hall⟩

end Writes

/-! ## Blanks at the edges -/

theorem rdropWhile_append {α : Type} (p : α → Bool) (xs ys : List α) :
    (xs ++ ys).rdropWhile p =
      if ys.rdropWhile p = [] then xs.rdropWhile p else xs ++ ys.rdropWhile p := by
  simp only [List.rdropWhile, List.reverse_append, List.dropWhile_append, List.reverse_eq_nil_iff,
    List.isEmpty_iff]
  split <;> simp

theorem rdropWhile_cons {α : Type} (p : α → Bool) (x : α) (xs : List α) : (x :: xs).rdropWhile p =
    if xs.rdropWhile p = [] then [x].rdropWhile p else x :: xs.rdropWhile p :=
  rdropWhile_append p [x] xs

namespace Token.IsPlain

theorem isBlank_iff (h : t.IsPlain) {x : Piece} (hx : x ∈ Phrase.ofText t.text) :
    x.isBlank = Passage.isSpace t := by
  obtain ⟨c, hc, rfl⟩ := List.mem_map.1 hx
  exact h.blank c hc

theorem ofText_ne (h : t.IsPlain) : Phrase.ofText t.text ≠ [] := fun hnil =>
  h.ne (String.toList_eq_nil_iff.1 (List.map_eq_nil_iff.1 hnil))

end Token.IsPlain

namespace Writes

theorem isSpace_of_kind {kind : TokenKind} (ht : t.kind = kind) (hkind : kind ≠ .whitespace) :
    Passage.isSpace t = false := by
  rw [Passage.isSpace, ht]
  exact beq_eq_false_iff_ne.2 hkind

theorem dropWhile (h : Writes as tokens) : Writes (as.modifyHead (·.dropWhile Piece.isBlank))
    (tokens.dropWhile Passage.isSpace) := by
  have hopen : ∀ {t : Token} {rest : List Token}, t.kind = .leftSquare →
      (t :: rest).dropWhile Passage.isSpace = t :: rest := fun ht =>
    List.dropWhile_cons_of_neg (by simp [isSpace_of_kind ht])
  induction h with
  | nil => exact .nil
  | @plain t a others tokens ht h ih =>
    rw [List.modifyHead_cons] at ih ⊢
    cases hspace : Passage.isSpace t with
    | true =>
      rw [List.dropWhile_cons_of_pos hspace,
        List.dropWhile_append_of_pos fun x hx => (ht.isBlank_iff hx).trans hspace]
      exact ih
    | false =>
      have hkeep : (Phrase.ofText t.text ++ a).dropWhile Piece.isBlank =
          Phrase.ofText t.text ++ a := by
        obtain ⟨x, b, hb⟩ := List.exists_cons_of_ne_nil ht.ofText_ne
        have hx := (ht.isBlank_iff (hb ▸ List.mem_cons_self)).trans hspace
        rw [hb, List.cons_append]
        exact List.dropWhile_cons_of_neg (by simp [hx])
      rw [hkeep, List.dropWhile_cons_of_neg (by simp [hspace])]
      exact .plain ht h
  | argument hopener htag hname hcolon hinner hcloser h =>
    have hwrites := Writes.argument hopener htag hname hcolon hinner hcloser h
    exact (hopen hopener).symm ▸ hwrites
  | callBare hopener hdollar hname hcloser h =>
    have hwrites := Writes.callBare hopener hdollar hname hcloser h
    exact (hopen hopener).symm ▸ hwrites
  | call hopener hdollar hname hcolon hinner hcloser h =>
    have hwrites := Writes.call hopener hdollar hname hcolon hinner hcloser h
    exact (hopen hopener).symm ▸ hwrites
  | separator ht h =>
    rw [List.dropWhile_cons_of_neg (by simp [isSpace_of_kind ht])]
    exact .separator ht h

/-- A first part that ends without a blank stays when blanks are taken off the end. -/
theorem rdropWhile_front {x : Piece} {closer : Token} (hx : x.isBlank = false)
    (hcloser : Passage.isSpace closer = false)
    (hpiece : ∀ (b : Phrase) (m : List Token), Writes [b] m →
      Writes [x :: b] (k ++ [closer] ++ m))
    (h : Writes [a.rdropWhile Piece.isBlank] (l.rdropWhile Passage.isSpace) ∧
      (a.rdropWhile Piece.isBlank = [] ↔ l.rdropWhile Passage.isSpace = [])) :
    Writes [List.rdropWhile Piece.isBlank (x :: a)]
        ((k ++ [closer] ++ l).rdropWhile Passage.isSpace) ∧
      (List.rdropWhile Piece.isBlank (x :: a) = [] ↔
        (k ++ [closer] ++ l).rdropWhile Passage.isSpace = []) := by
  obtain ⟨hwrites, hnil⟩ := h
  rw [rdropWhile_cons, rdropWhile_append _ (k ++ [closer])]
  by_cases ha : a.rdropWhile Piece.isBlank = []
  · have hdone := hpiece [] [] .nil
    rw [List.append_nil] at hdone
    rw [if_pos ha, if_pos (hnil.1 ha), List.rdropWhile_singleton, if_neg (by simp [hx]),
      List.rdropWhile_concat_neg _ _ _ (by simp [hcloser])]
    exact ⟨hdone, by simp⟩
  · rw [if_neg ha, if_neg (mt hnil.2 ha)]
    exact ⟨hpiece _ _ hwrites, by simp⟩

/-- Blanks are taken off the ends of the code and of its tokens. -/
theorem rdropWhile (h : Writes [a] tokens) :
    Writes [a.rdropWhile Piece.isBlank] (tokens.rdropWhile Passage.isSpace) ∧
      (a.rdropWhile Piece.isBlank = [] ↔ tokens.rdropWhile Passage.isSpace = []) := by
  have hclose : ∀ {t : Token}, t.kind = .rightSquare → Passage.isSpace t = false := fun ht =>
    isSpace_of_kind ht (by decide)
  generalize hrow : [a] = as at h
  induction h generalizing a with
  | nil =>
    obtain ⟨rfl, -⟩ := List.cons.inj hrow
    exact ⟨.nil, by simp⟩
  | @plain t b others tokens ht h ih =>
    obtain ⟨rfl, rfl⟩ := List.cons.inj hrow
    obtain ⟨hwrites, hnil⟩ := ih rfl
    rw [rdropWhile_cons, rdropWhile_append]
    by_cases hb : b.rdropWhile Piece.isBlank = []
    · rw [if_pos hb, if_pos (hnil.1 hb), List.rdropWhile_singleton]
      cases hspace : Passage.isSpace t with
      | true =>
        have hnone : (Phrase.ofText t.text).rdropWhile Piece.isBlank = [] :=
          List.rdropWhile_eq_nil_iff.2 fun x hx => (ht.isBlank_iff hx).trans hspace
        rw [hnone]
        exact ⟨.nil, by simp⟩
      | false =>
        have hsame : (Phrase.ofText t.text).rdropWhile Piece.isBlank = Phrase.ofText t.text :=
          List.rdropWhile_eq_self_iff.2 fun hne => by
            simp [(ht.isBlank_iff (List.getLast_mem hne)).trans hspace]
        rw [hsame]
        refine ⟨?_, by simp [ht.ofText_ne]⟩
        simpa using Writes.plain ht .nil
    · rw [if_neg hb, if_neg (mt hnil.2 hb)]
      exact ⟨.plain ht hwrites, by simp [hb]⟩
  | argument hopener htag hname hcolon hinner hcloser _ _ ih =>
    obtain ⟨rfl, rfl⟩ := List.cons.inj hrow
    exact rdropWhile_front rfl (hclose hcloser)
      (fun _ _ => .argument hopener htag hname hcolon hinner hcloser) (ih rfl)
  | @callBare opener dollar name closer _ _ _ hopener hdollar hname hcloser _ ih =>
    obtain ⟨rfl, rfl⟩ := List.cons.inj hrow
    exact rdropWhile_front (k := [opener, dollar, name]) rfl (hclose hcloser)
      (fun _ _ => .callBare hopener hdollar hname hcloser) (ih rfl)
  | call hopener hdollar hname hcolon hinner hcloser _ _ ih =>
    obtain ⟨rfl, rfl⟩ := List.cons.inj hrow
    exact rdropWhile_front rfl (hclose hcloser)
      (fun _ _ => .call hopener hdollar hname hcolon hinner hcloser) (ih rfl)
  | separator ht h =>
    exact absurd (List.cons.inj hrow).2.symm h.ne_nil

/-- What is left of the tokens of code writes what is left of the code. -/
theorem trim (h : Writes [a] tokens) {p : Passage} (hp : p.Spells tokens) :
    Writes [a.trim] p.tokens := by
  obtain ⟨lead, trail, rfl, hlead, htrail⟩ := hp.exists_blanks
  have htokens : ((lead ++ p.tokens ++ trail).dropWhile Passage.isSpace).rdropWhile Passage.isSpace =
      p.tokens := trim_append hlead htrail hp.trimmed.head hp.trimmed.last
  have hdone := h.dropWhile.rdropWhile.1
  rw [htokens] at hdone
  exact hdone

end Writes

end Wordsmith
