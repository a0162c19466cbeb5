import Mathlib.Data.List.Chain
import Wordsmith.Proofs.Passages
import Wordsmith.Proofs.Positions
import Wordsmith.Proofs.Quoting

/-!
# Texts put together from parts

A text is cut into pieces at a sign and into words at blanks, and put together again with the sign
or with single blanks between the parts. The parts are found again if the sign is in none of them.
What holds at the places between two characters, or at the end of every part, holds of the whole
text if it holds at the sign.

Main results: `pieces_intercalate`, `words_intercalate` and `isChain_intercalate`.
-/

namespace Wordsmith

open Lexer Text

/-! ## Lists of parts -/

theorem mapM_eq_some_iff {α β : Type} {f : α → Option β} {xs : List α} {ys : List β} :
    xs.mapM f = some ys ↔ xs.map f = ys.map some := by
  induction xs generalizing ys with
  | nil => cases ys <;> simp
  | cons x xs ih =>
    rw [List.mapM_cons, Option.bind_eq_bind, Option.bind_eq_some_iff]
    constructor
    · rintro ⟨y, hy, hrest⟩
      obtain ⟨zs, hzs, hys⟩ := Option.bind_eq_some_iff.1 hrest
      cases hys
      rw [List.map_cons, List.map_cons, hy, ih.1 hzs]
    · intro h
      cases ys with
      | nil => cases h
      | cons y ys =>
        obtain ⟨hy, hys⟩ := List.cons.inj h
        exact ⟨y, hy, Option.bind_eq_some_iff.2 ⟨ys, ih.2 hys, rfl⟩⟩

/-- What is read part by part is read from parts. -/
theorem exists_of_mem_mapM {α β : Type} {f : α → Option β} {xs : List α} {ys : List β}
    (h : xs.mapM f = some ys) {y : β} (hy : y ∈ ys) : ∃ x ∈ xs, f x = some y := by
  have hmem : some y ∈ xs.map f := mapM_eq_some_iff.1 h ▸ List.mem_map_of_mem hy
  exact List.mem_map.1 hmem

/-- Parts that are read as what they write are read together. -/
theorem mapM_map {α β : Type} {f : α → Option β} {write : β → α} {ys : List β}
    (h : ∀ y ∈ ys, f (write y) = some y) : (ys.map write).mapM f = some ys := by
  rw [mapM_eq_some_iff, List.map_map]
  exact List.map_congr_left h

theorem infix_intercalate {α : Type} {separator part : List α} {parts : List (List α)}
    (h : part ∈ parts) : part <:+: List.intercalate separator parts := by
  induction parts with
  | nil => cases h
  | cons first parts ih =>
    cases parts with
    | nil =>
      have hsingle : List.intercalate separator [first] = first := List.intercalate_singleton
      exact hsingle.symm ▸ List.mem_singleton.1 h ▸ List.infix_refl part
    | cons second parts =>
      rw [List.intercalate_cons_cons]
      rcases List.mem_cons.1 h with rfl | h
      · exact (List.prefix_append part _).isInfix.trans (List.prefix_append _ _).isInfix
      · exact (ih h).trans (List.suffix_append _ _).isInfix

/-- Rows of parts one behind the other have the separator between them, too. -/
theorem intercalate_append {α : Type} {separator : List α} {parts parts' : List (List α)}
    (hne : parts ≠ []) (hne' : parts' ≠ []) : List.intercalate separator (parts ++ parts') =
      List.intercalate separator parts ++ separator ++ List.intercalate separator parts' := by
  induction parts with
  | nil => exact absurd rfl hne
  | cons first parts ih =>
    cases parts with
    | nil =>
      rw [List.singleton_append, List.intercalate_cons_of_ne_nil hne', List.intercalate_singleton]
    | cons second parts =>
      rw [List.cons_append, List.cons_append, List.intercalate_cons_cons, ← List.cons_append,
        ih (List.cons_ne_nil _ _), List.intercalate_cons_cons]
      simp only [List.append_assoc]

theorem notMem_intercalate {c separator : Char} {parts : List (List Char)} (hne : c ≠ separator)
    (h : ∀ part ∈ parts, c ∉ part) : c ∉ List.intercalate [separator] parts := by
  induction parts with
  | nil => exact List.not_mem_nil
  | cons first parts ih =>
    obtain ⟨hfirst, hparts⟩ := List.forall_mem_cons.1 h
    cases parts with
    | nil => rwa [List.intercalate_singleton]
    | cons second parts =>
      rw [List.intercalate_cons_cons, List.append_assoc, List.singleton_append]
      simp [hfirst, hne, ih hparts]

theorem intercalate_ne_nil {α : Type} {separator part : List α} {parts : List (List α)}
    (h : part ∈ parts) (hne : part ≠ []) : List.intercalate separator parts ≠ [] := fun hnil =>
  hne (List.eq_nil_of_infix_nil (hnil ▸ infix_intercalate h))

theorem pieces_intercalate {c : Char} {parts : List (List Char)} (hne : parts ≠ [])
    (h : ∀ part ∈ parts, c ∉ part) : pieces c (List.intercalate [c] parts) = parts := by
  induction parts with
  | nil => exact absurd rfl hne
  | cons first parts ih =>
    obtain ⟨hfirst, hparts⟩ := List.forall_mem_cons.1 h
    cases parts with
    | nil => rw [List.intercalate_singleton, pieces_of_notMem hfirst]
    | cons second parts =>
      rw [List.intercalate_cons_cons, List.append_assoc, List.singleton_append,
        pieces_append hfirst, ih (List.cons_ne_nil _ _) hparts]

theorem infix_of_mem_pieces {c : Char} {cs part : List Char} (h : part ∈ pieces c cs) :
    part <:+: cs := by
  rw [← intercalate_pieces c cs]
  exact infix_intercalate h

/-- What stands behind a text, and is no separator, stands behind its last piece. -/
theorem exists_pieces_append {c : Char} {more : List Char} (hmore : c ∉ more) (cs : List Char) :
    ∃ parts last, pieces c cs = parts ++ [last] ∧
      pieces c (cs ++ more) = parts ++ [last ++ more] := by
  induction cs with
  | nil => exact ⟨[], [], rfl, pieces_of_notMem hmore⟩
  | cons d cs ih =>
    obtain ⟨parts, last, hpieces, hmore⟩ := ih
    by_cases hd : d = c
    · refine ⟨[] :: parts, last, ?_, ?_⟩
      · rw [pieces, if_pos hd, hpieces, List.cons_append]
      · rw [List.cons_append, pieces, if_pos hd, hmore, List.cons_append]
    · rw [pieces, if_neg hd, List.cons_append, pieces, if_neg hd, hpieces, hmore]
      cases parts with
      | nil => exact ⟨[], d :: last, rfl, rfl⟩
      | cons first parts => exact ⟨(d :: first) :: parts, last, rfl, rfl⟩

/-! ## Words -/

theorem words_go_append {w : List Char} (h : ∀ c ∈ w, isBlank c = false) (rest before : List Char) :
    words.go (w ++ rest) before = words.go rest (w.reverse ++ before) := by
  induction w generalizing before with
  | nil => rfl
  | cons c w ih =>
    obtain ⟨hc, hw⟩ := List.forall_mem_cons.1 h
    have hgo : words.go (c :: (w ++ rest)) before = words.go (w ++ rest) (c :: before) := by
      simp [words.go, hc]
    rw [List.cons_append, hgo, ih hw, List.reverse_cons, List.append_assoc, List.singleton_append]

/-- Words are found again with single blanks between them. -/
theorem words_intercalate {ws : List (List Char)}
    (h : ∀ w ∈ ws, w ≠ [] ∧ ∀ c ∈ w, isBlank c = false) :
    words (List.intercalate [' '] ws) = ws := by
  induction ws with
  | nil => rfl
  | cons w ws ih =>
    obtain ⟨⟨hne, hw⟩, hws⟩ := List.forall_mem_cons.1 h
    obtain ⟨c, cs, hreverse⟩ := List.exists_cons_of_ne_nil (mt List.reverse_eq_nil_iff.1 hne)
    have hword : (c :: cs).reverse = w := by rw [← hreverse, List.reverse_reverse]
    cases ws with
    | nil =>
      have hgo := words_go_append hw [] []
      rw [List.append_nil, List.append_nil, hreverse] at hgo
      rw [List.intercalate_singleton, words, hgo, words.go, hword]
    | cons w' ws =>
      rw [List.intercalate_cons_cons, List.append_assoc, List.singleton_append, words,
        words_go_append hw, List.append_nil, hreverse, words.go, if_pos (by decide)]
      exact congrArg₂ List.cons hword (ih hws)

theorem mem_words_go {cs before w : List Char} (hbefore : ∀ c ∈ before, isBlank c = false)
    (h : w ∈ words.go cs before) : w ≠ [] ∧ ∀ c ∈ w, isBlank c = false := by
  have hreversed : ∀ {c : Char} {cs : List Char}, (∀ x ∈ c :: cs, isBlank x = false) →
      (c :: cs).reverse ≠ [] ∧ ∀ x ∈ (c :: cs).reverse, isBlank x = false := fun hcs =>
    ⟨by simp, fun x hx => hcs x (List.mem_reverse.1 hx)⟩
  fun_induction words.go cs before with
  | case1 => cases h
  | case2 c cs =>
    rw [List.mem_singleton.1 h]
    exact hreversed hbefore
  | case3 c rest hc ih => exact ih (List.forall_mem_nil _) h
  | case4 c rest hc d before ih =>
    rcases List.mem_cons.1 h with rfl | h
    · exact hreversed hbefore
    · exact ih (List.forall_mem_nil _) h
  | case5 c rest before hc ih =>
    exact ih (List.forall_mem_cons.2 ⟨Bool.eq_false_iff.2 hc, hbefore⟩) h

/-- A word is not empty and has no blanks. -/
theorem mem_words {cs w : List Char} (h : w ∈ words cs) :
    w ≠ [] ∧ ∀ c ∈ w, isBlank c = false :=
  mem_words_go (List.forall_mem_nil _) h

/-! ## Blanks and colons -/

theorem trim_infix_self (cs : List Char) : trim cs <:+: cs :=
  (List.rdropWhile_prefix isBlank _).isInfix.trans (List.dropWhile_suffix isBlank).isInfix

/-- A blank at the end does not count. -/
theorem trim_append_blank (cs : List Char) : trim (cs ++ [' ']) = trim cs := by
  have hblank : isBlank ' ' = true := by decide
  rw [trim, trim, trimStart, trimStart, List.dropWhile_append]
  split
  · next hempty =>
    rw [List.isEmpty_iff.1 hempty, List.dropWhile_cons_of_pos hblank]
    rfl
  · exact List.rdropWhile_concat_pos _ _ _ hblank

/-- The characters are not both colons. -/
def Apart (a b : Char) : Prop := ¬(a = ':' ∧ b = ':')

/-- No colons meet at a sign that is none. -/
theorem isChain_append_cons {a b : List Char} {c : Char} (ha : a.IsChain Apart)
    (hb : b.IsChain Apart) (hc : c ≠ ':') : (a ++ c :: b).IsChain Apart := by
  have hsecond : (c :: b).IsChain Apart := List.isChain_cons.2 ⟨fun _ _ h => hc h.1, hb⟩
  refine List.isChain_append.2 ⟨ha, hsecond, fun _ _ d hd h => ?_⟩
  exact hc ((Option.some.inj hd).trans h.2)

theorem isChain_intercalate {separator : Char} {parts : List (List Char)} (hne : separator ≠ ':')
    (h : ∀ part ∈ parts, part.IsChain Apart) :
    (List.intercalate [separator] parts).IsChain Apart := by
  induction parts with
  | nil => exact .nil
  | cons first parts ih =>
    obtain ⟨hfirst, hparts⟩ := List.forall_mem_cons.1 h
    cases parts with
    | nil => rwa [List.intercalate_singleton]
    | cons second parts =>
      rw [List.intercalate_cons_cons, List.append_assoc, List.singleton_append]
      exact isChain_append_cons hfirst (ih hparts) hne

/-! ## Ends -/

/-- The last character, if there is one, is not blank. -/
def EndsSolid (cs : List Char) : Prop := ∀ c ∈ cs.getLast?, isBlank c = false

namespace EndsSolid

variable {a b : List Char}

/-- Only the end counts. -/
theorem append (hne : b ≠ []) (hb : EndsSolid b) : EndsSolid (a ++ b) := fun c hc =>
  hb c (List.getLast?_append_of_ne_nil a hne ▸ hc)

theorem cons {c : Char} (hc : isBlank c = false) (hb : EndsSolid b) : EndsSolid (c :: b) := by
  by_cases hne : b = []
  · subst hne
    exact fun d hd => Option.some.inj hd ▸ hc
  · exact append (a := [c]) hne hb

theorem intercalate {separator : Char} {parts : List (List Char)} (hne : ∀ part ∈ parts, part ≠ [])
    (h : ∀ part ∈ parts, EndsSolid part) : EndsSolid (List.intercalate [separator] parts) := by
  induction parts with
  | nil => nofun
  | cons first parts ih =>
    obtain ⟨-, hparts⟩ := List.forall_mem_cons.1 h
    cases parts with
    | nil => simpa using h
    | cons second parts =>
      obtain ⟨-, hrest⟩ := List.forall_mem_cons.1 hne
      have hmem : second ∈ second :: parts := List.mem_cons_self
      rw [List.intercalate_cons_cons]
      exact append (intercalate_ne_nil hmem (hrest second hmem)) (ih hrest hparts)

end EndsSolid

end Wordsmith
