import Mathlib.Data.List.DropRight
import Wordsmith.Pattern
import Wordsmith.Token.Literal

/-!
# Quoting

A text in double quotes, with its own quotes doubled, is one constant, and what the constant stands
for is the text. Nothing in it begins a comment, and its end is the first quote that is not doubled.
So code can be put in a pattern that evaluates it.

Main results: `constantText_quoted`, and `tokenize_evaluating`: the tokens of a pattern that
evaluates a text.
-/

namespace Wordsmith

open Lexer Text

/-- The characters with every double quote doubled. -/
def doubleQuotes : List Char → List Char
  | [] => []
  | '"' :: rest => '"' :: '"' :: doubleQuotes rest
  | c :: rest => c :: doubleQuotes rest

/-- The constant that stands for a text. -/
def quoted (text : String) : String := .ofList ('"' :: doubleQuotes text.toList ++ ['"'])

/-- A pattern that evaluates a text. -/
def evaluating (text : String) : String := "[?" ++ quoted text ++ "]"

theorem mem_doubleQuotes {c : Char} {cs : List Char} : c ∈ doubleQuotes cs ↔ c ∈ cs := by
  fun_induction doubleQuotes cs with
  | case1 => rfl
  | case2 rest ih => simp [ih]
  | case3 c' rest _ ih => simp [ih]

/-! ## Lines -/

theorem pieces_of_notMem {c : Char} {cs : List Char} (h : c ∉ cs) : pieces c cs = [cs] := by
  induction cs with
  | nil => rfl
  | cons d rest ih =>
    obtain ⟨hne, hrest⟩ := not_or.1 (mt List.mem_cons.2 h)
    rw [pieces, if_neg (Ne.symm hne), ih hrest]

/-- The first piece ends where the separator stands first. -/
theorem pieces_append {c : Char} {cs : List Char} (h : c ∉ cs) (rest : List Char) :
    pieces c (cs ++ c :: rest) = cs :: pieces c rest := by
  induction cs with
  | nil => rw [List.nil_append, pieces, if_pos rfl]
  | cons d cs ih =>
    obtain ⟨hd, hcs⟩ := not_or.1 (mt List.mem_cons.2 h)
    rw [List.cons_append, pieces, if_neg (Ne.symm hd), ih hcs]

theorem lexLines_singleton (number offset : Nat) (line : List Char) :
    lexLines number offset [line] = lexFullLine number offset line := by
  simp only [lexLines]
  cases lexFullLine number offset line with
  | error e => rfl
  | ok tokens => exact congrArg Except.ok (List.append_nil tokens)

/-- A run that ends with the items, or before, ends there also with more behind them. -/
theorem run_append {α : Type} (p : α → Bool) (xs : List α) {more : List α}
    (h : xs.dropWhile p = [] → ∀ x ∈ more.head?, p x = false) :
    (xs ++ more).takeWhile p = xs.takeWhile p ∧
      (xs ++ more).dropWhile p = xs.dropWhile p ++ more := by
  induction xs with
  | nil =>
    cases more with
    | nil => exact ⟨rfl, rfl⟩
    | cons x more =>
      have hx := h rfl x rfl
      exact ⟨List.takeWhile_cons_of_neg (by simp [hx]), List.dropWhile_cons_of_neg (by simp [hx])⟩
  | cons x xs ih =>
    by_cases hx : p x = true
    · rw [List.dropWhile_cons_of_pos hx] at h
      simp [hx, ih h]
    · simp [hx]

/-- A line without a comment and without blanks at its edges is cut into tokens as it is. -/
theorem tokenize_line {line : String} (hbreak : '\n' ∉ line.toList)
    (hcomment : stripComment .plain line.toList = line.toList)
    (hfirst : ∀ c ∈ line.toList.head?, isBlank c = false)
    (hlast : ∀ c ∈ line.toList.getLast?, isBlank c = false) :
    tokenize line = lexLine ⟨1, 1, 0⟩ line.toList := by
  have hreturn : dropCarriageReturn line.toList = line.toList := by
    rw [dropCarriageReturn, if_neg]
    intro h
    have hblank := hlast _ h
    revert hblank
    decide
  have hlead : line.toList.takeWhile isBlank = [] ∧ line.toList.dropWhile isBlank = line.toList :=
    run_append isBlank [] fun _ => hfirst
  have htrail : trimEnd line.toList = line.toList := by
    refine List.rdropWhile_eq_self_iff.2 fun hne => ?_
    rw [hlast _ (List.getLast?_eq_getLast_of_ne_nil hne)]
    decide
  rw [tokenize, pieces_of_notMem hbreak, lexLines_singleton, lexFullLine, hreturn, hcomment,
    hlead.1, hlead.2, htrail]
  rfl

theorem lexLine_nil (start : Position) : lexLine start [] = .ok [] := by rw [lexLine]

theorem lexeme_symbol {c : Char} {kind : TokenKind} {rest : List Char}
    (h : TokenKind.ofSymbol? c = some kind) (hcolon : kind ≠ .colon) :
    lexeme c rest = .ok ⟨kind, [c], rest⟩ := by
  unfold TokenKind.ofSymbol? at h
  split at h <;> cases h <;> first | exact absurd rfl hcolon | rfl

theorem lexeme_quote {cs text rest : List Char} (h : constantTail cs = some (text, rest)) :
    lexeme '"' cs = .ok ⟨.constant, '"' :: text, rest⟩ := by
  unfold lexeme
  rw [if_neg (by simp), if_pos (Eq.refl _), h]

/-- The tokens of a line are its first token and those of what is behind it. -/
theorem lexLine_of_lexeme {start : Position} {c : Char} {rest : List Char} {l : Lexeme}
    (h : lexeme c rest = .ok l) {tokens : List Token}
    (hrest : lexLine (start.afterAll l.text) l.rest = .ok tokens) :
    lexLine start (c :: rest) = .ok (⟨l.kind, .ofList l.text, start⟩ :: tokens) := by
  rw [lexLine]
  split
  · next he => cases h.symm.trans he
  · next hl =>
    cases h.symm.trans hl
    rw [hrest]

theorem exists_of_lexLine {start : Position} {c : Char} {rest : List Char} {l : Lexeme}
    {tokens : List Token} (h : lexLine start (c :: rest) = .ok tokens)
    (hl : lexeme c rest = .ok l) : ∃ others,
      lexLine (start.afterAll l.text) l.rest = .ok others ∧
        tokens = ⟨l.kind, .ofList l.text, start⟩ :: others := by
  rw [lexLine] at h
  split at h
  · cases h
  · next l' hl' =>
    cases hl.symm.trans hl'
    split at h
    · cases h
    · next others hothers =>
      cases h
      exact ⟨others, hothers, rfl⟩

/-! ## The value of a constant -/

theorem collapseQuotes_doubleQuotes (cs : List Char) : collapseQuotes (doubleQuotes cs) = cs := by
  fun_induction doubleQuotes cs with
  | case1 => rfl
  | case2 rest ih => rw [collapseQuotes, ih]
  | case3 c rest hc ih =>
    rw [collapseQuotes, ih]
    exact fun _ h => (hc h).elim

theorem unquoted_append (cs : List Char) : unquoted ('"' :: cs ++ ['"']) = cs := by
  simp [unquoted]

/-- A quoted text stands for the text. -/
theorem constantText_quoted (text : String) : constantText (quoted text) = text := by
  rw [constantText, quoted, String.toList_ofList, unquoted_append, collapseQuotes_doubleQuotes,
    String.ofList_toList]

/-! ## The constant in its line -/

theorem stripComment_doubleQuotes (cs rest : List Char) :
    stripComment .constant (doubleQuotes cs ++ '"' :: rest) =
      doubleQuotes cs ++ '"' :: stripComment .plain rest := by
  fun_induction doubleQuotes cs with
  | case1 => rfl
  | case2 more ih => simp [stripComment, ih]
  | case3 c more hc ih =>
    rw [List.cons_append, stripComment, ih, List.cons_append]
    exact hc

theorem constantTail_doubleQuotes (cs : List Char) {rest : List Char}
    (hrest : rest.head? ≠ some '"') :
    constantTail (doubleQuotes cs ++ '"' :: rest) = some (doubleQuotes cs ++ ['"'], rest) := by
  fun_induction doubleQuotes cs with
  | case1 =>
    rw [List.nil_append, constantTail]
    · rfl
    · intro r hr
      simp [hr] at hrest
  | case2 more ih => simp [constantTail, ih]
  | case3 c more hc ih =>
    rw [List.cons_append, constantTail, ih]
    · rfl
    · exact fun _ h => (hc h).elim
    · exact hc

/-- The characters of a pattern that evaluates a text. -/
theorem toList_evaluating (text : String) :
    (evaluating text).toList = '[' :: '?' :: '"' :: (doubleQuotes text.toList ++ ['"', ']']) := by
  simp [evaluating, quoted, String.toList_append]

/-- A pattern that evaluates a text has four tokens. -/
theorem tokenize_evaluating {text : String} (hline : '\n' ∉ text.toList) :
    ∃ p₀ p₁ p₂ p₃, tokenize (evaluating text) = .ok [⟨.leftSquare, "[", p₀⟩,
      ⟨.question, "?", p₁⟩, ⟨.constant, quoted text, p₂⟩, ⟨.rightSquare, "]", p₃⟩] := by
  have hbreak : '\n' ∉ (evaluating text).toList := by
    simp [toList_evaluating, mem_doubleQuotes, hline]
  have hcomment : stripComment .plain (evaluating text).toList = (evaluating text).toList := by
    simp [toList_evaluating, stripComment, stripComment_doubleQuotes]
  have hfirst : ∀ c ∈ (evaluating text).toList.head?, isBlank c = false := by
    rw [toList_evaluating]
    rintro c ⟨⟩
    decide
  have hlast : ∀ c ∈ (evaluating text).toList.getLast?, isBlank c = false := by
    have hconcat : (evaluating text).toList =
        ('[' :: '?' :: '"' :: doubleQuotes text.toList ++ ['"']) ++ [']'] := by
      simp [toList_evaluating]
    rw [hconcat, List.getLast?_concat]
    rintro c ⟨⟩
    decide
  rw [tokenize_line hbreak hcomment hfirst hlast, toList_evaluating]
  have hend : [']'].head? ≠ some '"' := by simp
  have hclose : ∀ p, lexLine p [']'] = .ok [⟨.rightSquare, "]", p⟩] := fun p =>
    lexLine_of_lexeme (lexeme_symbol rfl (by decide)) (lexLine_nil _)
  have hconstant : ∀ p, ∃ q, lexLine p ('"' :: (doubleQuotes text.toList ++ ['"', ']'])) =
      .ok [⟨.constant, quoted text, p⟩, ⟨.rightSquare, "]", q⟩] := fun p =>
    ⟨_, lexLine_of_lexeme (lexeme_quote (constantTail_doubleQuotes _ hend)) (hclose _)⟩
  have hquestion : ∀ p, ∃ q q', lexLine p ('?' :: '"' :: (doubleQuotes text.toList ++ ['"', ']'])) =
      .ok [⟨.question, "?", p⟩, ⟨.constant, quoted text, q⟩, ⟨.rightSquare, "]", q'⟩] := fun p =>
    have ⟨_, hq⟩ := hconstant (p.afterAll ['?'])
    ⟨_, _, lexLine_of_lexeme (lexeme_symbol rfl (by decide)) hq⟩
  obtain ⟨q, q', hq⟩ := hquestion _
  exact ⟨_, _, _, _, lexLine_of_lexeme (lexeme_symbol rfl (by decide)) hq⟩

end Wordsmith
