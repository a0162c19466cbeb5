import Mathlib.Algebra.Group.Nat.Even
import Mathlib.Data.List.DropRight
import Wordsmith.Proofs.Quoting

/-!
# How literals are written

A text can be put in a source as a constant, and a regular expression as a literal in backticks. A
constant has its quotes doubled, an expression a backslash in front of each backtick, and the one
token that the source then has stands for the text again.

Three readers must agree on where the literal ends: the one that looks for a comment, the one that
cuts the line, and the one that takes the literal apart, which replaces backslash and backtick
wherever they stand together. Of an expression they all go through its characters in pairs of a
backslash and what is behind it (`Paired`), so a backtick may not be hidden already: the backslashes
in front of it must themselves be in pairs (`EvenlyEscaped`).

Main result: `literals_read_back`.
-/

namespace Wordsmith

open Lexer Text

/-! ## Constants -/

/-- The line of a constant alone has that one token. -/
theorem tokenize_quoted {text : String} (hbreak : '\n' ∉ text.toList) :
    tokenize (quoted text) = .ok [⟨.constant, quoted text, ⟨1, 1, 0⟩⟩] := by
  have hline : (quoted text).toList = '"' :: (doubleQuotes text.toList ++ ['"']) := by simp [quoted]
  have hquoted : '\n' ∉ (quoted text).toList := by simp [hline, mem_doubleQuotes, hbreak]
  have hcomment : stripComment .plain (quoted text).toList = (quoted text).toList := by
    simp [hline, stripComment, stripComment_doubleQuotes]
  have hedge : isBlank '"' = false := by decide
  have hlast : ∀ c ∈ (quoted text).toList.getLast?, isBlank c = false := by
    rw [hline, ← List.cons_append, List.getLast?_concat]
    rintro c ⟨⟩
    exact hedge
  rw [tokenize_line hquoted hcomment (by rw [hline]; rintro c ⟨⟩; exact hedge) hlast, hline]
  have hend : ([] : List Char).head? ≠ some '"' := by simp
  exact lexLine_of_lexeme (lexeme_quote (constantTail_doubleQuotes _ hend)) (lexLine_nil _)

/-! ## Backslashes in pairs -/

/-- An even number of backslashes stands in front of every backtick, and at the end. -/
def EvenlyEscaped (cs : List Char) : Prop :=
  ∀ before rest, cs = before ++ rest → rest = [] ∨ rest.head? = some '\x60' →
    Even (before.rtakeWhile (· = '\\')).length

instance (cs : List Char) : Decidable (EvenlyEscaped cs) :=
  decidable_of_iff (∀ n < cs.length + 1, cs.drop n = [] ∨ (cs.drop n).head? = some '\x60' →
      Even ((cs.take n).rtakeWhile (· = '\\')).length) <| by
    refine ⟨fun h before rest hcs hend => ?_, fun h n _ => h _ _ (List.take_append_drop n cs).symm⟩
    have heven := h before.length (by rw [hcs, List.length_append]; omega)
    rw [hcs, List.drop_left, List.take_left] at heven
    exact heven hend

/-- The characters are single ones and pairs of a backslash with any character but a backtick. -/
inductive Paired : List Char → Prop
  | nil : Paired []
  | pair {c : Char} {rest : List Char} : c ≠ '\x60' → Paired rest → Paired ('\\' :: c :: rest)
  | single {c : Char} {rest : List Char} : c ≠ '\\' → Paired rest → Paired (c :: rest)

theorem rtakeWhile_append {p : Char → Bool} (front back : List Char) :
    (front ++ back).rtakeWhile p =
      if back.all p then front.rtakeWhile p ++ back else back.rtakeWhile p := by
  induction back using List.reverseRecOn with
  | nil => simp
  | append_singleton back c ih =>
    rw [← List.append_assoc, List.rtakeWhile_concat, List.rtakeWhile_concat, ih]
    by_cases hc : p c <;> by_cases hback : back.all p <;> simp [hc, hback]

/-- An even number at the end of the front does not matter for what is behind it. -/
theorem even_rtakeWhile_append {p : Char → Bool} {front : List Char}
    (hfront : Even (front.rtakeWhile p).length) (back : List Char) :
    Even ((front ++ back).rtakeWhile p).length ↔ Even (back.rtakeWhile p).length := by
  rw [rtakeWhile_append]
  split
  · next hback =>
    rw [List.rtakeWhile_eq_self_iff.2 (List.all_eq_true.1 hback), List.length_append, Nat.even_add]
    exact ⟨fun h => h.1 hfront, fun h => iff_of_true hfront h⟩
  · rfl

theorem EvenlyEscaped.of_append (front : List Char) {back : List Char}
    (h : EvenlyEscaped (front ++ back)) (hfront : Even (front.rtakeWhile (· = '\\')).length) : EvenlyEscaped back :=
  fun before rest hback hend => (even_rtakeWhile_append hfront before).1
    (h (front ++ before) rest (by rw [hback, List.append_assoc]) hend)

/-- One backslash alone is an odd number. -/
theorem EvenlyEscaped.of_backslash {rest : List Char} (h : EvenlyEscaped ('\\' :: rest)) :
    rest ≠ [] ∧ rest.head? ≠ some '\x60' := by
  have hone : ¬Even (['\\'].rtakeWhile (· = '\\')).length := by decide
  exact ⟨fun hend => hone (h ['\\'] rest rfl (.inl hend)),
    fun hmark => hone (h ['\\'] rest rfl (.inr hmark))⟩

theorem EvenlyEscaped.paired {cs : List Char} (h : EvenlyEscaped cs) : Paired cs := by
  match cs with
  | [] => exact .nil
  | [c] =>
    refine .single (fun hc => ?_) .nil
    subst hc
    exact h.of_backslash.1 rfl
  | c :: d :: rest =>
    by_cases hc : c = '\\'
    · subst hc
      refine .pair (fun hd => h.of_backslash.2 (by simp [hd])) (EvenlyEscaped.paired ?_)
      refine of_append ['\\', d] h ?_
      by_cases hd : d = '\\'
      · subst hd
        decide
      · simp [List.rtakeWhile, hd]
    · refine .single hc (EvenlyEscaped.paired (of_append [c] h ?_))
      simp [List.rtakeWhile, hc]
termination_by cs.length

/-! ## Regular expressions -/

/-- The characters with a backslash put before each backtick. -/
def escapeBackticks : List Char → List Char
  | [] => []
  | '\x60' :: rest => '\\' :: '\x60' :: escapeBackticks rest
  | c :: rest => c :: escapeBackticks rest

/-- The literal of a regular expression; the letter behind it makes it ignore case. -/
def regexLiteral (body : String) (ignoresCase : Bool) : String :=
  .ofList ('\x60' :: escapeBackticks body.toList ++ '\x60' :: if ignoresCase then ['i'] else [])

theorem escapeBackticks_cons {c : Char} (hc : c ≠ '\x60') (rest : List Char) :
    escapeBackticks (c :: rest) = c :: escapeBackticks rest := by
  rw [escapeBackticks]
  exact hc

theorem mem_escapeBackticks {c : Char} {cs : List Char} (h : c ∈ escapeBackticks cs) :
    c = '\\' ∨ c ∈ cs := by
  fun_induction escapeBackticks cs with
  | case1 => exact .inr h
  | case2 rest ih =>
    simp only [List.mem_cons] at h ⊢
    tauto
  | case3 c' rest _ ih =>
    simp only [List.mem_cons] at h ⊢
    tauto

theorem head?_escapeBackticks (cs : List Char) : (escapeBackticks cs).head? ≠ some '\x60' := by
  fun_cases escapeBackticks cs with
  | case1 => simp
  | case2 => simp
  | case3 c rest hc => simpa using hc

/-- Every backtick has its backslash, and no other backslash has a backtick behind it. -/
theorem plainBackticks_escapeBackticks (cs : List Char) :
    RegexLiteral.plainBackticks (escapeBackticks cs) = cs := by
  fun_induction escapeBackticks cs with
  | case1 => rfl
  | case2 rest ih => rw [RegexLiteral.plainBackticks, ih]
  | case3 c rest hc ih =>
    rw [RegexLiteral.plainBackticks, ih]
    intro tail _ htail
    exact head?_escapeBackticks rest (by rw [htail]; rfl)

theorem regexLiteral_read (body : String) (ignoresCase : Bool) :
    RegexLiteral.ofText? (regexLiteral body ignoresCase) = some ⟨body, ignoresCase⟩ := by
  cases ignoresCase <;>
    simp [RegexLiteral.ofText?, regexLiteral, plainBackticks_escapeBackticks]

section Paired

variable {cs : List Char} (h : Paired cs)

include h

theorem Paired.stripComment (tail : List Char) :
    stripComment .regex (escapeBackticks cs ++ tail) =
      escapeBackticks cs ++ stripComment .regex tail := by
  induction h with
  | nil => rfl
  | @pair c rest hc _ ih =>
    rw [escapeBackticks_cons (by decide), escapeBackticks_cons hc]
    simp [Lexer.stripComment, ih]
  | @single c rest hc _ ih =>
    by_cases hmark : c = '\x60'
    · subst hmark
      simp [escapeBackticks, Lexer.stripComment, ih]
    · rw [escapeBackticks_cons hmark, List.cons_append, Lexer.stripComment, ih, List.cons_append]
      · exact fun _ _ h _ => hc h
      · exact hmark

theorem Paired.regexTail {tail text rest : List Char} (htail : regexTail tail = some (text, rest)) :
    regexTail (escapeBackticks cs ++ tail) = some (escapeBackticks cs ++ text, rest) := by
  induction h with
  | nil => exact htail
  | @pair c more hc _ ih =>
    rw [escapeBackticks_cons (by decide), escapeBackticks_cons hc]
    simp [Lexer.regexTail, ih]
  | @single c more hc _ ih =>
    by_cases hmark : c = '\x60'
    · subst hmark
      simp [escapeBackticks, Lexer.regexTail, ih]
    · rw [escapeBackticks_cons hmark, List.cons_append, Lexer.regexTail, ih]
      · rfl
      · exact fun _ _ h _ => hc h
      · exact fun _ h _ => hmark h
      · exact hmark

end Paired

theorem lexeme_backtick {cs text rest : List Char} (h : regexTail cs = some (text, rest)) :
    lexeme '\x60' cs = .ok ⟨.regex, '\x60' :: text, rest⟩ := by
  unfold lexeme
  rw [if_neg (by simp), if_neg (by simp), if_pos (Eq.refl _), h]

/-- The line of a regular expression alone has that one token. -/
theorem tokenize_regexLiteral {body : String} (hbreak : '\n' ∉ body.toList)
    (heven : EvenlyEscaped body.toList) (ignoresCase : Bool) :
    tokenize (regexLiteral body ignoresCase) =
      .ok [⟨.regex, regexLiteral body ignoresCase, ⟨1, 1, 0⟩⟩] := by
  let closing := '\x60' :: if ignoresCase then ['i'] else []
  have hline : (regexLiteral body ignoresCase).toList =
      '\x60' :: (escapeBackticks body.toList ++ closing) := by
    simp [regexLiteral, closing]
  have hedge : ∀ c ∈ closing, c ≠ '\n' ∧ isBlank c = false := by
    cases ignoresCase <;> decide
  have hclosing : stripComment .regex closing = closing ∧ regexTail closing = some (closing, []) := by
    cases ignoresCase <;> exact ⟨rfl, rfl⟩
  have hliteral : '\n' ∉ (regexLiteral body ignoresCase).toList := by
    simp only [hline, List.mem_cons, List.mem_append, not_or]
    exact ⟨by decide, fun h => hbreak ((mem_escapeBackticks h).resolve_left (by decide)),
      fun h => (hedge _ h).1 rfl⟩
  have hcomment : stripComment .plain (regexLiteral body ignoresCase).toList =
      (regexLiteral body ignoresCase).toList := by
    rw [hline, stripComment, heven.paired.stripComment, hclosing.1]
  have hlast : ∀ c ∈ (regexLiteral body ignoresCase).toList.getLast?, isBlank c = false := by
    rw [hline, ← List.cons_append, List.getLast?_append_of_ne_nil _ (List.cons_ne_nil _ _)]
    exact fun c hc => (hedge c (List.mem_of_getLast? hc)).2
  rw [tokenize_line hliteral hcomment (by rw [hline]; rintro c ⟨⟩; decide) hlast, hline,
    lexLine_of_lexeme (lexeme_backtick (heven.paired.regexTail hclosing.2)) (lexLine_nil _), ← hline,
    String.ofList_toList]

/-- A text written as a constant, and a regular expression written as a literal, is one token, and
what the token stands for is the text, or the expression with its flag. -/
theorem literals_read_back :
    (∀ text : String, '\n' ∉ text.toList →
      tokenize (quoted text) = .ok [⟨.constant, quoted text, ⟨1, 1, 0⟩⟩] ∧
        constantText (quoted text) = text) ∧
    ∀ (body : String) (ignoresCase : Bool), '\n' ∉ body.toList → EvenlyEscaped body.toList →
      tokenize (regexLiteral body ignoresCase) =
          .ok [⟨.regex, regexLiteral body ignoresCase, ⟨1, 1, 0⟩⟩] ∧
        RegexLiteral.ofText? (regexLiteral body ignoresCase) = some ⟨body, ignoresCase⟩ :=
  ⟨fun text hbreak => ⟨tokenize_quoted hbreak, constantText_quoted text⟩,
    fun body ignoresCase hbreak heven =>
      ⟨tokenize_regexLiteral hbreak heven ignoresCase, regexLiteral_read body ignoresCase⟩⟩

/-- Quotes and number signs that are part of a text, and an expression with two backslashes in front
of a backtick and the letter of the flag at its end. -/
theorem literals_read_back_marks :
    (tokenize "\"\"\"#\\\"" = .ok [⟨.constant, "\"\"\"#\\\"", ⟨1, 1, 0⟩⟩] ∧
      constantText "\"\"\"#\\\"" = "\"#\\") ∧
    tokenize "\x60#\\\\\\\x60i\x60" = .ok [⟨.regex, "\x60#\\\\\\\x60i\x60", ⟨1, 1, 0⟩⟩] ∧
      RegexLiteral.ofText? "\x60#\\\\\\\x60i\x60" = some ⟨"#\\\\\x60i", false⟩ :=
  ⟨literals_read_back.1 "\"#\\" (by decide),
    literals_read_back.2 "#\\\\\x60i" false (by decide) (by decide)⟩

end Wordsmith
