import Wordsmith.Proofs.Escapes
import Wordsmith.Proofs.Quoting

/-!
# Comments

Where a comment begins is told before the line is cut: `stripComment` goes through the line with its
own idea of what is quoted and what is escaped. It agrees with the tokens that the line is then cut
into. The text of a token is passed over as a whole (`Transparent`), so behind the last token of a
line a number sign begins a comment, and of a number sign that is kept the token is quoted or an
escape.

There is one exception. A backslash is taken to hide the next character, and of an escape with a
count this is a digit. What the escape names is then looked at, and a backslash, a quote or a
backtick there changes what is made of the rest of the line (`Token.HidesMark`).

Main result: `comments_cut`.
-/

namespace Wordsmith

open Lexer Text

/-- An escape that names a backslash, a double quote or a backtick, with a count in front of it. -/
def Token.HidesMark (t : Token) : Prop :=
  t.kind = .escape ∧ ∃ mark ∈ ['\\', '"', '\x60'], [',', mark] <:+ t.text.toList

instance (t : Token) : Decidable t.HidesMark :=
  decidable_of_iff (t.kind = .escape ∧ ['\\', '"', '\x60'].any ([',', ·] <:+ t.text.toList) = true)
    (by simp [Token.HidesMark])

namespace Lexer

variable {quoting : Quoting} {cs more : List Char}

/-! ## Lines with a comment -/

/-- What stands behind the beginning of a comment does not matter. -/
theorem stripComment_append_of_ne (h : stripComment quoting cs ≠ cs) (more : List Char) :
    stripComment quoting (cs ++ more) = stripComment quoting cs := by
  fun_induction stripComment quoting cs with
  | case1 => exact absurd rfl h
  | case2 rest ih => rw [List.cons_append, stripComment, ih fun heq => h (by rw [heq])]
  | case3 c rest hc ih =>
    rw [List.cons_append, stripComment, ih fun heq => h (by rw [heq])]
    exact hc
  | case4 quoting c rest hquoting ih =>
    rw [List.cons_append, List.cons_append, stripComment, ih fun heq => h (by rw [heq])]
    exact hquoting
  | case5 rest ih => rw [List.cons_append, stripComment, ih fun heq => h (by rw [heq])]
  | case6 c rest hescape hc ih =>
    cases rest with
    | nil => exact absurd rfl h
    | cons d rest =>
      rw [List.cons_append, stripComment, ih fun heq => h (by rw [heq])]
      · exact fun _ _ heq _ => hescape d rest heq rfl
      · exact hc
  | case7 rest ih => rw [List.cons_append, stripComment, ih fun heq => h (by rw [heq])]
  | case8 rest ih => rw [List.cons_append, stripComment, ih fun heq => h (by rw [heq])]
  | case9 rest => rfl
  | case10 c rest hescape hquote hbacktick hhash ih =>
    cases rest with
    | nil => exact absurd rfl h
    | cons d rest =>
      rw [List.cons_append, stripComment, ih fun heq => h (by rw [heq])]
      · exact fun _ _ heq _ => hescape d rest heq rfl
      · exact hquote
      · exact hbacktick
      · exact hhash

/-- What is kept of a line has no comment. -/
theorem stripComment_stripComment (quoting : Quoting) (cs : List Char) :
    stripComment quoting (stripComment quoting cs) = stripComment quoting cs := by
  by_contra h
  obtain ⟨comment, hcs⟩ := prefix_stripComment quoting cs
  have heq := stripComment_append_of_ne h comment
  rw [hcs] at heq
  exact h heq.symm

theorem stripComment_of_append (h : stripComment quoting (cs ++ more) = cs ++ more) :
    stripComment quoting cs = cs := by
  by_contra hne
  rw [stripComment_append_of_ne hne] at h
  have hlength := (prefix_stripComment quoting cs).length_le
  refine hne ((prefix_stripComment quoting cs).eq_of_length (Nat.le_antisymm hlength ?_))
  rw [h, List.length_append]
  exact Nat.le_add_right _ _

/-! ## What is passed over -/

/-- The characters are kept whatever is behind them, and what is behind them is seen as if they were
not there. -/
def Transparent (cs : List Char) : Prop :=
  ∀ more, stripComment .plain (cs ++ more) = cs ++ stripComment .plain more

/-- The character has no meaning for comments. -/
def IsInert (c : Char) : Prop := c ∉ ['\\', '"', '\x60', '#']

instance (c : Char) : Decidable (IsInert c) := inferInstanceAs (Decidable (c ∉ _))

namespace Transparent

theorem nil : Transparent [] := fun _ => rfl

theorem append {cs ds : List Char} (hcs : Transparent cs) (hds : Transparent ds) :
    Transparent (cs ++ ds) := fun more => by
  rw [List.append_assoc, List.append_assoc, hcs, hds]

theorem inert {c : Char} (hc : IsInert c) : Transparent [c] := fun more => by
  simp only [IsInert, List.mem_cons, List.not_mem_nil, or_false, not_or] at hc
  obtain ⟨hescape, hquote, hbacktick, hhash⟩ := hc
  rw [List.singleton_append, stripComment]
  · rfl
  · exact fun _ _ heq _ => hescape heq
  · exact hquote
  · exact hbacktick
  · exact hhash

theorem of_inert (h : ∀ c ∈ cs, IsInert c) : Transparent cs := by
  induction cs with
  | nil => exact .nil
  | cons c cs ih =>
    obtain ⟨hc, hcs⟩ := List.forall_mem_cons.1 h
    exact (inert hc).append (ih hcs)

theorem escaped (c : Char) : Transparent ['\\', c] := fun more => by
  simp [stripComment]

/-- What is behind has no comment if the whole has none. -/
theorem right (h : Transparent cs) (hwhole : stripComment .plain (cs ++ more) = cs ++ more) :
    stripComment .plain more = more :=
  List.append_cancel_left ((h more).symm.trans hwhole)

end Transparent

/-- The only character with a meaning that may stand in a line without quotes and escapes begins a
comment. -/
theorem isInert_of_stripComment (hwhole : stripComment .plain (cs ++ more) = cs ++ more)
    (hcs : ∀ c ∈ cs, c ∉ ['\\', '"', '\x60']) : ∀ c ∈ cs, IsInert c := by
  induction cs with
  | nil => exact List.forall_mem_nil _
  | cons c cs ih =>
    obtain ⟨hc, hcs⟩ := List.forall_mem_cons.1 hcs
    have hinert : IsInert c := by
      intro hmem
      have hhash : c = '#' := by
        simp only [List.mem_cons, List.not_mem_nil, or_false, not_or] at hmem hc
        tauto
      subst hhash
      cases hwhole
    exact List.forall_mem_cons.2 ⟨hinert, ih ((Transparent.inert hinert).right hwhole) hcs⟩

theorem isInert_of_digitValue? {base : Nat} {c : Char} (h : (digitValue? base c).isSome) :
    IsInert c := by
  intro hmem
  simp only [List.mem_cons, List.not_mem_nil, or_false] at hmem
  rcases hmem with rfl | rfl | rfl | rfl <;> cases h

theorem stripComment_constantTail {cs text rest : List Char}
    (h : constantTail cs = some (text, rest)) (more : List Char) :
    stripComment .constant (text ++ more) = text ++ stripComment .plain more := by
  fun_induction constantTail cs generalizing text rest with
  | case1 => cases h
  | case2 r ih =>
    obtain ⟨⟨t, r'⟩, ht, heq⟩ := Option.map_eq_some_iff.1 h
    cases heq
    simp [stripComment, ih ht]
  | case3 r =>
    cases h
    simp [stripComment]
  | case4 c r _ hc ih =>
    obtain ⟨⟨t, r'⟩, ht, heq⟩ := Option.map_eq_some_iff.1 h
    cases heq
    rw [List.cons_append, stripComment, ih ht, List.cons_append]
    exact hc

theorem stripComment_regexTail {cs text rest : List Char} (h : regexTail cs = some (text, rest))
    (more : List Char) :
    stripComment .regex (text ++ more) = text ++ stripComment .plain more := by
  fun_induction regexTail cs generalizing text rest with
  | case1 => cases h
  | case2 c r ih =>
    obtain ⟨⟨t, r'⟩, ht, heq⟩ := Option.map_eq_some_iff.1 h
    cases heq
    simp [stripComment, ih ht]
  | case3 r =>
    cases h
    simp [stripComment]
  | case4 r =>
    cases h
    simp [stripComment]
  | case5 c r hescape _ hc ih =>
    obtain ⟨⟨t, r'⟩, ht, heq⟩ := Option.map_eq_some_iff.1 h
    cases heq
    -- a backslash at the end would hide nothing, but then no backtick is behind it
    have hne : c ≠ '\\' := by
      cases r with
      | nil => cases ht
      | cons d r => exact fun heq => hescape d r heq rfl
    rw [List.cons_append, stripComment, ih ht, List.cons_append]
    · exact fun _ _ heq _ => hne heq
    · exact hc

/-- An escape is passed over, unless the comment is in it or it has a count and names a mark. -/
theorem transparent_escape {counted named : List Char} {n : Nat} {body : Option EscapeBody}
    (hcounted : Escape.Counted counted n) (hnamed : Escape.Names named body)
    (hwhole : stripComment .plain ('\\' :: (counted ++ named) ++ more) =
      '\\' :: (counted ++ named) ++ more)
    (hclear : ∀ c, counted ≠ [] → named = [c] → c ∉ ['\\', '"', '\x60']) :
    Transparent ('\\' :: (counted ++ named)) := by
  have hpoint : ∀ {hex : List Char} {n : Nat}, WritesNumber 16 hex n → ∀ c ∈ hex, IsInert c :=
    fun hhex c hc => isInert_of_digitValue? (hhex.isSome hc)
  cases hcounted with
  | once =>
    cases hnamed with
    | @char c _ => exact .escaped c
    | point _ hhex => exact (Transparent.escaped 'u').append (.of_inert (hpoint hhex))
    | surrogate _ hhex => exact (Transparent.escaped 'u').append (.of_inert (hpoint hhex))
  | @times digits n hdigits =>
    have hmarks : ∀ c ∈ named, c ∉ ['\\', '"', '\x60'] := by
      have hinert : ∀ {c}, IsInert c → c ∉ ['\\', '"', '\x60'] := fun hc hmem =>
        hc (List.mem_append_left ['#'] hmem)
      have hu : 'u' ∉ ['\\', '"', '\x60'] := by decide
      cases hnamed with
      | @char c _ => exact List.forall_mem_singleton.2 (hclear c (by simp) rfl)
      | point _ hhex => exact List.forall_mem_cons.2 ⟨hu, fun c hc => hinert (hpoint hhex c hc)⟩
      | surrogate _ hhex => exact List.forall_mem_cons.2 ⟨hu, fun c hc => hinert (hpoint hhex c hc)⟩
    obtain ⟨d, digits, rfl⟩ := List.exists_cons_of_ne_nil hdigits.1
    have hcount : Transparent ('\\' :: (d :: digits ++ [','])) := by
      refine (Transparent.escaped d).append (.of_inert (List.forall_mem_append.2 ⟨fun c hc => ?_, ?_⟩))
      · exact isInert_of_digitValue? (hdigits.isSome (List.mem_cons_of_mem d hc))
      · exact List.forall_mem_singleton.2 (by decide)
    rw [← List.cons_append, List.append_assoc] at hwhole
    exact hcount.append (.of_inert (isInert_of_stripComment (hcount.right hwhole) hmarks))

/-- The text of a token is passed over. -/
theorem transparent_of_lexeme {c : Char} {rest : List Char} {l : Lexeme} {start : Position}
    (h : lexeme c rest = .ok l) (hwhole : stripComment .plain (c :: rest) = c :: rest)
    (hclear : ¬(⟨l.kind, .ofList l.text, start⟩ : Token).HidesMark) : Transparent l.text := by
  rw [← lexeme_append h] at hwhole
  rcases lexeme_cases h with ⟨hkind, tail, htail, htext⟩ | ⟨-, tail, htail, htext⟩ |
    ⟨-, tail, htail, htext⟩ | ⟨-, htext⟩
  · obtain ⟨counted, named, n, body, rfl, hcounted, hnamed⟩ := Escape.exists_counted htail
    rw [htext] at hwhole ⊢
    refine transparent_escape hcounted hnamed hwhole fun c hne hnamed hc => hclear ⟨hkind, ?_⟩
    cases hcounted with
    | once => exact absurd rfl hne
    | @times digits n _ => exact ⟨c, hc, '\\' :: digits, by simp [htext, hnamed]⟩
  · rw [htext]
    intro more
    rw [List.cons_append, stripComment, stripComment_constantTail htail, List.cons_append]
  · rw [htext]
    intro more
    rw [List.cons_append, stripComment, stripComment_regexTail htail, List.cons_append]
  · exact .of_inert (isInert_of_stripComment hwhole htext)

/-! ## Lines without a comment -/

theorem transparent_of_lexLine {start : Position} {tokens : List Token}
    (h : lexLine start cs = .ok tokens) (hwhole : stripComment .plain cs = cs)
    (hclear : ∀ t ∈ tokens, ¬t.HidesMark) : Transparent cs := by
  fun_induction lexLine start cs generalizing tokens with
  | case1 => exact .nil
  | case2 => cases h
  | case3 => cases h
  | case4 start c rest l hl more hmore ih =>
    cases h
    obtain ⟨hfirst, hothers⟩ := List.forall_mem_cons.1 hclear
    have htext := transparent_of_lexeme hl hwhole hfirst
    rw [← lexeme_append hl] at hwhole ⊢
    exact htext.append (ih hmore (htext.right hwhole) hothers)

/-- The number signs that are left are quoted or escaped, up to a token that hides a mark. -/
theorem hash_of_lexLine {start : Position} {tokens : List Token}
    (h : lexLine start cs = .ok tokens) (hwhole : stripComment .plain cs = cs) {t : Token}
    (ht : t ∈ tokens) (hhash : '#' ∈ t.text.toList) :
    t.kind ∈ [TokenKind.escape, .constant, .regex] ∨
      ∃ e ∈ tokens, e.HidesMark ∧ e.position.offset < t.position.offset := by
  fun_induction lexLine start cs generalizing tokens with
  | case1 =>
    cases h
    cases ht
  | case2 => cases h
  | case3 => cases h
  | case4 start c rest l hl more hmore ih =>
    cases h
    rcases List.mem_cons.1 ht with rfl | ht
    · left
      rcases lexeme_cases hl with ⟨hkind, -⟩ | ⟨hkind, -⟩ | ⟨hkind, -⟩ | ⟨-, htext⟩
      · simp [hkind]
      · simp [hkind]
      · simp [hkind]
      · rw [← lexeme_append hl] at hwhole
        rw [String.toList_ofList] at hhash
        exact absurd (isInert_of_stripComment hwhole htext _ hhash) (by decide)
    · by_cases hclear : (⟨l.kind, .ofList l.text, start⟩ : Token).HidesMark
      · have hle := (row_lexLine hmore).offset_le ht
        have hpos : byteLength l.text ≠ 0 := by
          rw [byteLength_ofList]
          exact mt (String.utf8ByteSize_eq_zero_iff.trans String.ofList_eq_empty_iff).1
            (lexeme_text_ne_nil hl)
        rw [Position.afterAll_eq] at hle
        exact .inr ⟨_, List.mem_cons_self, hclear, by dsimp only at hle ⊢; omega⟩
      · have htext := transparent_of_lexeme hl hwhole hclear
        rw [← lexeme_append hl] at hwhole
        rcases ih hmore (htext.right hwhole) ht with hkind | ⟨e, he, hmark⟩
        · exact .inl hkind
        · exact .inr ⟨e, List.mem_cons_of_mem _ he, hmark⟩

theorem isInert_of_isBlank {c : Char} (h : isBlank c = true) : IsInert c := by
  intro hmem
  have hmarks : ∀ c ∈ ['\\', '"', '\x60', '#'], isBlank c = false := by decide
  exact Bool.false_ne_true ((hmarks c hmem).symm.trans h)

/-- What is left of a line is blanks around what is significant. -/
theorem exists_blanks (line : List Char) : ∃ lead trail,
    uncommented line = lead ++ significant line ++ trail ∧
      ∀ c ∈ lead ++ trail, isBlank c = true := by
  obtain ⟨trail, htrail⟩ : ∃ trail, (uncommented line).dropWhile isBlank =
      significant line ++ trail ∧ ∀ c ∈ trail, isBlank c = true :=
    ⟨_, (List.rdropWhile_append_rtakeWhile).symm, fun c hc => List.mem_rtakeWhile_imp hc⟩
  refine ⟨(uncommented line).takeWhile isBlank, trail, ?_, fun c hc => ?_⟩
  · rw [List.append_assoc, ← htrail.1, List.takeWhile_append_dropWhile]
  · rcases List.mem_append.1 hc with hc | hc
    · exact List.mem_takeWhile_imp hc
    · exact htrail.2 c hc

/-- What is significant of a line has no comment. -/
theorem stripComment_significant (line : List Char) :
    stripComment .plain (significant line) = significant line := by
  obtain ⟨lead, trail, hline, hblank⟩ := exists_blanks line
  have hwhole := stripComment_stripComment .plain (dropCarriageReturn line)
  rw [← uncommented, hline] at hwhole
  have hlead : Transparent lead := .of_inert fun c hc =>
    isInert_of_isBlank (hblank c (List.mem_append_left _ hc))
  exact hlead.right (stripComment_of_append hwhole)

variable {number offset : Nat} {line line' : List Char} {tokens : List Token}

/-- Without a token that hides a mark, what is left of a line is passed over. -/
theorem transparent_of_lexFullLine (h : lexFullLine number offset line = .ok tokens)
    (hclear : ∀ t ∈ tokens, ¬t.HidesMark) : Transparent (uncommented line) := by
  obtain ⟨lead, trail, hline, hblank⟩ := exists_blanks line
  have hinert : ∀ c ∈ lead ++ trail, IsInert c := fun c hc => isInert_of_isBlank (hblank c hc)
  obtain ⟨hlead, htrail⟩ := List.forall_mem_append.1 hinert
  rw [hline]
  exact ((Transparent.of_inert hlead).append
    (transparent_of_lexLine h (stripComment_significant line) hclear)).append (.of_inert htrail)

theorem trimEnd_append {blanks : List Char} (h : ∀ c ∈ blanks, isBlank c = true) (cs : List Char) :
    trimEnd (cs ++ blanks) = trimEnd cs := by
  rw [trimEnd, List.reverse_append, List.dropWhile_append_of_pos fun c hc =>
    h c (List.mem_reverse.1 hc), trimEnd]

/-- Blanks at the end of what is left of a line do not matter. -/
theorem lexFullLine_of_blanks {blanks : List Char}
    (hline : uncommented line' = uncommented line ++ blanks)
    (hblanks : ∀ c ∈ blanks, isBlank c = true) :
    lexFullLine number offset line' = lexFullLine number offset line := by
  have hsplit := List.takeWhile_append_dropWhile (p := isBlank) (l := uncommented line)
  have hlead : ∀ d ∈ (uncommented line).takeWhile isBlank, isBlank d = true := fun d hd =>
    List.mem_takeWhile_imp hd
  rw [lexFullLine_eq, lexFullLine_eq]
  unfold significant trim trimStart
  rw [hline]
  cases hdrop : (uncommented line).dropWhile isBlank with
  | nil =>
    -- no token is cut, wherever the line is thought to begin
    have hall := List.dropWhile_eq_nil_iff.1 hdrop
    have hdrop' : (uncommented line ++ blanks).dropWhile isBlank = [] :=
      List.dropWhile_eq_nil_iff.2 (List.forall_mem_append.2 ⟨hall, hblanks⟩)
    have hnil : trimEnd [] = [] := rfl
    rw [hdrop', hnil, lexLine, lexLine]
  | cons c rest =>
    have hc : ¬isBlank c = true := by
      have hhead := List.head_dropWhile_not isBlank (l := uncommented line) (by simp [hdrop])
      simpa [hdrop] using hhead
    rw [hdrop] at hsplit
    rw [← trimEnd_append hblanks (c :: rest)]
    generalize (uncommented line).takeWhile isBlank = lead at hsplit hlead ⊢
    rw [← hsplit, List.append_assoc, List.takeWhile_append_of_pos hlead,
      List.dropWhile_append_of_pos hlead, List.cons_append, List.takeWhile_cons_of_neg hc,
      List.dropWhile_cons_of_neg hc, List.append_nil]

theorem exists_append_dropCarriageReturn (line : List Char) :
    ∃ blanks, dropCarriageReturn line ++ blanks = line ∧ ∀ c ∈ blanks, isBlank c = true := by
  unfold dropCarriageReturn
  split
  · next hlast =>
    obtain ⟨line, rfl⟩ := List.getLast?_eq_some_iff.1 hlast
    exact ⟨['\r'], by rw [List.dropLast_concat], List.forall_mem_singleton.2 (by decide)⟩
  · exact ⟨[], List.append_nil line, List.forall_mem_nil _⟩

/-- A carriage return behind a comment is part of it. -/
theorem exists_dropCarriageReturn_comment (line comment : List Char) : ∃ comment',
    dropCarriageReturn (line ++ '#' :: comment) = line ++ '#' :: comment' := by
  unfold dropCarriageReturn
  split
  · next hlast =>
    cases comment with
    | nil => simp at hlast
    | cons c comment => exact ⟨_, List.dropLast_append_of_ne_nil (by simp)⟩
  · exact ⟨comment, rfl⟩

/-- What a line is cut into does not depend on a comment behind it. -/
theorem lexFullLine_comment (h : lexFullLine number offset line = .ok tokens)
    (hclear : ∀ t ∈ tokens, ¬t.HidesMark) (comment : List Char) :
    lexFullLine number offset (line ++ '#' :: comment) = .ok tokens := by
  obtain ⟨blanks, hblanks, hall⟩ := exists_append_dropCarriageReturn line
  obtain ⟨comment', hcomment⟩ := exists_dropCarriageReturn_comment line comment
  have hline : uncommented (line ++ '#' :: comment) =
      stripComment .plain (dropCarriageReturn line ++ (blanks ++ '#' :: comment')) := by
    rw [uncommented, hcomment, ← List.append_assoc, hblanks]
  rw [← h]
  by_cases hwhole : stripComment .plain (dropCarriageReturn line) = dropCarriageReturn line
  · refine lexFullLine_of_blanks ?_ hall
    have htransparent := transparent_of_lexFullLine h hclear
    rw [uncommented, hwhole] at htransparent
    have hinert : Transparent blanks := .of_inert fun c hc => isInert_of_isBlank (hall c hc)
    rw [hline, htransparent, hinert, stripComment, List.append_nil, uncommented, hwhole]
  · have hnone : ∀ c ∈ ([] : List Char), isBlank c = true := List.forall_mem_nil _
    refine lexFullLine_of_blanks ?_ hnone
    rw [hline, stripComment_append_of_ne hwhole, List.append_nil, uncommented]

theorem hash_of_lexLines {lines : List (List Char)} (h : lexLines number offset lines = .ok tokens)
    {t : Token} (ht : t ∈ tokens) (hhash : '#' ∈ t.text.toList) :
    t.kind ∈ [TokenKind.escape, .constant, .regex] ∨ ∃ e ∈ tokens, e.HidesMark ∧
      e.position.line = t.position.line ∧ e.position.offset < t.position.offset := by
  induction lines generalizing number offset tokens with
  | nil =>
    cases h
    cases ht
  | cons line lines ih =>
    obtain ⟨first, more, hfirst, hmore, rfl⟩ := lexLines_cons h
    rcases List.mem_append.1 ht with ht | ht
    · refine (hash_of_lexLine hfirst (stripComment_significant line) ht hhash).imp_right ?_
      rintro ⟨e, he, hmark, hlt⟩
      refine ⟨e, List.mem_append_left more he, hmark, ?_, hlt⟩
      rw [line_of_lexFullLine hfirst he, line_of_lexFullLine hfirst ht]
    · exact (ih hmore ht).imp_right fun ⟨e, he, hmark⟩ => ⟨e, List.mem_append_right first he, hmark⟩

end Lexer

/-- Behind a line in which no mark is hidden, a number sign begins a comment, and the line has the
tokens that it has without it. A number sign that is part of a token is quoted or escaped, unless it
stands behind a hidden mark in its line. -/
theorem comments_cut (source : String) (tokens : List Token) (h : tokenize source = .ok tokens) :
    ('\n' ∉ source.toList → (∀ t ∈ tokens, ¬t.HidesMark) → ∀ comment : String,
      '\n' ∉ comment.toList → tokenize (source ++ "#" ++ comment) = .ok tokens) ∧
    ∀ t ∈ tokens, '#' ∈ t.text.toList →
      t.kind ∈ [TokenKind.escape, .constant, .regex] ∨ ∃ e ∈ tokens, e.HidesMark ∧
        e.position.line = t.position.line ∧ e.position.offset < t.position.offset := by
  refine ⟨fun hsource hclear comment hcomment => ?_, fun t ht hhash => hash_of_lexLines h ht hhash⟩
  have hcode : (source ++ "#" ++ comment).toList = source.toList ++ '#' :: comment.toList := by
    simp [String.toList_append]
  have hbreak : '\n' ∉ source.toList ++ '#' :: comment.toList := by
    simp [hsource, hcomment]
  rw [tokenize, pieces_of_notMem hsource, lexLines_singleton] at h
  rw [tokenize, hcode, pieces_of_notMem hbreak, lexLines_singleton]
  exact lexFullLine_comment h hclear comment.toList

/-- Number signs in a constant and in an escape, and an unpaired quote in the comment. -/
theorem comments_cut_signs :
    let line := "\"#\"\\#\\2,x "
    let tokens : List Token := [⟨.constant, "\"#\"", ⟨1, 1, 0⟩⟩, ⟨.escape, "\\#", ⟨1, 4, 3⟩⟩,
      ⟨.escape, "\\2,x", ⟨1, 6, 5⟩⟩]
    tokenize line = .ok tokens ∧ tokenize (line ++ "#" ++ "\"y\r") = .ok tokens ∧
      ∀ t ∈ tokens, '#' ∈ t.text.toList → t.kind ∈ [TokenKind.escape, .constant, .regex] ∨
        ∃ e ∈ tokens, e.HidesMark ∧ e.position.line = t.position.line ∧
          e.position.offset < t.position.offset := by
  intro line tokens
  have htokens : tokenize line = .ok tokens := by decide +kernel
  have hcut := comments_cut line tokens htokens
  exact ⟨htokens, hcut.1 (by decide) (by decide) "\"y\r" (by decide), hcut.2⟩

/-- A backslash that is named behind a count is taken to hide the number sign behind it, which then
begins no comment and is a text. -/
theorem comment_behind_count :
    tokenize "\\4,\\" = .ok [⟨.escape, "\\4,\\", ⟨1, 1, 0⟩⟩] ∧
      tokenize ("\\4,\\" ++ "#" ++ "") =
        .ok [⟨.escape, "\\4,\\", ⟨1, 1, 0⟩⟩, ⟨.text, "#", ⟨1, 5, 4⟩⟩] := by
  decide +kernel

end Wordsmith
