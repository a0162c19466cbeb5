import Mathlib.Data.List.DropRight
import Mathlib.Data.List.Nodup
import Wordsmith.Token.Lexer

/-!
# Where tokens stand

A source is cut into lines, each line loses its comment and the blanks at its edges, and what is left
is cut into tokens. All that remains of the source in a token is its text and a position. The
position is enough to find it again: its offset is that of the bytes of the text, and line and column
follow from what stands before it.

A line is followed on its own first. Its tokens stand side by side (`Row`), so each stands where the
texts of the tokens before it end. The lines are then put together, with what a position must say
(`Position.behind`) told by the characters before it and not by the way the line was cut.

Main result: `tokens_faithful`.
-/

namespace Wordsmith

open Lexer Text

/-! ## Positions -/

theorem byteLength_append (cs ds : List Char) :
    byteLength (cs ++ ds) = byteLength cs + byteLength ds := by
  simp [byteLength]

theorem byteLength_ofList (cs : List Char) : byteLength cs = (String.ofList cs).utf8ByteSize := by
  induction cs with
  | nil => rfl
  | cons c cs ih =>
    have hcons : String.ofList (c :: cs) = String.singleton c ++ String.ofList cs := by
      rw [String.singleton_eq_ofList, ← String.ofList_append]
      rfl
    rw [hcons, String.utf8ByteSize_append, ← ih, String.utf8ByteSize_singleton]
    rfl

theorem byteLength_toList (s : String) : byteLength s.toList = s.utf8ByteSize := by
  rw [byteLength_ofList, String.ofList_toList]

namespace Position

/-- The place behind the beginning of a source: line feeds end lines, columns count the characters
since the last of them, offsets count bytes. -/
def behind (before : String) : Position :=
  ⟨before.toList.count '\n' + 1, (before.toList.rtakeWhile (· ≠ '\n')).length + 1,
    before.utf8ByteSize⟩

theorem afterAll_eq (p : Position) (cs : List Char) :
    p.afterAll cs = ⟨p.line, p.column + cs.length, p.offset + byteLength cs⟩ := by
  induction cs generalizing p with
  | nil => rfl
  | cons c cs ih =>
    rw [afterAll, List.foldl_cons, ← afterAll, ih]
    simp only [after, byteLength, List.map_cons, total_cons, List.length_cons, mk.injEq, true_and]
    omega

/-- Behind the end of a line, positions go on as they do within the next one. -/
theorem behind_append {whole cs : List Char} (hwhole : whole.rtakeWhile (· ≠ '\n') = [])
    (hcs : '\n' ∉ cs) : behind (.ofList (whole ++ cs)) =
      ⟨whole.count '\n' + 1, cs.length + 1, byteLength whole + byteLength cs⟩ := by
  have hall : ∀ c ∈ cs.reverse, decide (c ≠ '\n') = true := fun c hc => by
    rw [List.mem_reverse] at hc
    exact decide_eq_true fun heq => hcs (heq ▸ hc)
  have hlast : (whole ++ cs).rtakeWhile (· ≠ '\n') = cs := by
    rw [List.rtakeWhile, List.reverse_append, List.takeWhile_append_of_pos hall,
      List.reverse_append, List.reverse_reverse]
    exact congrArg (· ++ cs) hwhole
  rw [behind, String.toList_ofList, hlast, List.count_append, List.count_eq_zero.2 hcs,
    ← byteLength_ofList, byteLength_append, Nat.add_zero]

end Position

/-! ## Rows of tokens -/

/-- The tokens stand side by side from a place on, and together they are some characters. -/
inductive Row : Position → List Char → List Token → Prop
  | nil (p : Position) : Row p [] []
  | cons {t : Token} {cs : List Char} {ts : List Token} : t.text ≠ "" →
    Row (t.position.afterAll t.text.toList) cs ts → Row t.position (t.text.toList ++ cs) (t :: ts)

theorem row_lexLine {start : Position} {cs : List Char} {tokens : List Token}
    (h : lexLine start cs = .ok tokens) : Row start cs tokens := by
  fun_induction lexLine start cs generalizing tokens with
  | case1 start =>
    cases h
    exact .nil start
  | case2 => cases h
  | case3 => cases h
  | case4 start c rest l hl more hmore ih =>
    cases h
    have hne : String.ofList l.text ≠ "" := fun hempty =>
      lexeme_text_ne_nil hl (String.ofList_eq_empty_iff.1 hempty)
    have hrow := Row.cons (t := ⟨l.kind, .ofList l.text, start⟩) hne
      (by simpa using ih hmore)
    simpa [lexeme_append hl] using hrow

namespace Row

variable {p : Position} {cs : List Char} {ts : List Token} {t : Token}

theorem flatMap_eq (h : Row p cs ts) : ts.flatMap (·.text.toList) = cs := by
  induction h with
  | nil => rfl
  | cons _ _ ih => rw [List.flatMap_cons, ih]

theorem head (h : Row p cs ts) (ht : t ∈ ts.head?) : t.position = p := by
  cases h with
  | nil => cases ht
  | cons => cases ht; rfl

/-- A token stands where the texts of the tokens before it end. -/
theorem exists_before (h : Row p cs ts) (ht : t ∈ ts) : ∃ before rest,
    cs = before ++ t.text.toList ++ rest ∧ t.position = p.afterAll before := by
  induction h with
  | nil => cases ht
  | @cons u cs ts _ _ ih =>
    rcases List.mem_cons.1 ht with rfl | ht
    · exact ⟨[], cs, by simp, rfl⟩
    · obtain ⟨before, rest, hcs, hposition⟩ := ih ht
      refine ⟨u.text.toList ++ before, rest, by simp [hcs], ?_⟩
      rw [hposition, Position.afterAll, Position.afterAll, Position.afterAll, List.foldl_append]

/-- No token begins before the place where the row does. -/
theorem offset_le (h : Row p cs ts) (ht : t ∈ ts) : p.offset ≤ t.position.offset := by
  obtain ⟨before, rest, -, hposition⟩ := h.exists_before ht
  rw [hposition, Position.afterAll_eq]
  exact Nat.le_add_right _ _

theorem pairwise (h : Row p cs ts) :
    ts.Pairwise fun a b => a.position.offset + a.text.utf8ByteSize ≤ b.position.offset := by
  induction h with
  | nil => exact .nil
  | cons _ hrow ih =>
    refine .cons (fun b hb => ?_) ih
    have := hrow.offset_le hb
    rwa [Position.afterAll_eq, byteLength_toList] at this

theorem isChain (h : Row p cs ts) :
    ts.IsChain fun a b => b.position.offset = a.position.offset + a.text.utf8ByteSize := by
  induction h with
  | nil => exact .nil
  | @cons t cs ts _ hrow ih =>
    cases ts with
    | nil => exact .singleton _
    | cons u ts =>
      refine .cons_cons ?_ ih
      rw [hrow.head rfl, Position.afterAll_eq, byteLength_toList]

end Row

/-! ## Lines -/

namespace Lexer

variable {number offset : Nat} {line : List Char} {lines : List (List Char)} {tokens : List Token}

/-- The line without the carriage return at its end and without its comment. -/
def uncommented (line : List Char) : List Char := stripComment .plain (dropCarriageReturn line)

/-- What of a line is cut into tokens: all but its carriage return, its comment and the blanks at the
edges of the rest. -/
def significant (line : List Char) : List Char := trim (uncommented line)

theorem prefix_dropCarriageReturn (line : List Char) : dropCarriageReturn line <+: line := by
  unfold dropCarriageReturn
  split
  · exact List.dropLast_prefix line
  · exact List.prefix_refl line

theorem prefix_stripComment (quoting : Quoting) (cs : List Char) :
    stripComment quoting cs <+: cs := by
  fun_induction stripComment quoting cs with
  | case1 => exact List.prefix_refl _
  | case9 => exact List.nil_prefix
  | _ => simpa

theorem lexFullLine_eq (number offset : Nat) (line : List Char) :
    lexFullLine number offset line =
      let lead := (uncommented line).takeWhile isBlank
      lexLine ⟨number, lead.length + 1, offset + byteLength lead⟩ (significant line) :=
  rfl

theorem row_lexFullLine (h : lexFullLine number offset line = .ok tokens) :
    Row ⟨number, ((uncommented line).takeWhile isBlank).length + 1,
      offset + byteLength ((uncommented line).takeWhile isBlank)⟩ (significant line) tokens :=
  row_lexLine h

/-- A line is the blanks in front, what is significant, and what is left out behind it. -/
theorem exists_tail (line : List Char) :
    ∃ tail, line = (uncommented line).takeWhile isBlank ++ significant line ++ tail := by
  obtain ⟨comment, hcomment⟩ : uncommented line <+: line :=
    (prefix_stripComment .plain _).trans (prefix_dropCarriageReturn line)
  obtain ⟨blanks, hblanks⟩ : significant line <+: (uncommented line).dropWhile isBlank :=
    List.rdropWhile_prefix isBlank _
  refine ⟨blanks ++ comment, ?_⟩
  rw [← List.append_assoc, List.append_assoc _ (significant line), hblanks,
    List.takeWhile_append_dropWhile, hcomment]

theorem exists_before_of_lexFullLine (h : lexFullLine number offset line = .ok tokens) {t : Token}
    (ht : t ∈ tokens) : ∃ before rest, line = before ++ t.text.toList ++ rest ∧
      t.position = ⟨number, before.length + 1, offset + byteLength before⟩ := by
  obtain ⟨tail, hline⟩ := exists_tail line
  obtain ⟨before, rest, hcs, hposition⟩ := (row_lexFullLine h).exists_before ht
  refine ⟨(uncommented line).takeWhile isBlank ++ before, rest ++ tail, ?_, ?_⟩
  · rw [hcs] at hline
    simpa using hline
  · rw [hposition, Position.afterAll_eq, List.length_append, byteLength_append]
    simp only [Position.mk.injEq, true_and]
    omega

/-- No token ends behind its line. -/
theorem end_le_of_lexFullLine (h : lexFullLine number offset line = .ok tokens) {t : Token}
    (ht : t ∈ tokens) :
    t.position.offset + t.text.utf8ByteSize ≤ offset + byteLength line := by
  obtain ⟨before, rest, hline, hposition⟩ := exists_before_of_lexFullLine h ht
  rw [hposition, hline, byteLength_append, byteLength_append, byteLength_toList]
  dsimp only
  omega

theorem line_of_lexFullLine (h : lexFullLine number offset line = .ok tokens) {t : Token}
    (ht : t ∈ tokens) : t.position.line = number := by
  obtain ⟨before, rest, -, hposition⟩ := exists_before_of_lexFullLine h ht
  rw [hposition]

theorem lexLines_cons (h : lexLines number offset (line :: lines) = .ok tokens) :
    ∃ first more, lexFullLine number offset line = .ok first ∧
      lexLines (number + 1) (offset + byteLength line + 1) lines = .ok more ∧
      tokens = first ++ more := by
  rw [lexLines] at h
  split at h
  · cases h
  · next first hfirst =>
    split at h
    · cases h
    · next more hmore =>
      cases h
      exact ⟨first, more, hfirst, hmore, rfl⟩

/-- Escapes, constants and regular expressions have a mark in front and a reader of their own; no
other token has one of these marks in it. -/
theorem lexeme_cases {c : Char} {rest : List Char} {l : Lexeme} (h : lexeme c rest = .ok l) :
    (l.kind = .escape ∧ ∃ tail, escapeTail rest = some (tail, l.rest) ∧ l.text = '\\' :: tail) ∨
      (l.kind = .constant ∧ ∃ tail, constantTail rest = some (tail, l.rest) ∧ l.text = '"' :: tail) ∨
      (l.kind = .regex ∧ ∃ tail, regexTail rest = some (tail, l.rest) ∧ l.text = '\x60' :: tail) ∨
      l.kind ∉ [TokenKind.escape, .constant, .regex] ∧ ∀ d ∈ l.text, d ∉ ['\\', '"', '\x60'] := by
  unfold lexeme at h
  split at h
  · next hc =>
    split at h
    · next tail r htail =>
      cases h
      exact .inl ⟨rfl, tail, htail, by rw [hc]⟩
    · cases h
  split at h
  · next hc =>
    split at h
    · next tail r htail =>
      cases h
      exact .inr (.inl ⟨rfl, tail, htail, by rw [hc]⟩)
    · cases h
  split at h
  · next hc =>
    split at h
    · next tail r htail =>
      cases h
      exact .inr (.inr (.inl ⟨rfl, tail, htail, by rw [hc]⟩))
    · cases h
  next hescape hquote hbacktick =>
  have hfirst : c ∉ ['\\', '"', '\x60'] := by simp [hescape, hquote, hbacktick]
  refine .inr (.inr (.inr ?_))
  have hblank : ∀ d ∈ ['\\', '"', '\x60'], isBlank d = false := by simp [isBlank]
  have hplain : ∀ d ∈ ['\\', '"', '\x60'], isPlain d = false := by simp [isPlain]
  split at h
  · cases h
    exact ⟨by simp, List.forall_mem_cons.2 ⟨hfirst, fun d hd hmark =>
      Bool.false_ne_true ((hblank d hmark).symm.trans (List.mem_takeWhile_imp hd))⟩⟩
  · split at h
    · cases h
      exact ⟨by simp, List.forall_mem_cons.2 ⟨hfirst, by simp⟩⟩
    · next kind hkind _ =>
      cases h
      refine ⟨?_, List.forall_mem_cons.2 ⟨hfirst, by simp⟩⟩
      unfold TokenKind.ofSymbol? at hkind
      split at hkind <;> cases hkind <;> simp
    · cases h
      exact ⟨by simp, List.forall_mem_cons.2 ⟨hfirst, fun d hd hmark =>
        Bool.false_ne_true ((hplain d hmark).symm.trans (List.mem_takeWhile_imp hd))⟩⟩

theorem escapeTail_of_lexeme {c : Char} {rest : List Char} {l : Lexeme}
    (h : lexeme c rest = .ok l) (hkind : l.kind = .escape) :
    ∃ tail, escapeTail rest = some (tail, l.rest) ∧ l.text = '\\' :: tail := by
  rcases lexeme_cases h with ⟨-, htail⟩ | ⟨hconstant, -⟩ | ⟨hregex, -⟩ | ⟨hother, -⟩
  · exact htail
  · cases hkind.symm.trans hconstant
  · cases hkind.symm.trans hregex
  · exact absurd (by simp [hkind]) hother

/-- A token was cut off the front of some characters. -/
theorem exists_lexeme_of_lexLine {start : Position} {cs : List Char}
    (h : lexLine start cs = .ok tokens) {t : Token} (ht : t ∈ tokens) :
    ∃ c rest l, lexeme c rest = .ok l ∧ t.kind = l.kind ∧ t.text = .ofList l.text := by
  fun_induction lexLine start cs generalizing tokens with
  | case1 =>
    cases h
    cases ht
  | case2 => cases h
  | case3 => cases h
  | case4 start c rest l hl more hmore ih =>
    cases h
    rcases List.mem_cons.1 ht with rfl | ht
    · exact ⟨c, rest, l, hl, rfl, rfl⟩
    · exact ih hmore ht

theorem exists_lexeme_of_lexLines (h : lexLines number offset lines = .ok tokens) {t : Token}
    (ht : t ∈ tokens) :
    ∃ c rest l, lexeme c rest = .ok l ∧ t.kind = l.kind ∧ t.text = .ofList l.text := by
  induction lines generalizing number offset tokens with
  | nil =>
    cases h
    cases ht
  | cons line lines ih =>
    obtain ⟨first, more, hfirst, hmore, rfl⟩ := lexLines_cons h
    rcases List.mem_append.1 ht with ht | ht
    · exact exists_lexeme_of_lexLine hfirst ht
    · exact ih hmore ht

/-- Tokens of later lines stand later, in lines and in bytes. -/
theorem le_of_lexLines (h : lexLines number offset lines = .ok tokens) {t : Token}
    (ht : t ∈ tokens) : number ≤ t.position.line ∧ offset ≤ t.position.offset := by
  induction lines generalizing number offset tokens with
  | nil =>
    cases h
    cases ht
  | cons line lines ih =>
    obtain ⟨first, more, hfirst, hmore, rfl⟩ := lexLines_cons h
    rcases List.mem_append.1 ht with ht | ht
    · obtain ⟨before, rest, -, hposition⟩ := exists_before_of_lexFullLine hfirst ht
      rw [hposition]
      exact ⟨Nat.le_refl _, Nat.le_add_right _ _⟩
    · obtain ⟨hline, hoffset⟩ := ih hmore ht
      omega

theorem text_ne_of_lexLines (h : lexLines number offset lines = .ok tokens) {t : Token}
    (ht : t ∈ tokens) : t.text ≠ "" := by
  obtain ⟨c, rest, l, hl, -, htext⟩ := exists_lexeme_of_lexLines h ht
  rw [htext]
  exact fun hempty => lexeme_text_ne_nil hl (String.ofList_eq_empty_iff.1 hempty)

theorem pairwise_of_lexLines (h : lexLines number offset lines = .ok tokens) :
    tokens.Pairwise fun a b => a.position.offset + a.text.utf8ByteSize ≤ b.position.offset := by
  induction lines generalizing number offset tokens with
  | nil =>
    cases h
    exact .nil
  | cons line lines ih =>
    obtain ⟨first, more, hfirst, hmore, rfl⟩ := lexLines_cons h
    refine List.pairwise_append.2 ⟨(row_lexFullLine hfirst).pairwise, ih hmore, ?_⟩
    intro a ha b hb
    have hend := end_le_of_lexFullLine hfirst ha
    have hstart := (le_of_lexLines hmore hb).2
    omega

/-- Tokens that begin at the same offset are the same. -/
theorem eq_of_offset_eq (h : lexLines number offset lines = .ok tokens) {a b : Token}
    (ha : a ∈ tokens) (hb : b ∈ tokens) (heq : a.position.offset = b.position.offset) : a = b := by
  have hnodup : (tokens.map (·.position.offset)).Nodup := by
    refine List.pairwise_map.2 ((pairwise_of_lexLines h).imp_of_mem fun {a b} ha _ hle => ?_)
    have hpos : a.text.utf8ByteSize ≠ 0 :=
      mt String.utf8ByteSize_eq_zero_iff.1 (text_ne_of_lexLines h ha)
    omega
  exact List.inj_on_of_nodup_map hnodup ha hb heq

/-- The tokens of a line can be told from those of other lines by their positions. -/
theorem filter_lexLines (h : lexLines number offset lines = .ok tokens) {n : Nat}
    (hline : lines[n]? = some line) : ∃ offset',
      lexFullLine (number + n) offset' line =
        .ok (tokens.filter fun t => t.position.line = number + n) := by
  induction lines generalizing number offset tokens n with
  | nil => cases hline
  | cons line' lines ih =>
    obtain ⟨first, more, hfirst, hmore, rfl⟩ := lexLines_cons h
    rw [List.filter_append]
    cases n with
    | zero =>
      cases hline
      have hall : first.filter (fun t => t.position.line = number + 0) = first :=
        List.filter_eq_self.2 fun t ht => by simp [line_of_lexFullLine hfirst ht]
      have hnone : more.filter (fun t => t.position.line = number + 0) = [] :=
        List.filter_eq_nil_iff.2 fun t ht => by
          have := (le_of_lexLines hmore ht).1
          simp only [decide_eq_true_eq]
          omega
      rw [hall, hnone, List.append_nil]
      exact ⟨offset, hfirst⟩
    | succ n =>
      have hnone : first.filter (fun t => t.position.line = number + (n + 1)) = [] :=
        List.filter_eq_nil_iff.2 fun t ht => by
          simp [line_of_lexFullLine hfirst ht]
      obtain ⟨offset', hfound⟩ := ih hmore hline
      rw [hnone, List.nil_append, ← Nat.add_assoc, Nat.add_right_comm]
      exact ⟨offset', hfound⟩

/-! ## The source -/

theorem notMem_of_mem_pieces {c : Char} {cs piece : List Char} (h : piece ∈ pieces c cs) :
    c ∉ piece := by
  induction cs generalizing piece with
  | nil =>
    rw [List.mem_singleton.1 h]
    exact List.not_mem_nil
  | cons d cs ih =>
    rw [pieces] at h
    split at h
    · rcases List.mem_cons.1 h with rfl | h
      · exact List.not_mem_nil
      · exact ih h
    · next hd =>
      split at h
      · rw [List.mem_singleton.1 h, List.mem_singleton]
        exact Ne.symm hd
      · next first others hpieces =>
        rw [hpieces] at ih
        rcases List.mem_cons.1 h with rfl | h
        · rw [List.mem_cons, not_or]
          exact ⟨Ne.symm hd, ih List.mem_cons_self⟩
        · exact ih (List.mem_cons_of_mem _ h)

theorem exists_append_intercalate (separator : List Char) (part : List Char)
    (parts : List (List Char)) :
    ∃ tail, List.intercalate separator (part :: parts) = part ++ tail := by
  cases parts with
  | nil => exact ⟨[], by simp⟩
  | cons next parts => exact ⟨separator ++ List.intercalate separator (next :: parts), by
      simp [List.intercalate]⟩

theorem pieces_ne_nil (c : Char) (cs : List Char) : pieces c cs ≠ [] := by
  cases cs with
  | nil => exact List.cons_ne_nil _ _
  | cons d cs =>
    rw [pieces]
    split
    · exact List.cons_ne_nil _ _
    · split <;> exact List.cons_ne_nil _ _

/-- The pieces between the places of a character are all of a text but the character. -/
theorem intercalate_pieces (c : Char) (cs : List Char) :
    List.intercalate [c] (pieces c cs) = cs := by
  induction cs with
  | nil => rfl
  | cons d cs ih =>
    obtain ⟨piece, others, hpieces⟩ := List.exists_cons_of_ne_nil (pieces_ne_nil c cs)
    rw [pieces, hpieces]
    rw [hpieces] at ih
    split
    · next hd =>
      rw [← hd] at ih ⊢
      simpa [List.intercalate] using ih
    · rw [← ih]
      cases others <;> simp [List.intercalate]

/-- A token stands in the source where its position says. The lines are the rest of a source of
which whole lines are behind. -/
theorem exists_before_of_lexLines {whole : List Char}
    (hwhole : whole.rtakeWhile (· ≠ '\n') = []) (hlines : ∀ line ∈ lines, '\n' ∉ line)
    (h : lexLines (whole.count '\n' + 1) (byteLength whole) lines = .ok tokens) {t : Token}
    (ht : t ∈ tokens) : ∃ before rest,
      whole ++ List.intercalate ['\n'] lines = before ++ t.text.toList ++ rest ∧
        t.position = .behind (.ofList before) := by
  induction lines generalizing whole tokens with
  | nil =>
    cases h
    cases ht
  | cons line lines ih =>
    obtain ⟨hline, hlines⟩ := List.forall_mem_cons.1 hlines
    obtain ⟨first, more, hfirst, hmore, rfl⟩ := lexLines_cons h
    rcases List.mem_append.1 ht with ht | ht
    · obtain ⟨before, rest, hcs, hposition⟩ := exists_before_of_lexFullLine hfirst ht
      obtain ⟨tail, htail⟩ := exists_append_intercalate ['\n'] line lines
      refine ⟨whole ++ before, rest ++ tail, by rw [htail, hcs]; simp, ?_⟩
      have hbefore : '\n' ∉ before := fun hmem => hline (by simp [hcs, hmem])
      rw [hposition, Position.behind_append hwhole hbefore]
    · cases lines with
      | nil =>
        cases hmore
        cases ht
      | cons next lines =>
        -- the line and its line feed are behind as well
        have hcount : (whole ++ (line ++ ['\n'])).count '\n' = whole.count '\n' + 1 := by
          simp [List.count_append, List.count_eq_zero.2 hline]
        have hlength : byteLength (whole ++ (line ++ ['\n'])) =
            byteLength whole + byteLength line + 1 := by
          rw [byteLength_append, byteLength_append, Nat.add_assoc]
          rfl
        have hnext : (whole ++ (line ++ ['\n'])).rtakeWhile (· ≠ '\n') = [] := by
          simp [List.rtakeWhile]
        rw [← hcount, ← hlength] at hmore
        obtain ⟨before, rest, hcs, hposition⟩ := ih hnext hlines hmore ht
        refine ⟨before, rest, ?_, hposition⟩
        rw [← hcs]
        simp [List.intercalate]

end Lexer

theorem extract_toUTF8 (before text rest : String) :
    (before ++ text ++ rest).toUTF8.extract before.utf8ByteSize
      (before.utf8ByteSize + text.utf8ByteSize) = text.toUTF8 := by
  have hbytes : (before ++ text ++ rest).toUTF8 =
      before.toUTF8 ++ (text.toUTF8 ++ rest.toUTF8) := by
    rw [← ByteArray.append_assoc]
    exact String.toByteArray_append.trans (congrArg (· ++ _) String.toByteArray_append)
  rw [hbytes]
  exact (ByteArray.extract_append_size_add (i := 0)).trans (ByteArray.extract_append_eq_left rfl)

/-- Tokens that tell the truth about their source: their texts are pieces of it, found where the
positions say, in order, and line by line nothing significant is left out. -/
structure Faithful (code : String) (tokens : List Token) : Prop where
  /-- A token has a text, which is that of the source from its offset on. -/
  text : ∀ t ∈ tokens, t.text ≠ "" ∧ code.toUTF8.extract t.position.offset
    (t.position.offset + t.text.utf8ByteSize) = t.text.toUTF8
  /-- Line, column and offset of a token are those of the place behind what stands before it. -/
  position : ∀ t ∈ tokens, ∃ before rest, code = before ++ t.text ++ rest ∧
    t.position = .behind before
  /-- The tokens come in the order of the source and do not overlap. -/
  ordered : tokens.Pairwise fun a b => a.position.offset < b.position.offset ∧
    a.position.offset + a.text.utf8ByteSize ≤ b.position.offset
  /-- The tokens of a line begin behind the blanks in front, follow each other without a gap, and
  together are what is significant of the line. -/
  line : ∀ n line, (pieces '\n' code.toList)[n]? = some line →
    let row := tokens.filter fun t => t.position.line = n + 1
    (∀ t ∈ row.head?, t.position.column = ((uncommented line).takeWhile isBlank).length + 1) ∧
      row.IsChain (fun a b => b.position.offset = a.position.offset + a.text.utf8ByteSize) ∧
      row.flatMap (·.text.toList) = significant line

/-- Of a source that can be cut into tokens nothing significant is lost, and every token stands where
its position says. -/
theorem tokens_faithful {code : String} {tokens : List Token} (h : tokenize code = .ok tokens) :
    Faithful code tokens := by
  have hstands : ∀ t ∈ tokens, ∃ before rest, code = before ++ t.text ++ rest ∧
      t.position = .behind before := by
    intro t ht
    have hnone : ([] : List Char).rtakeWhile (· ≠ '\n') = [] := rfl
    obtain ⟨before, rest, hcs, hposition⟩ :=
      exists_before_of_lexLines hnone (fun line => notMem_of_mem_pieces) h ht
    rw [List.nil_append, intercalate_pieces] at hcs
    refine ⟨.ofList before, .ofList rest, ?_, hposition⟩
    rw [← String.toList_inj, hcs]
    simp
  have hne : ∀ t ∈ tokens, t.text ≠ "" := fun t => text_ne_of_lexLines h
  refine ⟨fun t ht => ⟨hne t ht, ?_⟩, hstands, ?_, ?_⟩
  · obtain ⟨before, rest, hcode, hposition⟩ := hstands t ht
    rw [hposition, hcode]
    exact extract_toUTF8 before t.text rest
  · refine (pairwise_of_lexLines h).imp_of_mem fun {a b} ha _ hle => ⟨?_, hle⟩
    have hpos : a.text.utf8ByteSize ≠ 0 := mt String.utf8ByteSize_eq_zero_iff.1 (hne a ha)
    omega
  · intro n line hline
    obtain ⟨offset, hrow⟩ := filter_lexLines h hline
    rw [Nat.add_comm] at hrow
    have hrow := row_lexFullLine hrow
    exact ⟨fun t ht => by rw [hrow.head ht], hrow.isChain, hrow.flatMap_eq⟩

/-- Behind a letter of two bytes, a carriage return and an empty line, and with number signs that
begin no comment before the one that does. -/
theorem tokens_faithful_signs :
    let code := "\u00e9 [a]\r\n\n  \\#\"#\" # x"
    let tokens : List Token := [⟨.text, "\u00e9", ⟨1, 1, 0⟩⟩, ⟨.whitespace, " ", ⟨1, 2, 2⟩⟩,
      ⟨.leftSquare, "[", ⟨1, 3, 3⟩⟩, ⟨.text, "a", ⟨1, 4, 4⟩⟩, ⟨.rightSquare, "]", ⟨1, 5, 5⟩⟩,
      ⟨.escape, "\\#", ⟨3, 3, 11⟩⟩, ⟨.constant, "\"#\"", ⟨3, 5, 13⟩⟩]
    tokenize code = .ok tokens ∧ Faithful code tokens := by
  intro code tokens
  have htokens : tokenize code = .ok tokens := by decide +kernel
  exact ⟨htokens, tokens_faithful htokens⟩

end Wordsmith
