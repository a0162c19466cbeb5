import Wordsmith.Text.Slice
import Wordsmith.Token.Basic

/-!
# From source to tokens

A source is read line by line. Line breaks, the blanks around them and comments are not
significant; what is left of each line is cut into tokens without a gap. Each cut returns the
characters of the token and the characters after it, so the two together are the line.
-/

namespace Wordsmith

/-- What can be wrong with the characters of a token. -/
inductive LexError.Cause where
  /-- A constant without its closing quote. -/
  | unterminatedLiteral
  /-- A backslash before a blank, before the end of the line, or before `u` without its digits. -/
  | invalidEscape
  /-- A regular expression without its closing backtick. -/
  | unterminatedRegex
deriving DecidableEq, Repr

/-- A fault in the source, with the place of the token it spoils. -/
structure LexError where
  cause : LexError.Cause
  position : Position
deriving DecidableEq, Repr

namespace LexError

/-- The text of the error. -/
def message (e : LexError) : String :=
  let fault := match e.cause with
    | .unterminatedLiteral => "unterminated constant literal"
    | .invalidEscape => "invalid escape sequence"
    | .unterminatedRegex => "unterminated regex literal"
  s!"{fault} at {e.position.text}"

end LexError

namespace Lexer

open Text

/-- The first token of a line: its kind, its characters and what follows. -/
structure Lexeme where
  kind : TokenKind
  text : List Char
  rest : List Char

/-! ## Single tokens -/

/-- The rest of a constant after its opening quote. A doubled quote stands for one. -/
def constantTail : List Char → Option (List Char × List Char)
  | [] => none
  | '"' :: '"' :: rest => (constantTail rest).map fun (cs, r) => ('"' :: '"' :: cs, r)
  | '"' :: rest => some (['"'], rest)
  | c :: rest => (constantTail rest).map fun (cs, r) => (c :: cs, r)

/-- The rest of a regular expression after its opening backtick. A backslash hides the character
after it, and the letter `i` behind the closing backtick belongs to the token. -/
def regexTail : List Char → Option (List Char × List Char)
  | [] => none
  | '\\' :: c :: rest => (regexTail rest).map fun (cs, r) => ('\\' :: c :: cs, r)
  | '\x60' :: 'i' :: rest => some (['\x60', 'i'], rest)
  | '\x60' :: rest => some (['\x60'], rest)
  | c :: rest => (regexTail rest).map fun (cs, r) => (c :: cs, r)

/-- What a backslash escapes: four hexadecimal digits behind a `u`, or one character that is
not blank. -/
def escapeBody : List Char → Option (List Char × List Char)
  | 'u' :: a :: b :: c :: d :: rest =>
    if [a, b, c, d].all isHexDigit then some (['u', a, b, c, d], rest) else none
  | 'u' :: _ => none
  | c :: rest => if isBlank c then none else some ([c], rest)
  | [] => none

/-- The rest of an escape after its backslash: a count with a comma behind it, if there is one,
and what is escaped. -/
def escapeTail (cs : List Char) : Option (List Char × List Char) :=
  match cs.takeWhile isDigit, cs.dropWhile isDigit with
  | d :: digits, ',' :: rest =>
    (escapeBody rest).map fun (body, r) => (d :: digits ++ ',' :: body, r)
  | _, _ => escapeBody cs

/-- Whether a character is part of plain text. -/
def isPlain (c : Char) : Bool :=
  !isBlank c && c != '\\' && c != '"' && c != '\x60' && (TokenKind.ofSymbol? c).isNone

/-- The token that begins with `c`, before `rest`. -/
def lexeme (c : Char) (rest : List Char) : Except LexError.Cause Lexeme :=
  if c = '\\' then
    match escapeTail rest with
    | some (cs, r) => .ok ⟨.escape, c :: cs, r⟩
    | none => .error .invalidEscape
  else if c = '"' then
    match constantTail rest with
    | some (cs, r) => .ok ⟨.constant, c :: cs, r⟩
    | none => .error .unterminatedLiteral
  else if c = '\x60' then
    match regexTail rest with
    | some (cs, r) => .ok ⟨.regex, c :: cs, r⟩
    | none => .error .unterminatedRegex
  else if isBlank c then
    .ok ⟨.whitespace, c :: rest.takeWhile isBlank, rest.dropWhile isBlank⟩
  else match TokenKind.ofSymbol? c, rest with
    | some .colon, ':' :: r => .ok ⟨.doubleColon, [c, ':'], r⟩
    | some kind, _ => .ok ⟨kind, [c], rest⟩
    | none, _ => .ok ⟨.text, c :: rest.takeWhile isPlain, rest.dropWhile isPlain⟩

/-! ## Nothing is lost -/

theorem constantTail_append {cs text rest : List Char} (h : constantTail cs = some (text, rest)) :
    text ++ rest = cs := by
  fun_induction constantTail cs generalizing text rest with
  | case1 => simp at h
  | case2 r ih =>
    obtain ⟨⟨t, r'⟩, ht, heq⟩ := Option.map_eq_some_iff.1 h
    simp only [Prod.mk.injEq] at heq
    obtain ⟨rfl, rfl⟩ := heq
    simp [ih ht]
  | case3 r => cases h; rfl
  | case4 c r _ _ ih =>
    obtain ⟨⟨t, r'⟩, ht, heq⟩ := Option.map_eq_some_iff.1 h
    simp only [Prod.mk.injEq] at heq
    obtain ⟨rfl, rfl⟩ := heq
    simp [ih ht]

theorem regexTail_append {cs text rest : List Char} (h : regexTail cs = some (text, rest)) :
    text ++ rest = cs := by
  fun_induction regexTail cs generalizing text rest with
  | case1 => simp at h
  | case2 c r ih =>
    obtain ⟨⟨t, r'⟩, ht, heq⟩ := Option.map_eq_some_iff.1 h
    simp only [Prod.mk.injEq] at heq
    obtain ⟨rfl, rfl⟩ := heq
    simp [ih ht]
  | case3 r => cases h; rfl
  | case4 r => cases h; rfl
  | case5 c r _ _ _ ih =>
    obtain ⟨⟨t, r'⟩, ht, heq⟩ := Option.map_eq_some_iff.1 h
    simp only [Prod.mk.injEq] at heq
    obtain ⟨rfl, rfl⟩ := heq
    simp [ih ht]

theorem escapeBody_append {cs text rest : List Char} (h : escapeBody cs = some (text, rest)) :
    text ++ rest = cs := by
  unfold escapeBody at h
  split at h
  · split at h
    · cases h; rfl
    · simp at h
  · simp at h
  · split at h
    · simp at h
    · cases h; rfl
  · simp at h

theorem escapeTail_append {cs text rest : List Char} (h : escapeTail cs = some (text, rest)) :
    text ++ rest = cs := by
  unfold escapeTail at h
  split at h
  · next d digits r htake hdrop =>
    obtain ⟨⟨t, r'⟩, ht, heq⟩ := Option.map_eq_some_iff.1 h
    simp only [Prod.mk.injEq] at heq
    obtain ⟨rfl, rfl⟩ := heq
    have hcs := List.takeWhile_append_dropWhile (p := isDigit) (l := cs)
    rw [htake, hdrop] at hcs
    rw [← hcs, ← escapeBody_append ht]
    simp
  · exact escapeBody_append h

/-- A token and what follows it are the characters it was cut from. -/
theorem lexeme_append {c : Char} {rest : List Char} {l : Lexeme} (h : lexeme c rest = .ok l) :
    l.text ++ l.rest = c :: rest := by
  unfold lexeme at h
  split at h
  · split at h
    · next ht => cases h; simpa using escapeTail_append ht
    · simp at h
  · split at h
    · split at h
      · next ht => cases h; simpa using constantTail_append ht
      · simp at h
    · split at h
      · split at h
        · next ht => cases h; simpa using regexTail_append ht
        · simp at h
      · split at h
        · cases h; simp
        · split at h <;> cases h <;> simp

/-- A token has at least one character. -/
theorem lexeme_text_ne_nil {c : Char} {rest : List Char} {l : Lexeme} (h : lexeme c rest = .ok l) :
    l.text ≠ [] := by
  unfold lexeme at h
  repeat' split at h
  all_goals first | cases h; simp | simp at h

theorem lexeme_rest_length {c : Char} {rest : List Char} {l : Lexeme}
    (h : lexeme c rest = .ok l) : l.rest.length < (c :: rest).length := by
  have happend := congrArg List.length (lexeme_append h)
  have hpos := List.length_pos_iff.2 (lexeme_text_ne_nil h)
  simp only [List.length_append] at happend
  omega

/-! ## Lines -/

/-- The tokens of the significant part of a line that begins at `start`. -/
def lexLine (start : Position) : List Char → Except LexError (List Token)
  | [] => .ok []
  | c :: rest =>
    match _h : lexeme c rest with
    | .error cause => .error ⟨cause, start⟩
    | .ok l =>
      match lexLine (start.afterAll l.text) l.rest with
      | .error e => .error e
      | .ok tokens => .ok (⟨l.kind, .ofList l.text, start⟩ :: tokens)
termination_by cs => cs.length
decreasing_by exact lexeme_rest_length ‹_›

/-- What a character of a line stands in, as far as comments are concerned. -/
inductive Quoting where
  | plain
  | constant
  | regex
deriving DecidableEq

/-- The line up to its comment. Quoted and escaped number signs begin none. -/
def stripComment : Quoting → List Char → List Char
  | _, [] => []
  | .constant, '"' :: rest => '"' :: stripComment .plain rest
  | .constant, c :: rest => c :: stripComment .constant rest
  | quoting, '\\' :: c :: rest => '\\' :: c :: stripComment quoting rest
  | .regex, '\x60' :: rest => '\x60' :: stripComment .plain rest
  | .regex, c :: rest => c :: stripComment .regex rest
  | .plain, '"' :: rest => '"' :: stripComment .constant rest
  | .plain, '\x60' :: rest => '\x60' :: stripComment .regex rest
  | .plain, '#' :: _ => []
  | .plain, c :: rest => c :: stripComment .plain rest

/-- The line without the carriage return at its end. -/
def dropCarriageReturn (line : List Char) : List Char :=
  if line.getLast? = some '\r' then line.dropLast else line

/-- The tokens of one line, given its number and the offset of its first byte. -/
def lexFullLine (number offset : Nat) (line : List Char) : Except LexError (List Token) :=
  let kept := stripComment .plain (dropCarriageReturn line)
  let lead := kept.takeWhile isBlank
  lexLine ⟨number, lead.length + 1, offset + byteLength lead⟩ (trimEnd (kept.dropWhile isBlank))

/-- The tokens of the lines from a number and an offset on. -/
def lexLines (number offset : Nat) : List (List Char) → Except LexError (List Token)
  | [] => .ok []
  | line :: lines =>
    match lexFullLine number offset line with
    | .error e => .error e
    | .ok tokens =>
      match lexLines (number + 1) (offset + byteLength line + 1) lines with
      | .error e => .error e
      | .ok more => .ok (tokens ++ more)

end Lexer

/-- The tokens of a source, or the first fault in it. -/
def tokenize (code : String) : Except LexError (List Token) :=
  Lexer.lexLines 1 0 (Text.pieces '\n' code.toList)

end Wordsmith
