/-!
# Tokens

A pattern is read as a flat row of tokens. Symbols are tokens of one kind each; everything else is
text, white space, an escape, a quoted constant or a regular expression in backticks. Every token
knows where it stands in the source.
-/

namespace Wordsmith

/-- A place in a pattern's source. Lines and columns count from one, columns in characters; the
offset counts bytes from zero. -/
structure Position where
  line : Nat
  column : Nat
  offset : Nat
deriving DecidableEq, Repr

namespace Position

/-- The place of nothing. -/
def nowhere : Position := ⟨0, 0, 0⟩

/-- The place after a character of the same line. -/
def after (p : Position) (c : Char) : Position :=
  { p with column := p.column + 1, offset := p.offset + c.utf8Size }

/-- The place after some characters of the same line. -/
def afterAll (p : Position) (cs : List Char) : Position := cs.foldl after p

/-- Line and column, as error messages give them. -/
def text (p : Position) : String := s!"{p.line}:{p.column}"

end Position

/-- The kinds of tokens. -/
inductive TokenKind where
  /-- A run of characters without a meaning of their own. -/
  | text
  /-- A backslash and what it escapes. -/
  | escape
  /-- A constant in double quotes. -/
  | constant
  /-- A regular expression in backticks, with the letter `i` if it ignores case. -/
  | regex
  /-- A run of blanks inside a line. -/
  | whitespace
  | leftSquare
  | rightSquare
  | leftCurly
  | rightCurly
  | leftAngle
  | rightAngle
  | leftParen
  | rightParen
  | pipe
  | semicolon
  | colon
  | doubleColon
  | at
  | question
  | exclamation
  | dollar
  | hyphen
deriving DecidableEq, Repr

namespace TokenKind

/-- The kind of a symbol of one character. -/
def ofSymbol? : Char → Option TokenKind
  | '[' => some leftSquare
  | ']' => some rightSquare
  | '{' => some leftCurly
  | '}' => some rightCurly
  | '<' => some leftAngle
  | '>' => some rightAngle
  | '(' => some leftParen
  | ')' => some rightParen
  | '|' => some pipe
  | ';' => some semicolon
  | ':' => some colon
  | '@' => some TokenKind.at
  | '?' => some question
  | '!' => some exclamation
  | '$' => some dollar
  | '-' => some hyphen
  | _ => none

/-- How error messages name a kind: a symbol in quotes, any other kind by its name. -/
def label : TokenKind → String
  | text => "Text"
  | escape => "Escape"
  | constant => "Constant"
  | regex => "Regex"
  | whitespace => "Whitespace"
  | leftSquare => "'['"
  | rightSquare => "']'"
  | leftCurly => "'\x7b'"
  | rightCurly => "'\x7d'"
  | leftAngle => "'<'"
  | rightAngle => "'>'"
  | leftParen => "'('"
  | rightParen => "')'"
  | pipe => "'|'"
  | semicolon => "';'"
  | colon => "':'"
  | doubleColon => "'::'"
  | TokenKind.at => "'@'"
  | question => "'?'"
  | exclamation => "'!'"
  | dollar => "'$'"
  | hyphen => "'-'"

end TokenKind

/-- A stretch of the source with its kind and its place. -/
structure Token where
  kind : TokenKind
  text : String
  position : Position
deriving DecidableEq, Repr

end Wordsmith
