import Wordsmith.Token.Lexer

/-!
# Patterns and passages

A pattern is a named source with its tokens. Everything that a run works on is a passage of a
pattern, a range of its tokens, so it is known at any time which pattern a token belongs to and
where in it the token stands.
-/

namespace Wordsmith

/-- A compiled pattern. The tokens are those of the code, so patterns with one name and one code
are equal. -/
structure Pattern where
  name : String
  code : String
  tokens : Array Token
  tokenize_code : tokenize code = .ok tokens.toList

namespace Pattern

/-- Compiles a source. -/
def compile (name code : String) : Except LexError Pattern :=
  match h : tokenize code with
  | .error e => .error e
  | .ok tokens => .ok ⟨name, code, tokens.toArray, by simpa using h⟩

@[ext]
theorem ext {p q : Pattern} (hname : p.name = q.name) (hcode : p.code = q.code) : p = q := by
  obtain ⟨name, code, tokens, h⟩ := p
  obtain ⟨name', code', tokens', h'⟩ := q
  obtain rfl : name = name' := hname
  obtain rfl : code = code' := hcode
  obtain rfl : tokens = tokens' := by
    rw [h] at h'
    exact Array.toList_inj.1 (Except.ok.inj h')
  rfl

instance : DecidableEq Pattern := fun p q =>
  decidable_of_iff (p.name = q.name ∧ p.code = q.code)
    ⟨fun h => ext h.1 h.2, fun h => by simp [h]⟩

end Pattern

/-- A range of a pattern's tokens. -/
structure Passage where
  pattern : Pattern
  /-- The index of the first token. -/
  start : Nat
  /-- The index behind the last token. -/
  stop : Nat

namespace Passage

/-- The tokens of the passage. -/
def tokens (p : Passage) : List Token := (p.pattern.tokens.extract p.start p.stop).toList

/-- The number of tokens. -/
def length (p : Passage) : Nat := p.stop - p.start

/-- Whether there are no tokens. -/
def isEmpty (p : Passage) : Bool := p.start == p.stop

/-- The token at an index of the pattern, if the passage holds it. -/
def token? (p : Passage) (i : Nat) : Option Token :=
  if p.start ≤ i ∧ i < p.stop then p.pattern.tokens[i]? else none

/-- The part between two indices of the pattern, as far as the passage goes. -/
def range (p : Passage) (start stop : Nat) : Passage :=
  let first := min (max start p.start) p.stop
  ⟨p.pattern, first, min (max stop first) p.stop⟩

/-- The text of the tokens, as written. -/
def text (p : Passage) : String := String.join (p.tokens.map (·.text))

/-- The place of the first token. -/
def position? (p : Passage) : Option Position := p.tokens.head?.map (·.position)

/-- Whether a token is white space. -/
def isSpace (t : Token) : Bool := t.kind == .whitespace

/-- The passage without white space at its edges. -/
def trim (p : Passage) : Passage :=
  let lead := (p.tokens.takeWhile isSpace).length
  let trail := ((p.tokens.drop lead).reverse.takeWhile isSpace).length
  p.range (p.start + lead) (p.stop - trail)

end Passage

/-- All tokens of a pattern. -/
def Pattern.passage (p : Pattern) : Passage := ⟨p, 0, p.tokens.size⟩

end Wordsmith
