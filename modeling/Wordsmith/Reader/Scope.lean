import Wordsmith.Token.Basic

/-!
# Scopes

A scope is what stands between an opener and the closer that matches it. Inside it brackets nest:
a closer must fit the innermost opener that still waits for one. A scan goes through the tokens
with a stack of the waiting openers. It ends at the scope's own closer, or at a separator while
nothing waits, or at the first token that cannot stand where it does.
-/

namespace Wordsmith

/-- What can be wrong with the brackets of a pattern, or with a token that was expected. -/
inductive ScopeError where
  /-- The tokens end while an opener waits for its closer. -/
  | unterminated (opener expected : TokenKind) (position : Position)
  /-- A closer does not fit the innermost opener. -/
  | mismatched (opener found expected : TokenKind) (position : Position)
  /-- Another token stands where one was expected. -/
  | unexpected (expected found : String) (position : Position)
  /-- The tokens end where one was expected. -/
  | unexpectedEnd (expected : String)
deriving DecidableEq, Repr

namespace ScopeError

/-- The text of the error. -/
def message : ScopeError → String
  | unterminated opener expected p =>
    s!"unterminated scope: expected {expected.label} to close {opener.label} opened at {p.text}"
  | mismatched opener found expected p =>
    s!"mismatched closure at {p.text}: {opener.label} closed by {found.label}, " ++
      s!"expected {expected.label}"
  | unexpected expected found p => s!"expected {expected} at {p.text}, found '{found}'"
  | unexpectedEnd expected => s!"expected {expected}, but reached the end of the pattern"

/-- Where the error is, if it is anywhere. -/
def position? : ScopeError → Option Position
  | unterminated _ _ p => some p
  | mismatched _ _ _ p => some p
  | unexpected _ _ p => some p
  | unexpectedEnd _ => none

end ScopeError

/-- The brackets that nest inside a scope. -/
inductive BracketTable where
  /-- Brackets of all four families. -/
  | all
  /-- Angle brackets alone. -/
  | angle
  /-- No brackets. -/
  | none
deriving DecidableEq, Repr

namespace BracketTable

/-- The openers with their closers. -/
def pairs : BracketTable → List (TokenKind × TokenKind)
  | all =>
    [(.leftAngle, .rightAngle), (.leftSquare, .rightSquare), (.leftParen, .rightParen),
      (.leftCurly, .rightCurly)]
  | angle => [(.leftAngle, .rightAngle)]
  | none => []

/-- The closer of an opener. -/
def closer? (b : BracketTable) (k : TokenKind) : Option TokenKind :=
  (b.pairs.find? fun pair => pair.1 == k).map (·.2)

/-- Whether a kind opens a bracket. -/
def opens (b : BracketTable) (k : TokenKind) : Bool := b.pairs.any fun pair => pair.1 == k

/-- Whether a kind closes a bracket. -/
def closes (b : BracketTable) (k : TokenKind) : Bool := b.pairs.any fun pair => pair.2 == k

end BracketTable

/-- A scope by its delimiters and the brackets that nest in it. -/
structure Scope where
  opener : TokenKind
  closer : TokenKind
  table : BracketTable
deriving DecidableEq, Repr

namespace Scope

/-- Whether a kind opens a bracket inside the scope. -/
def opens (s : Scope) (k : TokenKind) : Bool := k == s.opener || s.table.opens k

/-- Whether a kind closes a bracket inside the scope, or the scope. -/
def closes (s : Scope) (k : TokenKind) : Bool := k == s.closer || s.table.closes k

/-- The closer that an opener waits for. -/
def closerOf (s : Scope) (k : TokenKind) : TokenKind :=
  if k = s.opener then s.closer else (s.table.closer? k).getD s.closer

/-- What a token does to the stack of waiting openers: the new stack, or nothing if it closes
the scope. -/
def feed (s : Scope) (waiting : List Token) (t : Token) : Except ScopeError (Option (List Token)) :=
  if s.opens t.kind then .ok (some (t :: waiting))
  else if s.closes t.kind then
    match waiting with
    | [] =>
      if t.kind = s.closer then .ok none
      else .error (.mismatched s.opener t.kind s.closer t.position)
    | opener :: others =>
      if s.closerOf opener.kind = t.kind then .ok (some others)
      else .error (.mismatched opener.kind t.kind (s.closerOf opener.kind) t.position)
  else .ok (some waiting)

/-- The error for tokens that end while openers wait; the scope itself began at `start`. -/
def unterminated (s : Scope) (start : Position) : List Token → ScopeError
  | [] => .unterminated s.opener s.closer start
  | t :: _ => .unterminated t.kind (s.closerOf t.kind) t.position

/-- What ended a scan well. -/
inductive Ending where
  /-- The closer of the scope. -/
  | closed
  /-- A separator outside all inner brackets. -/
  | separated
deriving DecidableEq, Repr

/-- The end of a scan: how it ended and at which token. -/
structure Cut where
  outcome : Except ScopeError Ending
  index : Nat

/-- Scans tokens, the first of which has an index, for the end of the scope or, if a separator is
given, of its first argument. -/
def cut (s : Scope) (separator : Option TokenKind) (start : Position) :
    List Token → Nat → List Token → Cut
  | waiting, i, [] => ⟨.error (s.unterminated start waiting), i⟩
  | waiting, i, t :: rest =>
    if waiting = [] ∧ separator = some t.kind then ⟨.ok .separated, i⟩
    else match s.feed waiting t with
      | .error e => ⟨.error e, i⟩
      | .ok none => ⟨.ok .closed, i⟩
      | .ok (some waiting) => s.cut separator start waiting (i + 1) rest

/-- A scan that ends well ends at one of its tokens. -/
theorem cut_index_lt {s : Scope} {separator : Option TokenKind} {start : Position}
    {waiting : List Token} {i : Nat} {tokens : List Token} {ending : Ending}
    (h : (s.cut separator start waiting i tokens).outcome = .ok ending) :
    i ≤ (s.cut separator start waiting i tokens).index ∧
      (s.cut separator start waiting i tokens).index < i + tokens.length := by
  induction tokens generalizing waiting i with
  | nil => simp [cut] at h
  | cons t rest ih =>
    unfold cut at h ⊢
    split
    · simp
    · next hsep =>
      rw [if_neg hsep] at h
      split
      · next hfeed => simp [hfeed] at h
      · simp
      · next waiting' hfeed =>
        simp only [hfeed] at h
        have := ih h
        simp only [List.length_cons]
        omega

end Scope

end Wordsmith
