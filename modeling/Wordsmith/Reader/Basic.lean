import Wordsmith.Pattern
import Wordsmith.Reader.Scope

/-!
# Readers

A reader goes forward through a passage. Its operations are scans: each moves the reader and
either gives a result or fails, and a failed scan leaves the reader at the token where it failed.
-/

namespace Wordsmith

/-- A place in a passage. -/
structure Reader where
  passage : Passage
  /-- The index of the next token. -/
  index : Nat

/-- An operation of a reader. The reader has moved also if the operation failed. -/
abbrev Scan (α : Type) : Type := ExceptT ScopeError (StateM Reader) α

namespace Reader

/-- A reader at the beginning of a passage. -/
def ofPassage (p : Passage) : Reader := ⟨p, p.start⟩

/-- The next token. -/
def peek? (r : Reader) : Option Token := r.passage.token? r.index

/-- The kind of the next token. -/
def peekKind? (r : Reader) : Option TokenKind := r.peek?.map (·.kind)

/-- Whether all tokens have been read. -/
def isEnd (r : Reader) : Bool := r.peek?.isNone

/-- The token before the next one. -/
def previous? (r : Reader) : Option Token :=
  if r.index = 0 then none else r.passage.token? (r.index - 1)

/-- The tokens that are left. -/
def rest (r : Reader) : List Token := (r.passage.range r.index r.passage.stop).tokens

/-- The place of the next token, or of the last one at the end. -/
def position (r : Reader) : Position :=
  ((r.peek? <|> r.previous?).map (·.position)).getD .nowhere

/-- The place of the token before the next one. -/
def previousPosition (r : Reader) : Position := (r.previous?.map (·.position)).getD .nowhere

/-- The reader behind the next token. -/
def next (r : Reader) : Reader := { r with index := r.index + 1 }

/-- The next token and the reader behind it. -/
def read? (r : Reader) : Option (Token × Reader) := r.peek?.map fun t => (t, r.next)

/-- The reader behind the next token, if that is of the kind. -/
def take? (r : Reader) (kind : TokenKind) : Option Reader :=
  if r.peekKind? = some kind then some r.next else none

/-- The reader behind all tokens that fulfil a condition. -/
def skipWhile (r : Reader) (p : Token → Bool) : Reader :=
  { r with index := r.index + (r.rest.takeWhile p).length }

/-- The reader behind a run of white space. -/
def skipSpace (r : Reader) : Reader := r.skipWhile Passage.isSpace

/-- Like `take?`, with white space allowed on both sides of the token. -/
def takeLoose? (r : Reader) (kind : TokenKind) : Option Reader :=
  (r.skipSpace.take? kind).map skipSpace

/-- The reader at an index further on. A reader never moves back. -/
def jump (r : Reader) (index : Nat) : Reader :=
  if r.index < index then { r with index := min index r.passage.stop } else r

/-- The tokens that fulfil a condition, and the reader behind them. -/
def readWhile (r : Reader) (p : Token → Bool) : Passage × Reader :=
  let after := r.skipWhile p
  (r.passage.range r.index after.index, after)

end Reader

namespace Scan

/-- The next token; `expected` says what it was to be. -/
def any (expected : String) : Scan Token := fun r =>
  match r.peek? with
  | some t => (.ok t, r.next)
  | none => (.error (.unexpectedEnd expected), r)

/-- The next token, which must be of a kind; `expected` says what it was to be. -/
def expect (kind : TokenKind) (expected : String) : Scan Token := fun r =>
  match r.peek? with
  | none => (.error (.unexpectedEnd expected), r)
  | some t =>
    if t.kind = kind then (.ok t, r.next)
    else (.error (.unexpected expected t.text t.position), r)

/-- Takes the next token if it is of a kind, and says whether it was. -/
def take (kind : TokenKind) : Scan Bool := fun r =>
  match r.take? kind with
  | some r => (.ok true, r)
  | none => (.ok false, r)

/-- Like `take`, with white space allowed on both sides of the token. -/
def takeLoose (kind : TokenKind) : Scan Bool := fun r =>
  match r.takeLoose? kind with
  | some r => (.ok true, r)
  | none => (.ok false, r)

/-- Skips white space. -/
def space : Scan Unit := fun r => (.ok (), r.skipSpace)

/-- The tokens of a scope whose opener has just been read. Its closer is read, too. -/
def body (s : Scope) : Scan Passage := fun r =>
  let cut := s.cut none r.previousPosition [] r.index r.rest
  match cut.outcome with
  | .error e => (.error e, { r with index := cut.index })
  | .ok _ => (.ok (r.passage.range r.index cut.index).trim, { r with index := cut.index + 1 })

/-- The next argument of a scope that began at `start`, with what ended it, which is read. -/
def argument (s : Scope) (separator : TokenKind) (start : Position) :
    Scan (Passage × Scope.Ending) := fun r =>
  let cut := s.cut (some separator) start [] r.index r.rest
  match cut.outcome with
  | .error e => (.error e, { r with index := cut.index })
  | .ok ending =>
    (.ok ((r.passage.range r.index cut.index).trim, ending), { r with index := cut.index + 1 })

end Scan

namespace Reader

/-- The number of tokens that are left, by their indices. -/
def remaining (r : Reader) : Nat := r.passage.stop - r.index

theorem rest_length_le (r : Reader) : r.rest.length ≤ r.remaining := by
  simp only [rest, Passage.range, Passage.tokens, remaining, Array.length_toList,
    Array.size_extract]
  omega

theorem rest_length_add_index_le {r : Reader} (h : r.rest ≠ []) :
    r.index + r.rest.length ≤ r.passage.stop := by
  have hlen := r.rest_length_le
  have hpos := List.length_pos_iff.2 h
  simp only [remaining] at hlen
  omega

end Reader

namespace Scan

/-- An argument that is found leaves fewer tokens. -/
theorem argument_remaining_lt {s : Scope} {separator : TokenKind} {start : Position}
    {r r' : Reader} {found : Passage × Scope.Ending}
    (h : argument s separator start r = (.ok found, r')) : r'.remaining < r.remaining := by
  simp only [argument] at h
  split at h
  · cases h
  · next ending hcut =>
    have hlt := Scope.cut_index_lt hcut
    have hne : r.rest ≠ [] := by
      intro hnil
      rw [hnil] at hcut
      simp [Scope.cut] at hcut
    have hle := Reader.rest_length_add_index_le hne
    cases h
    simp only [Reader.remaining]
    omega

/-- All arguments of a scope that began at `start`. The closer is read, too. -/
def argumentsFrom (s : Scope) (separator : TokenKind) (start : Position) : Scan (List Passage) :=
  fun r =>
    match _h : argument s separator start r with
    | (.error e, r) => (.error e, r)
    | (.ok (p, .closed), r) => (.ok [p], r)
    | (.ok (p, .separated), r) =>
      match argumentsFrom s separator start r with
      | (.error e, r) => (.error e, r)
      | (.ok ps, r) => (.ok (p :: ps), r)
termination_by r => r.remaining
decreasing_by exact argument_remaining_lt ‹_›

/-- All arguments of a scope whose opener has just been read. -/
def arguments (s : Scope) (separator : TokenKind) : Scan (List Passage) := fun r =>
  argumentsFrom s separator r.previousPosition r

/-- At most `n` of the arguments that are left, one after the other; the error that ends them
early stands last. -/
def someArguments (s : Scope) (separator : TokenKind) (start : Position) :
    Nat → Reader → List (Except ScopeError Passage) × Reader
  | 0, r => ([], r)
  | n + 1, r =>
    match argument s separator start r with
    | (.error e, r) => ([.error e], r)
    | (.ok (p, .closed), r) => ([.ok p], r)
    | (.ok (p, .separated), r) =>
      let (ps, r) := someArguments s separator start n r
      (.ok p :: ps, r)

end Scan

end Wordsmith
