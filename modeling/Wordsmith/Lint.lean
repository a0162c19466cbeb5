import Wordsmith.Reader.Extent
import Wordsmith.Regex.Search
import Wordsmith.Tag.Table
import Wordsmith.Vocabulary.Query

/-!
# Lint

A pattern can be checked without running it: whether its brackets fit, whether its tags exist and
take as many arguments, whether its regular expressions and queries can be read. The check goes
through the pattern and through every passage in it. Brackets that do not fit end it, for there is
no telling what stands behind them.
-/

namespace Wordsmith

/-- How bad a finding is. -/
inductive Severity where
  | warning
  | error
deriving DecidableEq, Repr

/-- How reports name a severity. -/
def Severity.label : Severity → String
  | warning => "WARNING"
  | error => "ERROR"

/-- What is wrong with a pattern. -/
inductive Finding where
  | badScope (e : ScopeError)
  | badQuery (e : QueryError)
  | badRegex (message : String)
  | replacerArity (count : Nat)
  | unknownTag (name : String)
  | tagArity (name : String) (count : Nat)
  | emptyBody

namespace Finding

/-- How bad a finding is: a pattern with an error cannot run. -/
def severity : Finding → Severity
  | badQuery _ | emptyBody => .warning
  | _ => .error

/-- The text of a finding. -/
def message : Finding → String
  | badScope e => e.message
  | badQuery e => e.message
  | badRegex message => s!"invalid regex: {message}"
  | replacerArity count => s!"replacer takes 2 arguments, found {count}"
  | unknownTag name => s!"unknown tag '{name}'"
  | tagArity name count => s!"tag '{name}' takes no {count} argument form"
  | emptyBody => "empty body"

end Finding

/-- A finding and where it is, if it is anywhere. -/
structure Diagnostic where
  finding : Finding
  position : Option Position

namespace Diagnostic

/-- The line that reports a diagnostic. -/
def text (d : Diagnostic) : String :=
  match d.position with
  | some p => s!"{d.finding.severity.label} at {p.text}: {d.finding.message}"
  | none => s!"{d.finding.severity.label}: {d.finding.message}"

end Diagnostic

/-- A check: what it finds on the way, and whether it comes to its end. -/
abbrev Check : Type → Type := ExceptT ScopeError (StateM (List Diagnostic))

namespace Lint

/-- What is wrong with a query. -/
def ofQuery (p : Passage) : List Finding :=
  match Query.ofText p.text with
  | .ok _ => []
  | .error e => [.badQuery e]

/-- What is wrong with a replacer. -/
def ofReplacer (literal : Token) (arguments : List Passage) : List Finding :=
  match Regex.ofLiteral literal.text with
  | .error message => [.badRegex message]
  | .ok _ => if arguments.length = 2 then [] else [.replacerArity arguments.length]

/-- What is wrong with a tag. -/
def ofTag (name : Token) (arguments : List Passage) : List Finding :=
  match TagEntry.find? name.text with
  | none => [.unknownTag name.text]
  | some e =>
    if (e.signature? arguments.length).isSome then [] else [.tagArity e.name arguments.length]

/-- What is wrong with a body. -/
def ofBody (p : Passage) : List Finding := if p.isEmpty then [.emptyBody] else []

/-- Findings at a place. -/
def placed (position : Position) (findings : List Finding) : List Diagnostic :=
  findings.map fun f => ⟨f, some position⟩

/-- What is wrong with square brackets that open at a place. -/
def ofBracket (opener : Position) : Bracket → List Diagnostic
  | .definition _ _ _ body => placed opener (ofBody body)
  | .call _ _ => []
  | .metapattern body => placed opener (ofBody body)
  | .replacer literal arguments => placed literal.position (ofReplacer literal arguments)
  | .tag name arguments => placed name.position (ofTag name arguments)

/-- Reads the construct that begins with a token: what is wrong with it, and the passages in it. -/
def readConstruct (t : Token) : Scan (List Diagnostic × List Passage) :=
  match t.kind with
  | .leftCurly => return ([], ← Block.readItems)
  | .leftParen => return ([], [(← Scan.expression).2])
  | .leftAngle => return (placed t.position (ofQuery (← Scan.query)), [])
  | .leftSquare => do
    let b ← Bracket.read Bracket.readCall
    return (ofBracket t.position b, b.passages)
  | .rightCurly | .rightSquare | .rightParen | .rightAngle =>
    throw (.unexpected "text" t.text t.position)
  | _ => return ([], [])

theorem yields_readConstruct {n : Nat} (t : Token) :
    Scan.Yields n (readConstruct t) fun c => ∀ p ∈ c.2, p.length ≤ n := by
  unfold readConstruct
  split
  · exact Block.yields_readItems.bind fun _ h => .pure h
  · exact Scan.yields_expression.bind fun _ h => .pure (by simpa using h)
  · exact Scan.yields_query.bind fun _ _ => .pure (by simp)
  · exact (Bracket.yields_read Bracket.yields_readCall).bind fun _ h => .pure h
  iterate 4 exact .throw
  · exact .pure (by simp)

/-- Checks what a reader has left, with all passages in it. -/
def check (r : Reader) : Check Unit :=
  match _hread : r.read? with
  | none => return
  | some (t, r₁) =>
    match _hconstruct : readConstruct t r₁ with
    | (.error e, _) => throw e
    | (.ok (diagnostics, passages), r₂) => do
      modify (· ++ diagnostics)
      passages.attach.forM fun ⟨p, _hp⟩ => check (.ofPassage p)
      check r₂
termination_by r.remaining
decreasing_by
  · have h₁ := Reader.read?_remaining_lt _hread
    have h₂ := ((yields_readConstruct t).from_reader r₁ r₂ _ (Nat.le_refl _) _hconstruct).2 p _hp
    rw [Reader.remaining_ofPassage]
    omega
  · have h₁ := Reader.read?_remaining_lt _hread
    have h₂ := ((yields_readConstruct t).from_reader r₁ r₂ _ (Nat.le_refl _) _hconstruct).1
    omega

/-- All that is wrong with a pattern, in the order in which a reader comes across it. -/
def diagnose (p : Pattern) : List Diagnostic :=
  match (check (.ofPassage p.passage)).run [] with
  | (.ok (), diagnostics) => diagnostics
  | (.error e, diagnostics) => diagnostics ++ [⟨.badScope e, e.position?⟩]

end Lint

end Wordsmith
