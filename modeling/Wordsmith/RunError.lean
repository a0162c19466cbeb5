import Wordsmith.Draw.Weighted
import Wordsmith.Expression
import Wordsmith.Limit
import Wordsmith.Reader.Scope
import Wordsmith.Token.Lexer
import Wordsmith.Vocabulary.Query

/-!
# Errors of a run

A run fails because code cannot be read or because of a fault in what it does. A fault happens at
a place: in a pattern, at the token that was read last.
-/

namespace Wordsmith

/-- What a name can stand for. -/
inductive NameKind where
  | tag
  | subroutine
  | argument
  | synchronizer
  | marker
  | hook
deriving DecidableEq, Repr

/-- How messages call what a name stands for. -/
def NameKind.label : NameKind → String
  | tag => "tag"
  | subroutine => "subroutine"
  | argument => "argument"
  | synchronizer => "synchronizer"
  | marker => "marker"
  | hook => "hook"

/-- What is wrong with the argument of a construct. -/
inductive Complaint where
  | notInteger (value : String)
  | notPercentage (value : String)
  | notGeneration (value : String)
  | negativeRepetitions
  | negativeCount
  | negativeOffset
  | intervalNotPositive
  | emptyRange (low high : Int)
  | badCharacters (set : String)
  | noRepeater
  | noComparison
  | unknownCondition (condition : String)
  | unknownEscape
  /-- It is none of the names that are known; the text says which. -/
  | unknownChoice (message : String)
  | badExpression (e : ExpressionError)
  | badQuery (e : QueryError)
  | badRegex (message : String)
  | badWeights (e : WeightError)

/-- The text of a complaint. -/
def Complaint.message : Complaint → String
  | notInteger value => s!"'{value}' is not an integer"
  | notPercentage value => s!"'{value}' is not a percentage"
  | notGeneration value => s!"'{value}' is not a generation"
  | negativeRepetitions => "repetitions cannot be negative"
  | negativeCount => "count cannot be negative"
  | negativeOffset => "offset cannot be negative"
  | intervalNotPositive => "interval must be positive"
  | emptyRange low high => s!"empty range {low}..{high}"
  | badCharacters set => s!"bad character ranges '{set}'"
  | noRepeater => "no block is repeating"
  | noComparison => "no comparison is active"
  | unknownCondition condition => s!"unknown condition '{condition}'"
  | unknownEscape => "unrecognized escape sequence"
  | unknownChoice message => message
  | badExpression e => e.message
  | badQuery e => e.message
  | badRegex message => message
  | badWeights e => e.message

/-- What goes wrong in a run. -/
inductive Fault where
  | unknownName (kind : NameKind) (name : String)
  /-- Nothing of the name takes as many arguments. -/
  | arity (name : String) (count : Nat)
  | exceeded (e : LimitExceeded)
  | invalidArgument (name : String) (complaint : Complaint)
  | queryFailed (e : QueryError)

/-- The text of a fault. -/
def Fault.message : Fault → String
  | unknownName kind name => s!"unknown {kind.label} '{name}'"
  | arity name count => s!"no signature of '{name}' takes {count} argument(s)"
  | exceeded e => s!"{e.resource.name} exceeded (limit {e.limit})"
  | invalidArgument name complaint => s!"invalid argument to '{name}': {complaint.message}"
  | queryFailed e => s!"query failed: {e.message}"

/-- Why a run failed. -/
inductive RunError where
  | scope (e : ScopeError)
  | lex (e : LexError)
  /-- A fault and where it happened. -/
  | fault (pattern : String) (position : Position) (f : Fault)

namespace RunError

/-- The text of the error. -/
def message : RunError → String
  | scope e => s!"parse error: {e.message}"
  | lex e => s!"lex error: {e.message}"
  | fault pattern position f => s!"{pattern}:{position.text}: {f.message}"

/-- Where the error is, if it is anywhere. -/
def position? : RunError → Option Position
  | scope e => e.position?
  | lex e => some e.position
  | fault _ position _ => some position

end RunError

end Wordsmith
