/-!
# Faults in regular expressions

A fault has a kind and a span, the columns of the expression that it concerns. Its text shows the
expression with carets under the span, and the kind in words.
-/

namespace Wordsmith.Regex

/-- Columns of an expression, from `start` up to but not including `stop`, counted from zero. -/
structure Span where
  start : Nat
  stop : Nat
deriving DecidableEq, Repr

/-- What can be wrong with a regular expression. -/
inductive Fault.Kind where
  | classEscapeInvalid
  | classRangeInvalid
  | classRangeLiteral
  | classUnclosed
  | decimalEmpty
  | decimalInvalid
  | escapeHexEmpty
  | escapeHexInvalid
  | escapeHexInvalidDigit
  | escapeUnexpectedEnd
  | escapeUnrecognized
  | flagDanglingNegation
  | flagDuplicate
  | flagRepeatedNegation
  | flagUnexpectedEnd
  | flagUnrecognized
  | groupNameDuplicate
  | groupNameEmpty
  | groupNameInvalid
  | groupNameUnexpectedEnd
  | groupUnclosed
  | groupUnopened
  | nestLimitExceeded
  | repetitionCountInvalid
  | repetitionCountDecimalEmpty
  | repetitionCountUnclosed
  | repetitionMissing
  | wordBoundaryUnclosed
  | wordBoundaryUnrecognized
  | wordBoundaryUnexpectedEnd
  | unicodeClassInvalid
  | unsupportedBackreference
  | unsupportedLookAround
  | unicodeNotAllowed
  | invalidBytes
  | propertyNotFound
  | propertyValueNotFound
  /-- The expression is well formed but too large to be searched for. -/
  | tooLarge
deriving DecidableEq, Repr

/-- A fault with the columns it concerns. Faults about a repetition of something name the first
occurrence as well. -/
structure Fault where
  kind : Fault.Kind
  span : Span
  earlier : Option Span
deriving DecidableEq, Repr

namespace Fault

/-- The deepest nesting of an expression. -/
def nestLimit : Nat := 250

/-- The kind of a fault in words. -/
def Kind.text : Kind → String
  | classEscapeInvalid => "invalid escape sequence found in character class"
  | classRangeInvalid => "invalid character class range, the start must be <= the end"
  | classRangeLiteral => "invalid range boundary, must be a literal"
  | classUnclosed => "unclosed character class"
  | decimalEmpty => "decimal literal empty"
  | decimalInvalid => "decimal literal invalid"
  | escapeHexEmpty => "hexadecimal literal empty"
  | escapeHexInvalid => "hexadecimal literal is not a Unicode scalar value"
  | escapeHexInvalidDigit => "invalid hexadecimal digit"
  | escapeUnexpectedEnd => "incomplete escape sequence, reached end of pattern prematurely"
  | escapeUnrecognized => "unrecognized escape sequence"
  | flagDanglingNegation => "dangling flag negation operator"
  | flagDuplicate => "duplicate flag"
  | flagRepeatedNegation => "flag negation operator repeated"
  | flagUnexpectedEnd => "expected flag but got end of regex"
  | flagUnrecognized => "unrecognized flag"
  | groupNameDuplicate => "duplicate capture group name"
  | groupNameEmpty => "empty capture group name"
  | groupNameInvalid => "invalid capture group character"
  | groupNameUnexpectedEnd => "unclosed capture group name"
  | groupUnclosed => "unclosed group"
  | groupUnopened => "unopened group"
  | nestLimitExceeded =>
    s!"exceed the maximum number of nested parentheses/brackets ({nestLimit})"
  | repetitionCountInvalid =>
    "invalid repetition count range, the start must be <= the end"
  | repetitionCountDecimalEmpty => "repetition quantifier expects a valid decimal"
  | repetitionCountUnclosed => "unclosed counted repetition"
  | repetitionMissing => "repetition operator missing expression"
  | wordBoundaryUnclosed =>
    "special word boundary assertion is either unclosed or contains an invalid character"
  | wordBoundaryUnrecognized =>
    "unrecognized special word boundary assertion, " ++
      "valid choices are: start, end, start-half or end-half"
  | wordBoundaryUnexpectedEnd =>
    "found either the beginning of a special word boundary or a bounded repetition on a \\b " ++
      "with an opening brace, but no closing brace"
  | unicodeClassInvalid => "invalid Unicode character class"
  | unsupportedBackreference => "backreferences are not supported"
  | unsupportedLookAround =>
    "look-around, including look-ahead and look-behind, is not supported"
  | unicodeNotAllowed => "Unicode not allowed here"
  | invalidBytes => "pattern can match invalid UTF-8"
  | propertyNotFound => "Unicode property not found"
  | propertyValueNotFound => "Unicode property value not found"
  | tooLarge => "Compiled regex exceeds size limit of 10485760 bytes."

/-- Carets under spans that are in ascending order, from a column on. -/
def carets : Nat → List Span → List Char
  | _, [] => []
  | column, s :: rest =>
    let width := max 1 (s.stop - s.start)
    List.replicate (s.start - column) ' ' ++ List.replicate width '^' ++
      carets (max column s.start + width) rest

/-- The spans of a fault in ascending order. -/
def spans (f : Fault) : List Span :=
  match f.earlier with
  | none => [f.span]
  | some s => if f.span.start < s.start then [f.span, s] else [s, f.span]

/-- The text of a fault in an expression. -/
def message (f : Fault) (expression : String) : String :=
  if f.kind = .tooLarge then f.kind.text
  else
    "regex parse error:\n    " ++ expression ++ "\n    " ++ .ofList (carets 0 f.spans) ++
      "\nerror: " ++ f.kind.text

end Fault

end Wordsmith.Regex
