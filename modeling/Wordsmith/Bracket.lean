import Wordsmith.Subroutine

/-!
# Square brackets

What stands in square brackets is told by how it begins: with a dollar sign, a definition or a
call of a subroutine; with a question mark, a metapattern; with a regular expression, a replacer;
with a name, a tag.
-/

namespace Wordsmith

/-- What stands in square brackets. -/
inductive Bracket where
  /-- A definition; a meta definition makes its body when it is run. -/
  | definition (isMeta : Bool) (name : String) (parameters : List Parameter) (body : Passage)
  | call (name : Token) (arguments : List Passage)
  | metapattern (body : Passage)
  | replacer (literal : Token) (arguments : List Passage)
  | tag (name : Token) (arguments : List Passage)

namespace Bracket

/-- Reads arguments up to the closing bracket. -/
def readArguments : Scan (List Passage) := Scan.arguments Subroutine.scope .semicolon

/-- Reads what stands behind a name: a colon and arguments, or nothing. -/
def readCall : Scan (List Passage) := do
  Scan.space
  if ← Scan.take .colon then readArguments
  else
    let _ ← Scan.expect .rightSquare "':' or ']' after a name"
    return []

/-- Reads what stands behind a regular expression, where a colon must be. -/
def readReplacement : Scan (List Passage) := do
  Scan.space
  let _ ← Scan.expect .colon "':' after a regex"
  readArguments

/-- The kind of the next token. -/
def nextKind? : Scan (Option TokenKind) := do return (← get).peekKind?

/-- Reads a definition from its header on. -/
def readDefinition (isMeta : Bool) : Scan Bracket := do
  let (name, parameters) ← Subroutine.readHeader
  return .definition isMeta name parameters (← Scan.body Subroutine.scope)

/-- Reads the call of a subroutine from its name on. -/
def readSubroutineCall : Scan Bracket := do
  let name ← Scan.expect .text "subroutine name"
  return .call name (← readCall)

/-- Reads what stands behind a dollar sign. -/
def readSubroutine : Scan Bracket := do
  let isMeta ← Scan.take .question
  Scan.space
  if isMeta || (← nextKind?) == some .leftSquare then readDefinition isMeta
  else readSubroutineCall

/-- Reads a metapattern behind its question mark. -/
def readMetapattern : Scan Bracket := return .metapattern (← Scan.body Subroutine.scope)

/-- Reads a replacer; what stands behind its regular expression is read by `readReplaced`. -/
def readReplacer (readReplaced : Scan (List Passage)) : Scan Bracket := do
  let literal ← Scan.expect .regex "regex"
  return .replacer literal (← readReplaced)

/-- Reads a tag from its name on. -/
def readTag : Scan Bracket := do
  let name ← Scan.expect .text "tag name"
  return .tag name (← readCall)

/-- Reads square brackets whose opener has just been read. What stands behind a regular expression
is read by `readReplaced`. -/
def read (readReplaced : Scan (List Passage)) : Scan Bracket := do
  Scan.space
  if ← Scan.take .dollar then readSubroutine
  else if ← Scan.take .question then readMetapattern
  else if (← nextKind?) == some .regex then readReplacer readReplaced
  else readTag

/-- The passages that square brackets hold. -/
def passages : Bracket → List Passage
  | definition _ _ _ body => [body]
  | call _ arguments => arguments
  | metapattern body => [body]
  | replacer _ arguments => arguments
  | tag _ arguments => arguments

end Bracket

namespace Scan

/-- Reads an expression whose opener has just been read: whether it is silent, and its code. -/
def expression : Scan (Bool × Passage) := do
  let isSilent ← Scan.take .at
  return (isSilent, ← Scan.body ⟨.leftParen, .rightParen, .all⟩)

/-- Reads a query whose opener has just been read. -/
def query : Scan Passage := Scan.body ⟨.leftAngle, .rightAngle, .angle⟩

end Scan

end Wordsmith
