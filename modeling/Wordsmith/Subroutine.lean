import Wordsmith.Reader.Basic
import Wordsmith.Text.Slice

/-!
# Subroutines

A subroutine is a named piece of code with parameters. Its definition begins with a header in
brackets of its own: a name and, behind a colon, the parameters. A parameter marked with an at
sign receives code instead of text.
-/

namespace Wordsmith

/-- A parameter of a subroutine. -/
structure Parameter where
  name : String
  /-- Whether the argument is passed as code. -/
  isCode : Bool
deriving DecidableEq, Repr

/-- Reads a parameter, unless it has no name. -/
def Parameter.ofPassage? (p : Passage) : Option Parameter :=
  let (name, isCode) := match Text.trim p.text.toList with
    | '@' :: rest => (Text.trim rest, true)
    | cs => (cs, false)
  if name = [] then none else some ⟨.ofList name, isCode⟩

/-- A subroutine. -/
structure Subroutine where
  name : String
  parameters : List Parameter
  body : Passage

namespace Subroutine

/-- The number of parameters. -/
def arity (s : Subroutine) : Nat := s.parameters.length

/-- Whether an argument is passed as code. -/
def takesCode (s : Subroutine) (i : Nat) : Bool := ((s.parameters[i]?).map (·.isCode)).getD false

/-- The scope of everything in square brackets. -/
def scope : Scope := ⟨.leftSquare, .rightSquare, .all⟩

/-- Reads the parameters behind the name in a header. -/
def readParameters : Scan (List Parameter) := do
  if ← Scan.take .colon then
    return (← Scan.arguments scope .semicolon).filterMap Parameter.ofPassage?
  else
    let _ ← Scan.expect .rightSquare "']' closing a subroutine signature"
    return []

/-- Reads the header of a definition and the colon behind it: the name and the parameters. -/
def readHeader : Scan (String × List Parameter) := do
  Scan.space
  let _ ← Scan.expect .leftSquare "'[' opening a subroutine signature"
  Scan.space
  let name ← Scan.expect .text "subroutine name"
  Scan.space
  let parameters ← readParameters
  unless ← Scan.takeLoose .colon do
    let _ ← Scan.expect .colon "':' before a subroutine body"
  return (name.text, parameters)

end Subroutine

end Wordsmith
