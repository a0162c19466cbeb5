import Wordsmith.Text.LetterCase

/-!
# Tags

A tag is a construct in square brackets that is called by a name. It has one or more names and
takes a fixed number of arguments, each as text or as code, or a least number of them; one name
may stand for several tags that differ in their arguments.
-/

namespace Wordsmith

/-- What can be called in square brackets. -/
inductive Tag where
  /- Attributes of the next block. -/
  | repetitions
  | separator
  | before
  | after
  | chance
  | persistence
  /- The running repeater. -/
  | leave
  | repetitionNumber
  | repetitionIndex
  | repetitionCount
  | ifFirst
  | ifLast
  | ifMiddle
  | unlessFirst
  | unlessLast
  | unlessMiddle
  | ifOdd
  | ifEven
  | ifNth
  | ifNthFrom
  /- Shared orders. -/
  | bindOrder
  | createBoundOrder
  | createOrder
  | resetOrder
  | reseedOrder
  | unbindOrder
  | pinOrder
  | unpinOrder
  | stepOrder
  /- The generator. -/
  | branch
  | branchFor
  | merge
  | generation
  | setGeneration
  /- Tests of what was printed. -/
  | ifNothing
  | ifAnything
  /- Subroutines and replacers. -/
  | argument
  | wholeMatch
  | matchGroup
  /- Formats. -/
  | caseMode
  | inferCaseMode
  | numberFormat
  /- Channels and targets. -/
  | visit
  | visitAs
  | close
  | mark
  | distance
  | copy
  | target
  | send
  | overwrite
  | clearTarget
  | article
  /- Everything that prints something new. -/
  | hook
  | length
  | character
  | characters
  | number
  | fraction
  | code
  /- Flags and comparisons. -/
  | define
  | undefine
  | ifDefined
  | unlessDefined
  | otherwise
  | compare
  | ifCompared
deriving DecidableEq, Repr

/-- How an argument is passed. -/
inductive ParameterKind where
  /-- It is run first, and what it prints is passed. -/
  | text
  /-- It is passed as it is. -/
  | code
deriving DecidableEq, Repr

/-- A tag with the arguments it takes. -/
structure Signature where
  tag : Tag
  parameters : List ParameterKind
  /-- Whether the last argument may be repeated. -/
  isVariadic : Bool
deriving DecidableEq, Repr

namespace Signature

/-- Whether as many arguments are taken. -/
def accepts (s : Signature) (count : Nat) : Bool :=
  if s.isVariadic then s.parameters.length ≤ count else count == s.parameters.length

/-- Whether an argument is passed as code. -/
def takesCode (s : Signature) (i : Nat) : Bool :=
  match s.parameters[i]? with
  | some kind => kind == .code
  | none => s.isVariadic && s.parameters.getLast? == some .code

end Signature

end Wordsmith
