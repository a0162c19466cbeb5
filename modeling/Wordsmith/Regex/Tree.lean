import Wordsmith.Regex.Fault

/-!
# The trees of regular expressions

What a regular expression says, as it is written: the flags that change the meaning of its parts
are parts like others. Leaves keep their span, since a flag may forbid what they stand for.
-/

namespace Wordsmith.Regex

/-- A switch that changes the meaning of what follows. -/
inductive Flag where
  | ignoresCase
  | multiLine
  | dotMatchesNewLine
  | swapsGreed
  | unicode
  | carriageReturn
  | ignoresSpace
deriving DecidableEq, Repr

/-- A flag and whether it is switched on. -/
abbrev FlagSetting : Type := Flag × Bool

/-- A place between characters. -/
inductive Boundary where
  | lineStart
  | lineEnd
  | textStart
  | textEnd
  | word
  | notWord
  | wordStart
  | wordEnd
  | wordStartHalf
  | wordEndHalf
deriving DecidableEq, Repr

/-- A class with a letter of its own. -/
inductive LetterClass where
  | digit
  | space
  | word
deriving DecidableEq, Repr

/-- A property of characters by its name, or by its name and value. -/
inductive PropertyName where
  | plain (name : String)
  | valued (name value : String)
deriving DecidableEq, Repr

/-- A class by itself: a letter class or a property, perhaps negated. -/
inductive NamedClass where
  | letter (c : LetterClass)
  | property (name : PropertyName)
deriving DecidableEq, Repr

/-- How two classes in brackets are combined. -/
inductive ClassOperator where
  | intersection
  | difference
  | symmetricDifference
deriving DecidableEq, Repr

/-- A single character; `byte` tells that it was written as two hexadecimal digits. -/
structure Literal where
  char : Char
  byte : Bool
  span : Span
deriving DecidableEq, Repr

/-- A class in brackets. -/
inductive ClassTree where
  | empty
  | literal (l : Literal)
  | range (first last : Literal)
  /-- A class of ASCII characters by its name. -/
  | ascii (name : String) (negated : Bool) (span : Span)
  | named (c : NamedClass) (negated : Bool) (span : Span)
  | bracket (negated : Bool) (inner : ClassTree) (span : Span)
  | union (items : List ClassTree)
  | operation (operator : ClassOperator) (left right : ClassTree)

/-- A regular expression. -/
inductive Tree where
  | empty
  | flags (settings : List FlagSetting)
  | literal (l : Literal)
  | dot (span : Span)
  | boundary (b : Boundary)
  | named (c : NamedClass) (negated : Bool) (span : Span)
  | bracket (c : ClassTree)
  | repeated (inner : Tree) (least : Nat) (most : Option Nat) (greedy : Bool)
  /-- A group that captures under a number. -/
  | capture (index : Nat) (inner : Tree)
  /-- A group that only sets flags for its inside. -/
  | group (settings : List FlagSetting) (inner : Tree)
  | concat (parts : List Tree)
  | alternation (branches : List Tree)

end Wordsmith.Regex
