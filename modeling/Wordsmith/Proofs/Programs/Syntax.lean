import Mathlib.Data.List.Perm.Basic
import Wordsmith.Token.Lexer

/-!
# Programs of subroutines

A program defines subroutines, one after the other, and then uses them in a text. Code in it is made
of characters that stand for themselves, of arguments, and of calls of subroutines that were defined
before. What it prints is found by substitution: the arguments of a call have values of their own,
and the call stands for the body of the subroutine with the values in place of its parameters.
Blanks at the edges of a body or of an argument do not belong to it.

Main definitions: `Phrase.source` and `Program.source`, how programs are written; `Phrase.value` and
`Program.value`, what they print; `Phrase.IsSound` and `Program.IsSound`, which of them make sense.
-/

namespace Wordsmith

/-! ## Code -/

/-- A piece of code. -/
inductive Piece where
  /-- A character that stands for itself. -/
  | char (c : Char)
  /-- What is passed for a parameter. -/
  | argument (parameter : String)
  /-- A call of a subroutine. -/
  | call (name : String) (arguments : List (List Piece))

/-- Code. -/
abbrev Phrase : Type := List Piece

/-- Whether a piece is a blank. -/
def Piece.isBlank : Piece → Bool
  | char c => Text.isBlank c
  | _ => false

namespace Phrase

/-- Plain text as code. -/
def ofText (text : String) : Phrase := text.toList.map .char

/-- The code without blanks at its edges. -/
def trim (a : Phrase) : Phrase :=
  ((a.dropWhile Piece.isBlank).reverse.dropWhile Piece.isBlank).reverse

theorem sizeOf_dropWhile_le (p : Piece → Bool) (a : Phrase) :
    sizeOf (a.dropWhile p) ≤ sizeOf a := by
  induction a with
  | nil => exact Nat.le_refl _
  | cons x a ih =>
    rw [List.dropWhile_cons]
    split
    · exact Nat.le_trans ih (by simp)
    · exact Nat.le_refl _

theorem sizeOf_trim_le (a : Phrase) : sizeOf a.trim ≤ sizeOf a := by
  have hreverse : ∀ b : Phrase, sizeOf b.reverse = sizeOf b := fun b =>
    (List.reverse_perm b).sizeOf_eq_sizeOf
  rw [trim, hreverse]
  refine Nat.le_trans (sizeOf_dropWhile_le ..) ?_
  rw [hreverse]
  exact sizeOf_dropWhile_le ..

theorem sizeOf_trim_lt {a : Phrase} {arguments : List Phrase} (h : a ∈ arguments) (name : String)
    (b : Phrase) : sizeOf a.trim < sizeOf (Piece.call name arguments :: b) := by
  have hmem := List.sizeOf_lt_of_mem h
  have htrim := sizeOf_trim_le a
  simp only [List.cons.sizeOf_spec, Piece.call.sizeOf_spec]
  omega

/-! ## How code is written -/

/-- What stands behind a name: nothing, or a colon and parts with semicolons between them. -/
def listed : List (List Char) → List Char
  | [] => []
  | part :: parts => ':' :: List.intercalate [';'] (part :: parts)

/-- The characters of code. -/
def source : Phrase → List Char
  | [] => []
  | .char c :: a => c :: source a
  | .argument parameter :: a => "[arg:".toList ++ parameter.toList ++ ']' :: source a
  | .call name arguments :: a =>
    "[$".toList ++ name.toList ++ listed (arguments.map source) ++ ']' :: source a

/-! ## What code prints -/

/-- What calls print: the name of a subroutine and the values of the arguments tell. -/
abbrev Meaning : Type := String → List String → String

/-- What code prints if it is known what calls print and what is passed for the parameters. -/
def value (calls : Meaning) (passed : List (String × String)) : Phrase → String
  | [] => ""
  | .char c :: a => String.singleton c ++ value calls passed a
  | .argument parameter :: a => (passed.lookup parameter).getD "" ++ value calls passed a
  | .call name arguments :: a =>
    calls name (arguments.map fun b => value calls passed (trim b)) ++ value calls passed a
termination_by a => sizeOf a
decreasing_by
  all_goals first | exact sizeOf_trim_lt ‹_› .. | (simp only [List.cons.sizeOf_spec]; omega)

end Phrase

/-- A definition of a subroutine. -/
structure Definition where
  name : String
  parameters : List String
  body : Phrase

namespace Definition

/-- The characters of a definition. -/
def source (d : Definition) : List Char :=
  "[$[".toList ++ d.name.toList ++ Phrase.listed (d.parameters.map String.toList) ++ "]:".toList ++
    d.body.source ++ [']']

/-- What calls print once the subroutine is defined, too. -/
def extend (d : Definition) (calls : Phrase.Meaning) : Phrase.Meaning := fun name values =>
  if name = d.name then d.body.trim.value calls (d.parameters.zip values) else calls name values

/-- What calls print once all subroutines are defined, each by means of those before it. -/
def meaning (ds : List Definition) : Phrase.Meaning :=
  ds.foldl (fun calls d => d.extend calls) fun _ _ => ""

end Definition

/-- Definitions, and the text that uses them. -/
structure Program where
  definitions : List Definition
  main : Phrase

namespace Program

/-- The program as it is written, with every definition in a line of its own. -/
def source (P : Program) : String :=
  .ofList ((P.definitions.flatMap fun d => d.source ++ ['\n']) ++ P.main.source)

/-- What the program prints. -/
def value (P : Program) : String := P.main.trim.value (Definition.meaning P.definitions) []

end Program

/-! ## Code that makes sense -/

/-- What is to hold of the characters of a text is checked on these, and not on all there are. -/
instance decidableForallListed {p : Char → Prop} [DecidablePred p] (cs : List Char) :
    Decidable (∀ c ∈ cs, p c) :=
  cs.decidableBAll p

instance decidableForallOptional {p : Char → Prop} [DecidablePred p] (c : Option Char) :
    Decidable (∀ d ∈ c, p d) :=
  c.decidableForallMem

/-- The character has no meaning of its own that would make it anything but itself. -/
def IsUnmarked (c : Char) : Prop :=
  c ∉ ['\n', '#', '\\', '"', '\x60', '[', ']', '\x7b', '\x7d', '<', '>', '(', ')']

instance (c : Char) : Decidable (IsUnmarked c) := inferInstanceAs (Decidable (c ∉ _))

/-- The code makes sense where some subroutines are known and there are some parameters: it names no
other parameters and calls no other subroutines, and these with the right number of arguments. The
marks between arguments are not part of them, and two colons in a row are one mark. -/
inductive Phrase.IsSound (known : List Definition) (parameters : List String) : Phrase → Prop
  | nil : IsSound known parameters []
  | char {c : Char} {a : Phrase} (hc : IsUnmarked c) (ha : IsSound known parameters a) :
    IsSound known parameters (.char c :: a)
  | argument {parameter : String} {a : Phrase} (hparameter : parameter ∈ parameters)
    (ha : IsSound known parameters a) : IsSound known parameters (.argument parameter :: a)
  | call {d : Definition} {arguments : List Phrase} {a : Phrase} (hd : d ∈ known)
    (hcount : arguments.length = d.parameters.length)
    (harguments : ∀ b ∈ arguments, IsSound known parameters b)
    (hseparators : ∀ b ∈ arguments, .char ';' ∉ b)
    (hcolon : ∀ b ∈ arguments.head?, b.head? ≠ some (.char ':'))
    (ha : IsSound known parameters a) : IsSound known parameters (.call d.name arguments :: a)

/-- The text is the name of a parameter whose argument is evaluated. -/
structure IsParameterName (text : String) : Prop where
  ne : text ≠ ""
  unmarked : ∀ c ∈ text.toList, IsUnmarked c ∧ c ≠ ';'
  head : ∀ c ∈ text.toList.head?, Text.isBlank c = false ∧ c ≠ ':' ∧ c ≠ '@'
  last : ∀ c ∈ text.toList.getLast?, Text.isBlank c = false

/-- The text is the name of a subroutine. -/
structure IsSubroutineName (text : String) : Prop where
  ne : text ≠ ""
  plain : ∀ c ∈ text.toList, Lexer.isPlain c = true ∧ c ≠ '#'

/-- The definition makes sense where some subroutines are known. -/
structure Definition.IsSound (known : List Definition) (d : Definition) : Prop where
  name : IsSubroutineName d.name
  fresh : ∀ d' ∈ known, d'.name ≠ d.name
  parameters : ∀ p ∈ d.parameters, IsParameterName p
  distinct : d.parameters.Nodup
  body : d.body.IsSound known d.parameters
  colon : d.body.head? ≠ some (.char ':')

/-- Every definition makes sense behind those before it, and the text makes sense behind them all,
without parameters. -/
structure Program.IsSound (P : Program) : Prop where
  definitions : ∀ known d others, P.definitions = known ++ d :: others → d.IsSound known
  main : P.main.IsSound P.definitions []

end Wordsmith
