import Wordsmith.Regex.Node
import Wordsmith.Regex.Property
import Wordsmith.Text.LetterCase.Folding

/-!
# The meaning of regular expressions

Flags are resolved here. A flag holds from where it is set to the end of the group around it, across
the bars of an alternation. Without the Unicode flag classes hold ASCII alone, and whatever would
reach beyond it is refused.
-/

namespace Wordsmith.Regex

open Text

/-- The flags in force. -/
structure Flags where
  ignoresCase : Bool
  multiLine : Bool
  dotMatchesNewLine : Bool
  swapsGreed : Bool
  unicode : Bool
  carriageReturn : Bool

namespace Flags

/-- The flags at the beginning of an expression. -/
def start (ignoresCase : Bool) : Flags := ⟨ignoresCase, false, false, false, true, false⟩

/-- Sets one flag. Whether space is skipped matters to reading alone. -/
def set (f : Flags) (s : FlagSetting) : Flags :=
  match s.1 with
  | .ignoresCase => { f with ignoresCase := s.2 }
  | .multiLine => { f with multiLine := s.2 }
  | .dotMatchesNewLine => { f with dotMatchesNewLine := s.2 }
  | .swapsGreed => { f with swapsGreed := s.2 }
  | .unicode => { f with unicode := s.2 }
  | .carriageReturn => { f with carriageReturn := s.2 }
  | .ignoresSpace => f

/-- Sets flags. -/
def setAll (f : Flags) (ss : List FlagSetting) : Flags := ss.foldl set f

end Flags

/-! ## Classes -/

namespace CharClass

/-- A set with all characters that are equal to one of its own but for case, if the flags ask
for it. -/
def folded (f : Flags) (s : CharSet) : CharSet :=
  if !f.ignoresCase then s else if f.unicode then s.folded else s.asciiFolded

/-- The set with its complement taken if it is negated. -/
def negatedIf (negated : Bool) (s : CharSet) : CharSet := if negated then s.compl else s

/-- The ASCII characters of a kind. -/
def asciiWhere (p : Char → Bool) : CharSet :=
  .ofCodes ((List.range 128).filter fun n => p (Char.ofNat n))

/-- The class of ASCII characters of a name. -/
def ascii (name : String) : CharSet :=
  asciiWhere fun c =>
    match name with
    | "alnum" => c.isAlphanum
    | "alpha" => c.isAlpha
    | "ascii" => true
    | "blank" => c == ' ' || c == '\t'
    | "cntrl" => c.toNat < 32 || c.toNat == 127
    | "digit" => c.isDigit
    | "graph" => 33 ≤ c.toNat && c.toNat ≤ 126
    | "lower" => c.isLower
    | "print" => 32 ≤ c.toNat && c.toNat ≤ 126
    | "punct" => 33 ≤ c.toNat && c.toNat ≤ 126 && !c.isAlphanum
    | "space" => c == ' ' || (9 ≤ c.toNat && c.toNat ≤ 13)
    | "upper" => c.isUpper
    | "word" => c.isAlphanum || c == '_'
    | _ => isHexDigit c

/-- The parts of words: letters, marks, digits, connectors and the two joiners. -/
def unicodeWord : CharSet :=
  .unions [Property.alphabetic, Property.m, Property.nd, Property.pc, Property.joiners]

/-- The parts of words in ASCII. -/
def asciiWord : CharSet := ascii "word"

/-- The class of a letter. -/
def letter (unicode : Bool) (l : LetterClass) : CharSet :=
  match l, unicode with
  | .digit, true => Property.nd
  | .space, true => Property.whiteSpace
  | .word, true => unicodeWord
  | .digit, false => ascii "digit"
  | .space, false => ascii "space"
  | .word, false => asciiWord

/-- Fails with the columns of a part. -/
def refuse {α : Type} (kind : Fault.Kind) (span : Span) : Except Fault α :=
  .error ⟨kind, span, none⟩

/-- A class of its own, negated or not. -/
def ofNamed (f : Flags) (c : NamedClass) (negated : Bool) (span : Span) :
    Except Fault CharSet :=
  match c with
  | .letter l =>
    if !f.unicode && negated then refuse .invalidBytes span
    else .ok (negatedIf negated (letter f.unicode l))
  | .property name =>
    if !f.unicode then refuse .unicodeNotAllowed span
    else match Property.find name with
      | .ok s => .ok (negatedIf negated (folded f s))
      | .error kind => refuse kind span

/-- The character of a literal. One that is written as a byte must be ASCII where bytes count. -/
def literalChar (f : Flags) (l : Literal) : Except Fault Char :=
  if !f.unicode && l.byte && 128 ≤ l.char.toNat then refuse .invalidBytes l.span else .ok l.char

/-- The character of a literal in a class. -/
def memberChar (f : Flags) (l : Literal) : Except Fault Char := do
  let c ← literalChar f l
  if !f.unicode && 128 ≤ c.toNat then refuse .unicodeNotAllowed l.span else return c

/-- The set of two classes that an operator joins. -/
def joined (operator : ClassOperator) (left right : CharSet) : CharSet :=
  match operator with
  | .intersection => left.inter right
  | .difference => left.diff right
  | .symmetricDifference => left.symmDiff right

mutual

/-- The set of a class in brackets. -/
def ofTree (f : Flags) : ClassTree → Except Fault CharSet
  | .empty => return .empty
  | .literal l => do
    let c ← memberChar f l
    return .singleton c
  | .range first last => do
    let low ← memberChar f first
    let high ← memberChar f last
    return .interval low.toNat high.toNat
  | .ascii name negated span =>
    if !f.unicode && negated then refuse .invalidBytes span
    else return negatedIf negated (folded f (ascii name))
  | .named c negated span => ofNamed f c negated span
  | .bracket negated inner span => do
    let s ← ofTree f inner
    if !f.unicode && negated then refuse .invalidBytes span
    return negatedIf negated (folded f s)
  | .union items => ofUnion f items
  | .operation operator left right => do
    let l := folded f (← ofTree f left)
    let r := folded f (← ofTree f right)
    return joined operator l r

/-- The set of several classes together. -/
def ofUnion (f : Flags) : List ClassTree → Except Fault CharSet
  | [] => return .empty
  | item :: rest => do
    let s ← ofTree f item
    let t ← ofUnion f rest
    return s.union t

end

end CharClass

/-! ## Expressions -/

namespace Node

open CharClass (refuse)

/-- The expression of a single character. -/
def ofChar (f : Flags) (c : Char) : Node := ofSet (CharClass.folded f (.singleton c))

/-- The set of the point. -/
def dotSet (f : Flags) : CharSet :=
  if f.dotMatchesNewLine then .full
  else (CharSet.ofChars (if f.carriageReturn then ['\n', '\r'] else ['\n'])).compl

/-- A boundary under the flags. -/
def lookOf (f : Flags) (b : Boundary) : Look :=
  match b with
  | .textStart => .textStart
  | .textEnd => .textEnd
  | .lineStart =>
    if !f.multiLine then .textStart else if f.carriageReturn then .returnStart else .lineStart
  | .lineEnd =>
    if !f.multiLine then .textEnd else if f.carriageReturn then .returnEnd else .lineEnd
  | b => .word b f.unicode

mutual

/-- The meaning of an expression under flags, and the flags behind it. -/
def ofTree (f : Flags) : Tree → Except Fault (Node × Flags)
  | .empty => return (empty, f)
  | .flags settings => return (empty, f.setAll settings)
  | .literal l => do
    let c ← CharClass.literalChar f l
    return (ofChar f c, f)
  | .dot span => if f.unicode then return (ofSet (dotSet f), f) else refuse .invalidBytes span
  | .boundary b => return (look (lookOf f b), f)
  | .named c negated span => do
    let s ← CharClass.ofNamed f c negated span
    return (ofSet s, f)
  | .bracket c => do
    let s ← CharClass.ofTree f c
    return (ofSet s, f)
  | .repeated inner least most greedy => do
    let (n, _) ← ofTree f inner
    return (repetition n least most (greedy != f.swapsGreed), f)
  | .capture index inner => do
    let (n, _) ← ofTree f inner
    return (capture index n, f)
  | .group settings inner => do
    let (n, _) ← ofTree (f.setAll settings) inner
    return (n, f)
  | .concat parts => do
    let (ns, f) ← ofTrees f parts
    return (sequence ns, f)
  | .alternation branches => do
    let (ns, f) ← ofTrees f branches
    return (choice ns, f)

/-- The meanings of several expressions, each under the flags that the one before it leaves. -/
def ofTrees (f : Flags) : List Tree → Except Fault (List Node × Flags)
  | [] => return ([], f)
  | t :: rest => do
    let (n, f) ← ofTree f t
    let (ns, f) ← ofTrees f rest
    return (n :: ns, f)

end

end Node

end Wordsmith.Regex
