import Wordsmith.Regex.Tree
import Wordsmith.Text.CharSet

/-!
# Expressions in normal form

With the flags resolved, an expression is built from texts, sets of characters and places between
characters. It is kept in a normal form, which the functions here build: neighbouring texts are one
text, nothing empty stands in a sequence, branches that are single characters or sets are one set,
and what all branches begin with stands in front of them.
-/

namespace Wordsmith.Regex

open Text

/-- A place between characters. -/
inductive Look where
  | textStart
  | textEnd
  /-- Behind a line feed or at the start. -/
  | lineStart
  | lineEnd
  /-- Behind a carriage return or line feed, but not between the two, or at the start. -/
  | returnStart
  | returnEnd
  /-- A boundary that depends on which neighbours are parts of words, of all words or of those in
  ASCII. -/
  | word (b : Boundary) (unicode : Bool)
deriving DecidableEq, Repr

/-- A regular expression with the flags resolved. A sequence and a choice go on in their second
part. -/
inductive Node where
  | empty
  | literal (text : List Char)
  | set (s : CharSet)
  | look (l : Look)
  | capture (index : Nat) (inner : Node)
  | repeated (inner : Node) (least : Nat) (most : Option Nat) (greedy : Bool)
  | concat (first second : Node)
  | alternation (first second : Node)
deriving DecidableEq, Repr

namespace Node

/-! ## Lengths -/

/-- The least number of octets that an expression matches, unless it never matches. -/
def minLength : Node → Option Nat
  | empty => some 0
  | literal cs => some (cs.foldl (fun n c => n + c.utf8Size) 0)
  | set s => s.changes[0]?.map fun n => (Char.ofNat n).utf8Size
  | look _ => some 0
  | capture _ inner => inner.minLength
  | repeated inner least _ _ => inner.minLength.map (· * least)
  | concat a b => a.minLength.bind fun m => b.minLength.map (m + ·)
  | alternation a b => a.minLength.bind fun m => b.minLength.map (min m ·)

/-- The greatest number of octets that an expression matches, if there is one. -/
def maxLength : Node → Option Nat
  | empty => some 0
  | literal cs => some (cs.foldl (fun n c => n + c.utf8Size) 0)
  | set s => s.changes.back?.map fun n => (Char.ofNat (n - 1)).utf8Size
  | look _ => some 0
  | capture _ inner => inner.maxLength
  | repeated inner _ most _ => most.bind fun k => inner.maxLength.map (· * k)
  | concat a b => a.maxLength.bind fun m => b.maxLength.map (m + ·)
  | alternation a b => a.maxLength.bind fun m => b.maxLength.map (max m ·)

/-- Whether an expression can match at the start of a text only. -/
def isAtStart : Node → Bool
  | look l => l = .textStart
  | capture _ inner => inner.isAtStart
  | repeated inner least _ _ => 0 < least && inner.isAtStart
  | concat a b => a.isAtStart || (a.maxLength == some 0 && b.isAtStart)
  | alternation a b => a.isAtStart && b.isAtStart
  | _ => false

/-- Whether an expression can match at the end of a text only. -/
def isAtEnd : Node → Bool
  | look l => l = .textEnd
  | capture _ inner => inner.isAtEnd
  | repeated inner least _ _ => 0 < least && inner.isAtEnd
  | concat a b => b.isAtEnd || (b.maxLength == some 0 && a.isAtEnd)
  | alternation a b => a.isAtEnd && b.isAtEnd
  | _ => false

/-! ## Parts and branches -/

/-- The parts of a sequence. -/
def parts : Node → List Node
  | empty => []
  | concat a b => a :: b.parts
  | n => [n]

/-- The branches of a choice. -/
def branches : Node → List Node
  | alternation a b => a :: b.branches
  | n => [n]

/-- The text of an expression that is one. -/
def literal? : Node → Option (List Char)
  | literal cs => some cs
  | _ => none

/-- The character of an expression that is one. -/
def char? : Node → Option Char
  | literal [c] => some c
  | _ => none

/-- The set of an expression that is one. -/
def set? : Node → Option CharSet
  | set s => some s
  | _ => none

/-- The number of nodes. -/
def size : Node → Nat
  | capture _ inner => inner.size + 1
  | repeated inner _ _ _ => inner.size + 1
  | concat a b => a.size + b.size + 1
  | alternation a b => a.size + b.size + 1
  | _ => 1

/-! ## Normal forms -/

/-- The expression of a set; one member alone is a text. -/
def ofSet (s : CharSet) : Node :=
  match s.only? with
  | some c => literal [c]
  | none => set s

/-- Joins neighbouring texts. -/
def joinLiterals : List Node → List Node
  | [] => []
  | literal cs :: rest =>
    match joinLiterals rest with
    | literal ds :: rest => literal (cs ++ ds) :: rest
    | rest => literal cs :: rest
  | n :: rest => n :: joinLiterals rest

/-- The sequence of parts in normal form. -/
def ofParts : List Node → Node
  | [] => empty
  | [n] => n
  | n :: rest => concat n (ofParts rest)

/-- The choice between branches in normal form. -/
def ofBranches : List Node → Node
  | [] => set .empty
  | [n] => n
  | n :: rest => alternation n (ofBranches rest)

/-- The expression of several, one after the other. -/
def sequence (ns : List Node) : Node := ofParts (joinLiterals (ns.flatMap parts))

/-- What two sequences both begin with. -/
def commonPrefix : List Node → List Node → List Node
  | a :: as, b :: bs => if a = b then a :: commonPrefix as bs else []
  | _, _ => []

/-- What several sequences all begin with. A single part is no sequence. -/
def sharedPrefix (sequences : List (List Node)) : List Node :=
  if sequences.any (·.length < 2) then []
  else match sequences with
    | [] => []
    | first :: rest => rest.foldl commonPrefix first

/-- The expression of several of which one is chosen; at most `n` prefixes are taken out of it. -/
def choiceWithin : Nat → List Node → Node
  | 0, ns => ofBranches ns
  | n + 1, ns =>
    let ns := ns.flatMap branches
    match ns with
    | [] => set .empty
    | [one] => one
    | _ =>
      match ns.mapM char?, ns.mapM set? with
      | some cs, _ => ofSet (.ofChars cs)
      | _, some sets => ofSet (.unions sets)
      | none, none =>
        let start := sharedPrefix (ns.map parts)
        if start.isEmpty then ofBranches ns
        else
          let ends := ns.map fun m => sequence (m.parts.drop start.length)
          sequence (start ++ [choiceWithin n ends])

/-- The expression of several of which one is chosen. -/
def choice (ns : List Node) : Node :=
  choiceWithin (ns.foldl (fun n m => n + m.size) 1) ns

/-- A repetition. What matches only places is repeated once at most, and nothing is left of
what is repeated never. -/
def repetition (inner : Node) (least : Nat) (most : Option Nat) (greedy : Bool) : Node :=
  let (least, most) :=
    if inner.maxLength == some 0 then (min least 1, some (min (most.getD 1) 1)) else (least, most)
  if most = some 0 then empty
  else if least = 1 && most = some 1 then inner
  else repeated inner least most greedy

end Node

end Wordsmith.Regex
