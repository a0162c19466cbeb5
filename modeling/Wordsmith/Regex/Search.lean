import Wordsmith.Regex.Footprint
import Wordsmith.Regex.Parser
import Wordsmith.Regex.Program
import Wordsmith.Named
import Wordsmith.Token.Literal

/-!
# Finding and replacing

The matches of an expression in a text follow each other without overlap. An empty match is passed
over where the match before it ended. Each match has a text and groups, which can be asked for by
number or by name.
-/

namespace Wordsmith

/-- A regular expression that is ready to search. -/
abbrev Regex : Type := Regex.Program

namespace Regex

/-- Makes an expression ready. -/
def compile (expression : String) (ignoresCase : Bool) : Except Fault Regex :=
  match Expression.ofText expression with
  | .error f => .error f
  | .ok e =>
    match Node.ofTree (.start ignoresCase) e.tree with
    | .error f => .error f
    | .ok (n, _) =>
      if n.fits then .ok (.ofNode n e.captures e.names)
      else .error ⟨.tooLarge, ⟨0, 0⟩, none⟩

/-- Makes the expression of a literal in backticks ready; if it cannot be, gives the reason in
words. -/
def ofLiteral (literal : String) : Except String Regex :=
  match RegexLiteral.ofText? literal with
  | none => .error ("malformed regex literal " ++ literal)
  | some l =>
    match compile l.body l.ignoresCase with
    | .ok r => .ok r
    | .error f => .error (f.message l.body)

/-- A match of an expression in a text. Its ends are counted in characters. -/
structure Match where
  start : Nat
  stop : Nat
  /-- The texts of the groups; the first is the whole match. -/
  groups : List (Option String)
  names : List (String × Nat)

namespace Match

/-- The match that slots describe. -/
def ofSlots (r : Regex) (text : Array Char) (slots : Slots) : Match :=
  let part (i : Nat) : Option String :=
    match slots.getD (2 * i) none, slots.getD (2 * i + 1) none with
    | some a, some b => some (.ofList (text.extract a b).toList)
    | _, _ => none
  { start := (slots.getD 0 none).getD 0
    stop := (slots.getD 1 none).getD 0
    groups := (List.range r.groups).map part
    names := r.names }

/-- The text of a group by its number. -/
def groupAt? (m : Match) (i : Nat) : Option String := (m.groups[i]?).join

/-- The text of the match. -/
def text (m : Match) : String := (m.groupAt? 0).getD ""

/-- The text of a group by its number or its name. -/
def group? (m : Match) (key : String) : Option String :=
  let key := Text.trimmed key
  match Text.word? key with
  | some i => m.groupAt? i
  | none => (Named.lookup key m.names).bind m.groupAt?

end Match

/-- The matches from a place on, at most `n` of them; `lastStop` is where the last match ended. -/
def matchesFrom (r : Regex) (text : Array Char) : Nat → Nat → Option Nat → List Match
  | 0, _, _ => []
  | n + 1, i, lastStop =>
    let found := (r.findFrom text i).map (Match.ofSlots r text)
    let found := match found with
      | some m =>
        if m.start = m.stop ∧ lastStop = some m.stop then
          (r.findFrom text (i + 1)).map (Match.ofSlots r text)
        else some m
      | none => none
    match found with
    | some m => m :: matchesFrom r text n m.stop (some m.stop)
    | none => []

/-- All matches in a text. There is at most one for each place in it. -/
def allMatches (r : Regex) (text : String) : List Match :=
  let chars := text.toList.toArray
  matchesFrom r chars (chars.size + 1) 0 none

/-- The text with spans of it replaced, from the character `i` on, which is where it begins. -/
def spliceFrom (i : Nat) (text : List Char) : List ((Nat × Nat) × String) → List Char
  | [] => text
  | ((start, stop), replacement) :: rest =>
    text.take (start - i) ++ replacement.toList ++ spliceFrom stop (text.drop (stop - i)) rest

/-- The text with each span of it replaced by a text. -/
def splice (text : String) (spans : List (Nat × Nat)) (replacements : List String) : String :=
  .ofList (spliceFrom 0 text.toList (spans.zip replacements))

end Regex

end Wordsmith
