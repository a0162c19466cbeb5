import Wordsmith.Text.LetterCase
import Wordsmith.Text.Slice

/-!
# Letter case of running text

Text is written piece by piece, and a case mode capitalises it as if it came in one piece. The
cursor carries over from one piece to the next what a mode needs to know: the character that was
written last and whether a sentence is about to begin.
-/

namespace Wordsmith

open Text

/-- How letters are changed. -/
inductive CaseMode where
  | none
  | lower
  | upper
  /-- The next letter in upper case, then no change any more. -/
  | first
  /-- The first letter of every word in upper case. -/
  | word
  /-- The first letter of every sentence in upper case. -/
  | sentence
  /-- The first letter of every word in upper case, except for short connecting words. -/
  | title
deriving DecidableEq, Repr

namespace CaseMode

/-- The name of a mode. -/
def name : CaseMode → String
  | none => "none"
  | lower => "lower"
  | upper => "upper"
  | first => "first"
  | word => "word"
  | sentence => "sentence"
  | title => "title"

/-- Reads a mode by one of its names, in any case of letters, or says what is wrong. -/
def ofText (s : String) : Except String CaseMode :=
  match asciiLower (trimmed s) with
  | "none" | "off" => .ok none
  | "lower" => .ok lower
  | "upper" => .ok upper
  | "first" | "once" => .ok first
  | "word" => .ok word
  | "sentence" => .ok sentence
  | "title" => .ok title
  | other => .error s!"invalid case mode '{other}'"

end CaseMode

namespace Casing

/-- The text with its first letter in upper case, if it has a letter. -/
def capitalizeFirst? : List Char → Option (List Char)
  | [] => none
  | c :: rest =>
    if isAlphabetic c then some (upperOf c ++ rest) else (capitalizeFirst? rest).map (c :: ·)

/-- The text with every letter in upper case that stands after a blank or at the beginning, given
the character before it. -/
def capitalizeWords : Option Char → List Char → List Char
  | _, [] => []
  | before, c :: rest =>
    (if isAlphabetic c && before.all isBlank then upperOf c else [c]) ++
      capitalizeWords (some c) rest

/-- Whether a character ends a sentence. -/
def endsSentence (c : Char) : Bool := c == '.' || c == '!' || c == '?'

/-- Whether a character may stand before the first letter of a sentence. -/
def opensSentence (c : Char) : Bool :=
  isBlank c || isAlphabetic c || c == '"' || c == '\x27' || c == '('

/-- The text with the first letter of each sentence in upper case, given whether a sentence is
about to begin, and whether one is about to begin behind the text. -/
def capitalizeSentences : Bool → List Char → List Char × Bool
  | start, [] => ([], start)
  | start, c :: rest =>
    let (printed, start) :=
      if endsSentence c then ([c], true)
      else if start && isAlphabetic c then (upperOf c, false)
      else ([c], start && opensSentence c)
    let (others, start) := capitalizeSentences start rest
    (printed ++ others, start)

/-- The words that titles leave in small letters. -/
def minorWords : List String :=
  ["a", "an", "the", "and", "but", "or", "nor", "for", "of", "in", "on", "at", "to", "by", "up",
    "as", "via"]

/-- A word of a title. -/
def titleWord (isFirst : Bool) (c : Char) (rest : List Char) : List Char :=
  if isFirst || !minorWords.contains (.ofList (lower (c :: rest))) then upperOf c ++ rest
  else c :: rest

/-- The text as a title, given the character before it. -/
def capitalizeTitle (before : Option Char) : List Char → List Char
  | [] => []
  | c :: rest =>
    if isAlphabetic c && !before.any isAlphabetic then
      let word := rest.takeWhile isAlphabetic
      titleWord before.isNone c word ++
        capitalizeTitle (some (word.getLast?.getD c)) (rest.dropWhile isAlphabetic)
    else c :: capitalizeTitle (some c) rest
termination_by cs => cs.length
decreasing_by
  · exact Nat.lt_succ_of_le (List.dropWhile_sublist _).length_le
  · simp

/-! ## Guessing a mode -/

/-- The runs of letters and numbers. -/
def alphanumericRuns (cs : List Char) : List (List Char) :=
  words (cs.map fun c => if isAlphanumeric c then c else ' ')

/-- Whether a word has no lower case. -/
def isShouted (word : List Char) : Bool := word.all fun c => !isLowercase c

/-- Whether a word begins in upper case. -/
def isCapitalized (word : List Char) : Bool := word.head?.any isUppercase

/-- The mode that a sample suggests, if any. -/
def infer? (sample : String) : Option CaseMode :=
  match alphanumericRuns sample.toList with
  | [] => none
  | w :: ws =>
    if (w :: ws).all isShouted && (w :: ws).any (·.any isAlphabetic) then some .upper
    else if ws ≠ [] && (w :: ws).all isCapitalized then some .word
    else if isCapitalized w then some .first
    else none

end Casing

/-- The mode in force and what it needs to know of the text so far. -/
structure CaseCursor where
  mode : CaseMode
  /-- The character written last, before its case was changed. -/
  last? : Option Char
  /-- Whether the next letter begins a sentence. -/
  sentenceStart : Bool

namespace CaseCursor

/-- The cursor before any text. -/
def start : CaseCursor := ⟨.none, none, false⟩

/-- Sets the mode. Sentences begin at once if what was written last is blank or ends one. -/
def setMode (k : CaseCursor) (mode : CaseMode) : CaseCursor :=
  { k with
    mode := mode
    sentenceStart :=
      if mode = .sentence then k.last?.all fun c => Casing.endsSentence c || isBlank c
      else k.sentenceStart }

/-- The text in the mode of the cursor, and the cursor behind it, but for its last character. -/
def convert (k : CaseCursor) (cs : List Char) : List Char × CaseCursor :=
  match k.mode with
  | .none => (cs, k)
  | .lower => (lower cs, k)
  | .upper => (upper cs, k)
  | .first =>
    match Casing.capitalizeFirst? cs with
    | some printed => (printed, { k with mode := .none })
    | none => (cs, k)
  | .word => (Casing.capitalizeWords k.last? cs, k)
  | .sentence =>
    let (printed, start) := Casing.capitalizeSentences k.sentenceStart cs
    (printed, { k with sentenceStart := start })
  | .title => (Casing.capitalizeTitle k.last? cs, k)

/-- The text in the mode of the cursor, and the cursor behind it. -/
def apply (k : CaseCursor) (text : String) : String × CaseCursor :=
  let cs := text.toList
  let (printed, k) := k.convert cs
  (.ofList printed, { k with last? := cs.getLast?.or k.last? })

end CaseCursor

end Wordsmith
