import Wordsmith.Text.Property
import Wordsmith.Total

/-!
# Cutting texts

Texts are cut at blanks and at single characters. All cuts work on lists of characters, so that
what was cut off and what is left can be told apart without counting bytes.
-/

namespace Wordsmith.Text

/-- The text without its leading blanks. -/
def trimStart (cs : List Char) : List Char := cs.dropWhile isBlank

/-- The text without its trailing blanks. -/
def trimEnd (cs : List Char) : List Char := (cs.reverse.dropWhile isBlank).reverse

/-- The text without blanks at its edges. -/
def trim (cs : List Char) : List Char := trimEnd (trimStart cs)

/-- The text without blanks at its edges. -/
def trimmed (s : String) : String := .ofList (trim s.toList)

/-- The pieces between the places where `separator` stands: one more than there are places. -/
def pieces (separator : Char) : List Char → List (List Char)
  | [] => [[]]
  | c :: rest =>
    if c = separator then [] :: pieces separator rest
    else match pieces separator rest with
      | [] => [[c]]
      | piece :: others => (c :: piece) :: others

/-- The runs of characters that are not blank. -/
def words (cs : List Char) : List (List Char) :=
  go cs []
where
  /-- The words of a text, given the reversed beginning of the first. -/
  go : List Char → List Char → List (List Char)
    | [], [] => []
    | [], w :: ws => [(w :: ws).reverse]
    | c :: rest, word =>
      if isBlank c then
        match word with
        | [] => go rest []
        | w :: ws => (w :: ws).reverse :: go rest []
      else go rest (c :: word)

/-- What stands before and after the first `mark`. -/
def splitFirst (mark : Char) : List Char → Option (List Char × List Char)
  | [] => none
  | c :: rest =>
    if c = mark then some ([], rest)
    else (splitFirst mark rest).map fun (before, after) => (c :: before, after)

/-- What stands before and after the last `mark`. -/
def splitLast (mark : Char) (cs : List Char) : Option (List Char × List Char) :=
  (splitFirst mark cs.reverse).map fun (after, before) => (before.reverse, after.reverse)

/-- The bytes that the characters take in UTF-8. -/
def byteLength (cs : List Char) : Nat := total (cs.map (·.utf8Size))

end Wordsmith.Text
