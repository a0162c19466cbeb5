import Wordsmith.Text.LetterCase
import Wordsmith.Text.Slice

/-!
# Indefinite articles

Which article a word takes is decided by its spelling: a vowel in front asks for *an*, with
exceptions both ways for words that are spoken otherwise than they are written.
-/

namespace Wordsmith.Article

open Text

/-- Beginnings of words that take *an*, whatever their first letter. -/
def vowelBeginnings : List String := ["honest", "honor", "hour", "heir", "8", "11", "18"]

/-- Beginnings of words that take *a* in spite of their vowel. -/
def consonantBeginnings : List String :=
  ["uni", "use", "uri", "urol", "euro", "u.", "one", "uvu"]

/-- Words that take *a* in spite of their vowel, but not what begins with them. -/
def consonantWords : List String := ["u"]

/-- The vowels. -/
def vowels : List Char := ['a', 'e', 'i', 'o', 'u']

/-- Whether a text begins in one of several ways. -/
def beginsWith (cs : List Char) (beginnings : List String) : Bool :=
  beginnings.any fun b => b.toList.isPrefixOf cs

/-- Whether a word takes *an*. -/
def takesVowelForm (word : List Char) : Bool :=
  let cs := lower word
  beginsWith cs vowelBeginnings ||
    (cs.head?.any vowels.contains && !beginsWith cs consonantBeginnings &&
      !consonantWords.contains (.ofList cs))

/-- The article for the text that follows it, unless that has no word yet. -/
def before? (following : List Char) : Option String :=
  (words following).head?.map fun word => if takesVowelForm word then "an" else "a"

/-- The article in the case in which another form of it was printed: two capitals make it all
capitals, one its first letter. -/
def inCaseOf (printed : String) (article : String) : String :=
  match printed.toList with
  | [] => article
  | first :: rest =>
    if isUppercase first then
      if rest.head?.any isUppercase then uppered article
      else match article.toList with
        | [] => ""
        | c :: cs => .ofList (upperOf c ++ cs)
    else article

end Wordsmith.Article
