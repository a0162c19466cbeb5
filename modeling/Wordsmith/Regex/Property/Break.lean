import Wordsmith.Regex.Property.Binary
import Wordsmith.Text.Script.AtoK
import Wordsmith.Text.Trait.Break

/-!
# Parts of clusters, words and sentences

The rules for cutting text into clusters, words and sentences give each character a part in them.
Most parts are made up of general categories; the exceptions have tables of their own.
-/

namespace Wordsmith.Regex.Property

open Text Text.Trait

/-- The carriage return. -/
def carriageReturn : CharSet := .ofCodes [0xD]

/-- The line feed. -/
def lineFeed : CharSet := .ofCodes [0xA]

/-- The two joiners. -/
def joiners : CharSet := .ofTable joinControls

/-- The joiner that joins. -/
def zeroWidthJoiner : CharSet := .ofCodes [0x200D]

/-! ## Clusters -/

/-- What goes on with the cluster before it. -/
def clusterExtend : CharSet := extending.union (.ofTable emojiModifiers)

/-- What stands alone. -/
def clusterControl : CharSet :=
  (CharSet.unions [zl, zp, cc, cf, defaultIgnorable.diff assigned]).diff
    (.unions [carriageReturn, lineFeed, joiners, clusterExtend, .ofTable prependedMarks])

/-- Marks that take room behind their base. -/
def clusterSpacing : CharSet :=
  ((mc.diff extending).diff (.ofTable neverSpacing)).union (.ofTable alsoSpacing)

/-- Korean syllables, with a trailing consonant or without one. -/
def syllables : CharSet := .interval 0xAC00 0xD7A3

/-- Korean syllables without a trailing consonant. -/
def openSyllables : CharSet := .ofTable [⟨0xAC00, 0xD788, 28⟩]

/-- The parts of clusters with their names as they are compared. -/
def clusterParts : List (List String × CharSet) :=
  [(["control", "cn"], clusterControl),
    (["cr"], carriageReturn),
    (["extend", "ex"], clusterExtend.diff zeroWidthJoiner),
    (["l"], .ofTable leadingConsonants),
    (["lf"], lineFeed),
    (["lv"], openSyllables),
    (["lvt"], syllables.diff openSyllables),
    (["prepend", "pp"], .union (.ofTable prependedMarks) (.ofTable alsoPrepended)),
    (["regionalindicator", "ri"], .ofTable regionalIndicators),
    (["spacingmark", "sm"], clusterSpacing),
    (["t"], .ofTable trailingConsonants),
    (["v"], .ofTable vowels),
    (["zwj"], zeroWidthJoiner)]

/-! ## Words -/

/-- What goes on with the character before it. -/
def wordExtend : CharSet :=
  (CharSet.unions [extending, mc, .ofTable emojiModifiers]).diff zeroWidthJoiner

/-- Parts of numbers. -/
def wordNumeric : CharSet := nd.union (.ofTable alsoNumeric)

/-- Formats that do not matter to words. -/
def wordFormat : CharSet :=
  cf.diff (.unions [.ofCodes [0x200B], joiners, extending, .ofTable prependedMarks])

/-- Letters that make up words. -/
def wordLetter : CharSet :=
  (alphabetic.diff (.unions [.ofTable unifiedIdeographs, .ofTable otherIdeographs,
    .ofTable katakana, .ofTable hebrewLetters, wordExtend, hiragana, .ofTable withoutSpaces])).union
    (.ofTable alsoWordLetters)
where
  /-- Hiragana, which needs no spaces either. -/
  hiragana : CharSet :=
    .unions ((Script.scriptsAtoK.filter (·.1.contains "hiragana")).map fun e => .ofTable e.2)

/-- The parts of words with their names as they are compared. -/
def wordParts : List (List String × CharSet) :=
  [(["aletter", "le"], wordLetter),
    (["cr"], carriageReturn),
    (["doublequote", "dq"], .ofCodes [0x22]),
    (["extend"], wordExtend),
    (["extendnumlet", "ex"], .ofTable extendingConnectors),
    (["format", "fo"], wordFormat),
    (["hebrewletter", "hl"], .ofTable hebrewLetters),
    (["katakana", "ka"], .ofTable katakana),
    (["lf"], lineFeed),
    (["midletter", "ml"], .ofTable midLetters),
    (["midnum", "mn"], .ofTable midNumbers),
    (["midnumlet", "mb"], .ofTable midAny),
    (["newline", "nl"], .ofCodes [0xB, 0xC, 0x85, 0x2028, 0x2029]),
    (["numeric", "nu"], wordNumeric),
    (["regionalindicator", "ri"], .ofTable regionalIndicators),
    (["singlequote", "sq"], .ofCodes [0x27]),
    (["wsegspace"], .ofTable wordSpaces),
    (["zwj"], zeroWidthJoiner)]

/-! ## Sentences -/

/-- What goes on with the character before it. -/
def sentenceExtend : CharSet := .unions [extending, mc, zeroWidthJoiner]

/-- Parts of numbers, the Arabic thousands separator among them. -/
def sentenceNumeric : CharSet := wordNumeric.union (.ofCodes [0x66C])

/-- Formats that do not matter to sentences. -/
def sentenceFormat : CharSet := cf.diff (.unions [joiners, extending, sentenceNumeric])

/-- Ends of paragraphs. -/
def separators : CharSet := .ofCodes [0x85, 0x2028, 0x2029]

/-- Small letters. -/
def sentenceLower : CharSet := (lowercase.diff extending).diff (.ofTable georgianSmall)

/-- Capital letters. -/
def sentenceUpper : CharSet := (lt.union uppercase).diff (.ofTable georgianCapital)

/-- Letters that are neither small nor capital. -/
def sentenceLetter : CharSet :=
  (alphabetic.union (.ofCodes [0x5F3])).diff
    (.unions [sentenceLower, sentenceUpper, sentenceExtend])

/-- Brackets and quotation marks. -/
def sentenceClose : CharSet :=
  ((CharSet.unions [ps, pe, pi, pf, .ofTable quotationMarks]).diff (.ofTable neverClosing)).union
    (.ofTable alsoClosing)

/-- The parts of sentences with their names as they are compared. -/
def sentenceParts : List (List String × CharSet) :=
  [(["aterm", "at"], .ofTable fullStops),
    (["close", "cl"], sentenceClose),
    (["cr"], carriageReturn),
    (["extend", "ex"], sentenceExtend),
    (["format", "fo"], sentenceFormat),
    (["lf"], lineFeed),
    (["lower", "lo"], sentenceLower),
    (["numeric", "nu"], sentenceNumeric),
    (["oletter", "le"], sentenceLetter),
    (["scontinue", "sc"], .ofTable sentenceContinuers),
    (["sep", "se"], separators),
    (["sp"], whiteSpace.diff (.unions [separators, carriageReturn, lineFeed])),
    (["sterm", "st"], .diff (.ofTable sentenceTerminals) (.ofTable fullStops)),
    (["upper", "up"], sentenceUpper)]

end Wordsmith.Regex.Property
