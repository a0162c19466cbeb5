import Wordsmith.Regex.Property.Category
import Wordsmith.Text.Trait.Case
import Wordsmith.Text.Trait.Emoji
import Wordsmith.Text.Trait.Identifier
import Wordsmith.Text.Trait.Ideograph
import Wordsmith.Text.Trait.Mark
import Wordsmith.Text.Trait.Punctuation

/-!
# Properties that a character has or has not

Most of them are a general category with a few characters more or less, which the standard keeps in
properties of their own, the *other* ones here.
-/

namespace Wordsmith.Regex.Property

open Text Text.Trait

/-! ## Letters and case -/

/-- Alphabetic, yet neither letters nor letter numbers. -/
def otherAlphabetic : CharSet := known [Category.alsoAlphabetic]

/-- Letters of every kind, letter numbers, and the marks that count as letters. -/
def alphabetic : CharSet := .unions [l, nl, otherAlphabetic]

/-- Lower case, yet not small letters. -/
def otherLowercase : CharSet := known [Category.alsoLowercase]

/-- Small letters, and the signs that count as such. -/
def lowercase : CharSet := ll.union otherLowercase

/-- Upper case, yet not capital letters. -/
def otherUppercase : CharSet := known [Category.alsoUppercase]

/-- Capital letters, and the signs that count as such. -/
def uppercase : CharSet := lu.union otherUppercase

/-- Letters that have a case. -/
def cased : CharSet := .unions [lowercase, uppercase, lt]

/-- Characters passed over when the case of a neighbour is sought. -/
def caseIgnorable : CharSet := .unions [mn, me, cf, lm, sk, known [Category.alsoCaseIgnorable]]

/-- Changed by the mapping to lower case. -/
def lowered : CharSet := .ofTable changesWhenLowercased

/-- Changed by the mapping to upper case. -/
def uppered : CharSet := .ofTable changesWhenUppercased

/-- Changed by the mapping to title case. -/
def titled : CharSet := (uppered.diff (.ofTable onlyUppercased)).union (.ofTable onlyTitlecased)

/-- Changed by folding. -/
def foldedAway : CharSet := (lowered.diff (.ofTable onlyLowercased)).union (.ofTable onlyFolded)

/-! ## Identifiers and formulas -/

/-- Code points kept for the syntax of patterns and the space in it. -/
def patternReserved : CharSet := .unions [.ofTable patternSyntax, .ofTable patternSpaces]

/-- The starts of identifiers. -/
def identifierStart : CharSet := (CharSet.unions [l, nl, .ofTable alsoIdentifierStart]).diff
  patternReserved

/-- The parts of identifiers. -/
def identifierPart : CharSet :=
  (CharSet.unions [identifierStart, mn, mc, nd, pc, .ofTable alsoIdentifierPart]).diff
    patternReserved

/-- Used in formulas. -/
def math : CharSet := sm.union (.ofTable alsoMath)

/-! ## Marks, spaces and what is shown -/

/-- Drawn onto the character before them, yet neither nonspacing nor enclosing marks. -/
def otherExtending : CharSet := known [Category.alsoExtending]

/-- What is drawn onto the character before it. -/
def extending : CharSet := .unions [mn, me, otherExtending]

/-- What has a place of its own on a line. -/
def graphemeBase : CharSet :=
  assigned.diff (.unions [cc, cf, co, zl, zp, extending])

/-- White space. -/
def whiteSpace : CharSet := .unions [z, .interval 9 13, .ofCodes [0x85]]

/-- Not shown where they are not known. -/
def defaultIgnorable : CharSet := .ofTable ignorable

/-- Not shown where they are not known, yet neither formats nor selectors. -/
def otherIgnorable : CharSet := defaultIgnorable.diff (.union cf (.ofTable variationSelectors))

/-! ## By name -/

/-- The properties with their names as they are compared. -/
def binaries : List (List String × CharSet) :=
  [(["asciihexdigit", "ahex"], .ofTable [⟨0x30, 0x39, 1⟩, ⟨0x41, 0x46, 1⟩, ⟨0x61, 0x66, 1⟩]),
    (["alphabetic", "alpha"], alphabetic),
    (["bidicontrol", "bidic"], .ofTable directionControls),
    (["bidimirrored", "bidim"], .ofTable mirrored),
    (["caseignorable", "ci"], caseIgnorable),
    (["cased"], cased),
    (["changeswhencasefolded", "cwcf"], foldedAway),
    (["changeswhencasemapped", "cwcm"], .unions [lowered, uppered, titled]),
    (["changeswhenlowercased", "cwl"], lowered),
    (["changeswhentitlecased", "cwt"], titled),
    (["changeswhenuppercased", "cwu"], uppered),
    (["dash"], .ofTable dashSigns),
    (["defaultignorablecodepoint", "di"], defaultIgnorable),
    (["deprecated", "dep"], .ofTable deprecated),
    (["diacritic", "dia"], .ofTable diacritics),
    (["emoji"], .ofTable emoji),
    (["emojicomponent", "ecomp"], .ofTable emojiComponents),
    (["emojimodifier", "emod"], .ofTable emojiModifiers),
    (["emojimodifierbase", "ebase"], .ofTable emojiModifierBases),
    (["emojipresentation", "epres"], .ofTable emojiByDefault),
    (["extendedpictographic", "extpict"], .ofTable pictographs),
    (["extender", "ext"], .ofTable extenders),
    (["graphemebase", "grbase"], graphemeBase),
    (["graphemeextend", "grext"], extending),
    (["graphemelink", "grlink"], .ofTable linkers),
    (["hexdigit", "hex"], .ofTable hexDigits),
    (["hyphen"], .ofTable hyphens),
    (["idsbinaryoperator", "idsb"], .ofTable binaryDescriptions),
    (["idstrinaryoperator", "idst"], .ofTable trinaryDescriptions),
    (["idsunaryoperator", "idsu"], .ofTable unaryDescriptions),
    (["idcompatmathcontinue"], .ofTable formulaPart),
    (["idcompatmathstart"], .ofTable formulaStart),
    (["idcontinue", "idc"], identifierPart),
    (["idstart", "ids"], identifierStart),
    (["ideographic", "ideo"], .union (.ofTable unifiedIdeographs) (.ofTable otherIdeographs)),
    (["joincontrol", "joinc"], .ofTable joinControls),
    (["logicalorderexception", "loe"], .ofTable visualOrderVowels),
    (["lowercase", "lower"], lowercase),
    (["math"], math),
    (["modifiercombiningmark", "mcm"], .ofTable movingMarks),
    (["noncharactercodepoint", "nchar"], .ofTable noncharacters),
    (["otheralphabetic", "oalpha"], otherAlphabetic),
    (["otherdefaultignorablecodepoint", "odi"], otherIgnorable),
    (["othergraphemeextend", "ogrext"], otherExtending),
    (["otheridcontinue", "oidc"], .ofTable alsoIdentifierPart),
    (["otheridstart", "oids"], .ofTable alsoIdentifierStart),
    (["otherlowercase", "olower"], otherLowercase),
    (["othermath", "omath"], .ofTable alsoMath),
    (["otheruppercase", "oupper"], otherUppercase),
    (["patternsyntax", "patsyn"], .ofTable patternSyntax),
    (["patternwhitespace", "patws"], .ofTable patternSpaces),
    (["prependedconcatenationmark", "pcm"], .ofTable prependedMarks),
    (["quotationmark", "qmark"], .ofTable quotationMarks),
    (["radical"], .ofTable radicals),
    (["regionalindicator", "ri"], .ofTable regionalIndicators),
    (["sentenceterminal", "sterm"], .ofTable sentenceTerminals),
    (["softdotted", "sd"], .ofTable softDotted),
    (["terminalpunctuation", "term"],
      .union (.ofTable sentenceTerminals) (.ofTable otherTerminals)),
    (["unifiedideograph", "uideo"], .ofTable unifiedIdeographs),
    (["uppercase", "upper"], uppercase),
    (["variationselector", "vs"], .ofTable variationSelectors),
    (["whitespace", "wspace", "space"], whiteSpace),
    (["xidcontinue", "xidc"], identifierPart.diff (.ofTable unstablePart)),
    (["xidstart", "xids"], identifierStart.diff (.ofTable unstableStart))]

end Wordsmith.Regex.Property
