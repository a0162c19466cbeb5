import Wordsmith.Text.Age
import Wordsmith.Text.CharSet
import Wordsmith.Text.Property

/-!
# General categories

Every code point has one of thirty general categories, which group letters, marks, numbers,
punctuation, symbols, separators and others. Expressions know version 16.0 of the standard, so the
sets here leave out what was assigned later.
-/

namespace Wordsmith.Regex.Property

open Text

/-- The code points that version 16.0 has assigned, those included that never stand for a
character. -/
def dated : CharSet := .unions (Age.ages.map fun (_, table) => .ofTable table)

/-- The characters of tables that version 16.0 knows. -/
def known (tables : List (List Stride)) : CharSet :=
  (CharSet.unions (tables.map .ofTable)).inter dated

/-! ## Letters -/

/-- The voiced pharyngeal fricative, a letter whose case later versions take away. -/
def pharyngeal : CharSet := .ofCodes [0x295]

/-- Capital letters. -/
def lu : CharSet := known [Category.uppercaseLetters]

/-- Small letters. -/
def ll : CharSet := (known [Category.lowercaseLetters]).union pharyngeal

/-- Digraphs whose first part alone is a capital. -/
def lt : CharSet := known [Category.titlecaseLetters]

/-- Letters that modify their neighbour. -/
def lm : CharSet := known [Category.modifierLetters]

/-- Letters of scripts without case. -/
def lo : CharSet := (known [Category.otherLetters]).diff pharyngeal

/-- Letters that have a case. -/
def lc : CharSet := .unions [lu, ll, lt]

/-- Letters. -/
def l : CharSet := .unions [lc, lm, lo]

/-! ## Marks and numbers -/

/-- Marks that take no room of their own. -/
def mn : CharSet := known [Category.nonspacingMarks]

/-- Marks that take room. -/
def mc : CharSet := known [Category.spacingMarks]

/-- Marks drawn around their base. -/
def me : CharSet := known [Category.enclosingMarks]

/-- Marks. -/
def m : CharSet := .unions [mn, mc, me]

/-- Digits of positional decimal systems. -/
def nd : CharSet := known [Category.decimalDigits]

/-- Numbers written as letters. -/
def nl : CharSet := known [Category.letterNumbers]

/-- Fractions, superscripts and the like. -/
def no : CharSet := known [Category.otherNumbers]

/-- Numbers. -/
def n : CharSet := .unions [nd, nl, no]

/-! ## Punctuation and symbols -/

/-- Connectors. -/
def pc : CharSet := known [Category.connectors]

/-- Dashes. -/
def pd : CharSet := known [Category.dashes]

/-- Opening brackets. -/
def ps : CharSet := known [Category.openings]

/-- Closing brackets. -/
def pe : CharSet := known [Category.closings]

/-- Opening quotation marks. -/
def pi : CharSet := known [Category.initialQuotes]

/-- Closing quotation marks. -/
def pf : CharSet := known [Category.finalQuotes]

/-- All other punctuation. -/
def po : CharSet := known [Category.otherPunctuation]

/-- Punctuation. -/
def p : CharSet := .unions [pc, pd, ps, pe, pi, pf, po]

/-- Signs of mathematics. -/
def sm : CharSet := known [Category.mathSymbols]

/-- Signs of currencies. -/
def sc : CharSet := known [Category.currencySymbols]

/-- Signs that modify their neighbour. -/
def sk : CharSet := known [Category.modifierSymbols]

/-- All other symbols. -/
def so : CharSet := known [Category.otherSymbols]

/-- Symbols. -/
def s : CharSet := .unions [sm, sc, sk, so]

/-! ## Separators and others -/

/-- Spaces. -/
def zs : CharSet := known [Category.spaces]

/-- The line separator. -/
def zl : CharSet := known [Category.lineSeparators]

/-- The paragraph separator. -/
def zp : CharSet := known [Category.paragraphSeparators]

/-- Separators. -/
def z : CharSet := .unions [zs, zl, zp]

/-- Controls. -/
def cc : CharSet := known [Category.controls]

/-- Invisible format characters. -/
def cf : CharSet := known [Category.formats]

/-- Characters left to private use. -/
def co : CharSet := known [Category.privateUse]

/-- All characters that stand for something. -/
def assigned : CharSet := .unions [l, m, n, p, s, z, cc, cf, co]

/-- All code points that stand for nothing. -/
def cn : CharSet := assigned.compl

/-- Everything that is neither a sign nor a separator. -/
def c : CharSet := .unions [cc, cf, co, cn]

/-! ## By name -/

/-- The general categories and what is named like one, each with its names as they are
compared. -/
def categories : List (List String × CharSet) :=
  [(["any"], .full), (["assigned"], assigned), (["ascii"], .interval 0 127),
    (["l", "letter"], l), (["lc", "casedletter"], lc), (["lu", "uppercaseletter"], lu),
    (["ll", "lowercaseletter"], ll), (["lt", "titlecaseletter"], lt),
    (["lm", "modifierletter"], lm), (["lo", "otherletter"], lo),
    (["m", "mark", "combiningmark"], m), (["mn", "nonspacingmark"], mn),
    (["mc", "spacingmark"], mc), (["me", "enclosingmark"], me),
    (["n", "number"], n), (["nd", "decimalnumber", "digit"], nd), (["nl", "letternumber"], nl),
    (["no", "othernumber"], no),
    (["p", "punctuation", "punct"], p), (["pc", "connectorpunctuation"], pc),
    (["pd", "dashpunctuation"], pd), (["ps", "openpunctuation"], ps),
    (["pe", "closepunctuation"], pe), (["pi", "initialpunctuation"], pi),
    (["pf", "finalpunctuation"], pf), (["po", "otherpunctuation"], po),
    (["s", "symbol"], s), (["sm", "mathsymbol"], sm), (["sc", "currencysymbol"], sc),
    (["sk", "modifiersymbol"], sk), (["so", "othersymbol"], so),
    (["z", "separator"], z), (["zs", "spaceseparator"], zs), (["zl", "lineseparator"], zl),
    (["zp", "paragraphseparator"], zp),
    (["c", "other"], c), (["cc", "control", "cntrl"], cc), (["cf", "format"], cf),
    (["co", "privateuse"], co), (["cn", "unassigned"], cn)]

/-- The names of the general category of surrogates, which no character has. -/
def surrogateNames : List String := ["cs", "surrogate"]

end Wordsmith.Regex.Property
