import Wordsmith.Regex.Property.Break
import Wordsmith.Regex.Property.Script
import Wordsmith.Regex.Tree

/-!
# Properties by name

A regular expression may name a general category, a script, an age, a part that a character plays in
clusters, words or sentences, or a property that it has or has not. Names are compared without
regard to case, blanks, hyphens, low lines and a leading *is*.
-/

namespace Wordsmith.Regex.Property

open Text

/-- A name as it is compared. -/
def normalized (name : String) : String :=
  let cs := name.toList
  let (isPrefixed, cs) := match cs with
    | a :: b :: rest =>
      if (a == 'i' || a == 'I') && (b == 's' || b == 'S') then (true, rest) else (false, cs)
    | _ => (false, cs)
  let kept := cs.filter fun c => c.toNat < 128 && c != ' ' && c != '_' && c != '-'
  let kept := kept.map Char.toLower
  if isPrefixed && kept == ['c'] then "isc" else .ofList kept

/-- The set of a name in a list. -/
def named? (sets : List (List String × CharSet)) (name : String) : Option CharSet :=
  (sets.find? (·.1.contains name)).map (·.2)

/-- The characters assigned up to a version. -/
def age? (name : String) : Option CharSet :=
  let isNamed (v : Age.Version) : Bool :=
    name == s!"{v.major}.{v.minor}" || name == s!"v{v.major}{v.minor}"
  if Age.ages.any fun (v, _) => isNamed v then
    let earlier := Age.ages.takeWhile fun (v, _) => !isNamed v
    some (.unions ((Age.ages.take (earlier.length + 1)).map fun (_, table) => .ofTable table))
  else none

/-- The properties with several values whose values are known, with their names as they are
compared. -/
def valued : List (List String × (String → Option CharSet)) :=
  [(["generalcategory", "gc"], named? categories),
    (["script", "sc"], script?),
    (["scriptextensions", "scx"], extendedScript?),
    (["age"], age?),
    (["graphemeclusterbreak", "gcb"], named? clusterParts),
    (["wordbreak", "wb"], named? wordParts),
    (["sentencebreak", "sb"], named? sentenceParts)]

/-- The names of all other properties. They are known, but no characters are found by them. -/
def unsupported : List String :=
  ["bc", "bidiclass", "bidimirroringglyph", "bidipairedbracket", "bidipairedbrackettype", "blk",
    "block", "bmg", "bpb", "bpt", "canonicalcombiningclass", "casefolding", "ccc", "ce", "cf",
    "changeswhennfkccasefolded", "cjkaccountingnumeric", "cjkcompatibilityvariant", "cjkiicore",
    "cjkirggsource", "cjkirghsource", "cjkirgjsource", "cjkirgkpsource", "cjkirgksource",
    "cjkirgmsource", "cjkirgssource", "cjkirgtsource", "cjkirguksource", "cjkirgusource",
    "cjkirgvsource", "cjkothernumeric", "cjkprimarynumeric", "cjkrsunicode", "compex",
    "compositionexclusion", "cwkcf", "decompositionmapping", "decompositiontype", "dm", "dt", "ea",
    "eastasianwidth", "equideo", "equivalentunifiedideograph", "expandsonnfc", "expandsonnfd",
    "expandsonnfkc", "expandsonnfkd", "fcnfkc", "fcnfkcclosure", "fullcompositionexclusion",
    "hangulsyllabletype", "hst", "incb", "indicconjunctbreak", "indicpositionalcategory",
    "indicsyllabiccategory", "inpc", "insc", "isc", "isocomment", "jamoshortname", "jg",
    "joininggroup", "joiningtype", "jsn", "jt", "kaccountingnumeric", "kcompatibilityvariant",
    "kehcat", "kehdesc", "kehhg", "kehifao", "kehjsesh", "kehnomirror", "kehnorotate", "kiicore",
    "kirggsource", "kirghsource", "kirgjsource", "kirgkpsource", "kirgksource", "kirgmsource",
    "kirgssource", "kirgtsource", "kirguksource", "kirgusource", "kirgvsource", "kothernumeric",
    "kprimarynumeric", "krsunicode", "lb", "lc", "linebreak", "lowercasemapping", "na", "na1",
    "name", "namealias", "nfcqc", "nfcquickcheck", "nfdqc", "nfdquickcheck", "nfkccasefold",
    "nfkccf", "nfkcqc", "nfkcquickcheck", "nfkcscf", "nfkcsimplecasefold", "nfkdqc",
    "nfkdquickcheck", "nt", "numerictype", "numericvalue", "nv", "scf", "sfc", "simplecasefolding",
    "simplelowercasemapping", "simpletitlecasemapping", "simpleuppercasemapping", "slc", "stc",
    "suc", "tc", "titlecasemapping", "uc", "unicode1name", "unicoderadicalstroke",
    "uppercasemapping", "urs", "verticalorientation", "vo", "xonfc", "xonfd", "xonfkc", "xonfkd"]

/-- Whether a property goes by a name. -/
def isProperty (name : String) : Bool :=
  (named? binaries name).isSome || valued.any (·.1.contains name) || unsupported.contains name

/-- Short names of general categories that are names of properties too. By themselves they stand
for the category. -/
def ambiguous : List String := ["cf", "sc", "lc"]

/-- The property of a name. -/
def find (name : PropertyName) : Except Fault.Kind CharSet :=
  match name with
  | .plain name =>
    let name := normalized name
    if !ambiguous.contains name && isProperty name then
      match named? binaries name with
      | some s => .ok s
      | none => .error .propertyNotFound
    else
      match (named? categories name).or (script? name) with
      | some s => .ok s
      | none =>
        if (surrogateNames ++ unknownScript).contains name then .error .propertyValueNotFound
        else .error .propertyNotFound
  | .valued name value =>
    let name := normalized name
    match valued.find? (·.1.contains name) with
    | some (_, lookup) =>
      match lookup (normalized value) with
      | some s => .ok s
      | none => .error .propertyValueNotFound
    | none =>
      if isProperty name then .error .propertyValueNotFound else .error .propertyNotFound
where
  /-- The names of scripts that no character has. -/
  unknownScript : List String := ["unknown", "zzzz", "katakanaorhiragana", "hrkt"]

end Wordsmith.Regex.Property
