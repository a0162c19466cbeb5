import Wordsmith.Tag.Basic

/-!
# Names of tags

Where a name stands for several tags, the one with the most arguments comes first.
-/

namespace Wordsmith

namespace Tag

/-- The tags that take a fixed number of arguments, by their names. -/
def fixed : List (List String × List ParameterKind × Tag) :=
  [(["rep", "r"], [.text], repetitions),
    (["sep", "s"], [.code], separator),
    (["before"], [.code], before),
    (["after"], [.code], after),
    (["chance"], [.text], chance),
    (["persist"], [.text], persistence),
    (["break"], [], leave),
    (["repnum", "rn"], [], repetitionNumber),
    (["repindex", "ri"], [], repetitionIndex),
    (["repcount", "rc"], [], repetitionCount),
    (["sync", "x"], [.text, .text], createBoundOrder),
    (["sync", "x"], [.text], bindOrder),
    (["xnew"], [.text, .text], createOrder),
    (["xreset"], [.text], resetOrder),
    (["xseed"], [.text, .text], reseedOrder),
    (["xnone"], [], unbindOrder),
    (["xpin"], [.text], pinOrder),
    (["xunpin"], [.text], unpinOrder),
    (["xstep"], [.text], stepOrder),
    (["branch", "b"], [.text, .code], branchFor),
    (["branch", "b"], [.text], branch),
    (["merge", "m"], [], merge),
    (["generation", "g"], [.text], setGeneration),
    (["generation", "g"], [], generation),
    (["first"], [.code], ifFirst),
    (["last"], [.code], ifLast),
    (["middle"], [.code], ifMiddle),
    (["notfirst"], [.code], unlessFirst),
    (["notlast"], [.code], unlessLast),
    (["notmiddle"], [.code], unlessMiddle),
    (["odd"], [.code], ifOdd),
    (["even"], [.code], ifEven),
    (["nth"], [.text, .text, .code], ifNthFrom),
    (["nth"], [.text, .code], ifNth),
    (["alt"], [.code, .code], ifNothing),
    (["any"], [.code, .code], ifAnything),
    (["arg"], [.text], argument),
    (["match"], [], wholeMatch),
    (["group"], [.text], matchGroup),
    (["caps", "case"], [.text], caseMode),
    (["capsinfer"], [.text], inferCaseMode),
    (["numfmt"], [.text], numberFormat),
    (["out"], [.text, .text], visitAs),
    (["out"], [.text], visit),
    (["close"], [.text], close),
    (["mark"], [.text], mark),
    (["dist"], [.text, .text], distance),
    (["copy"], [.text, .text], copy),
    (["get"], [.text], target),
    (["send"], [.text, .text], send),
    (["osend"], [.text, .text], overwrite),
    (["clrt"], [.text], clearTarget),
    (["a", "an"], [], article),
    (["len"], [.text], length),
    (["char"], [.text, .text], characters),
    (["char"], [.text], character),
    (["num", "n"], [.text, .text], number),
    (["dec"], [], fraction),
    (["src"], [], code),
    (["ifdef"], [.text, .code], ifDefined),
    (["ifndef"], [.text, .code], unlessDefined),
    (["else"], [.code], otherwise),
    (["cmp"], [.text, .text, .code], compare),
    (["is"], [.text, .code], ifCompared)]

/-- The tags whose last argument may be repeated, by their names. -/
def variadic : List (List String × List ParameterKind × Tag) :=
  [(["extern", "ext"], [.text], hook),
    (["define"], [.text], define),
    (["undef"], [.text], undefine)]

/-- All signatures with their names. -/
def table : List (List String × Signature) :=
  fixed.map (fun (names, parameters, tag) => (names, ⟨tag, parameters, false⟩)) ++
    variadic.map fun (names, parameters, tag) => (names, ⟨tag, parameters, true⟩)

/-- All names. -/
def names : List String := (table.flatMap (·.1)).eraseDups

end Tag

/-- A name of tags and the signatures that it stands for. -/
structure TagEntry where
  name : String
  signatures : List Signature
deriving DecidableEq, Repr

namespace TagEntry

/-- What a name stands for, in any case of letters. -/
def find? (name : String) : Option TagEntry :=
  let name := Text.asciiLower name
  match Tag.table.filter fun e => e.1.contains name with
  | [] => none
  | e :: rest => some ⟨name, (e :: rest).map (·.2)⟩

/-- The signature that takes as many arguments. -/
def signature? (e : TagEntry) (count : Nat) : Option Signature :=
  e.signatures.find? (·.accepts count)

end TagEntry

end Wordsmith
