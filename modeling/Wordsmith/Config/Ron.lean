import Wordsmith.Config.Basic
import Wordsmith.Ron.Reader

/-!
# Configuration files

A configuration file is a RON record with a field for each setting. A setting that the file leaves
out is the standard one, a field that is no setting does no harm, and no setting may be given twice.
-/

namespace Wordsmith

/-! ## Values of settings -/

namespace Ron

/-- A whole number of at most 64 bits. -/
def number? : Ron → Option Nat
  | .unsigned n => if n < Text.wordSize then some n else none
  | _ => none

/-- A truth value. -/
def bool? : Ron → Option Bool
  | .bool b => some b
  | _ => none

/-- A text. -/
def text? : Ron → Option String
  | .text s => some s
  | _ => none

/-- A list of texts. -/
def texts? : Ron → Option (List String)
  | .list items => items.mapM text?
  | _ => none

/-- A number format. -/
def numberFormat? : Ron → Option NumberFormat
  | .bare name => [.normal, .group, .roman, .romanLower, .verbal].find? fun f => f.name = name
  | _ => none

/-- A number that may be absent; `implicit` tells whether one that is there needs no mark. The mark
may then also stand directly before the digits, where it reads as a part of one name with them. -/
def optionalNumber? (implicit : Bool) : Ron → Option (Option Nat)
  | .absent => some none
  | .present v => v.number?.map some
  | .bare name =>
    match implicit, name.toList with
    | true, 'S' :: 'o' :: 'm' :: 'e' :: digits =>
      match integer digits with
      | some (n, []) => (unsigned n).number?.map some
      | _ => none
    | _, _ => none
  | v => if implicit then v.number?.map some else none

end Ron

namespace Config

/-! ## Reading -/

/-- The names of the settings. -/
def settingNames : List String :=
  ["seed", "max_stack_depth", "char_limit", "timeout_ms", "missing_sentinel", "strict_queries",
    "number_format", "flags"]

/-- The configuration with the setting of a field. -/
def set? (implicit : Bool) (c : Config) (name : String) (v : Ron) : Option Config :=
  match name with
  | "seed" => v.number?.map fun n => { c with seed := .ofNat n }
  | "max_stack_depth" => v.number?.map fun n => { c with maxDepth := n }
  | "char_limit" => (v.optionalNumber? implicit).map fun n => { c with charLimit := n }
  | "timeout_ms" => (v.optionalNumber? implicit).map fun n => { c with timeout := n }
  | "missing_sentinel" => v.text?.map fun s => { c with sentinel := s }
  | "strict_queries" => v.bool?.map fun b => { c with strictQueries := b }
  | "number_format" => v.numberFormat?.map fun f => { c with numberFormat := f }
  | "flags" => v.texts?.map fun flags => { c with flags := flags }
  | _ => some c

/-- The configuration that a record describes. -/
def ofFields? (implicit : Bool) (fields : List (String × Ron)) : Option Config :=
  let given := (fields.map (·.1)).filter settingNames.contains
  if given.eraseDups.length < given.length then none
  else fields.foldlM (fun c (name, v) => c.set? implicit name v) standard

/-- Whether a record with a name, or without one, can be a configuration. -/
def fitsName (name : Option String) : Bool := name.all (· == "EngineConfig")

/-- Reads a configuration file. -/
def ofRon? (text : String) : Option Config :=
  (Ron.ofText? text).bind fun d =>
    match d.value with
    | .record name fields => if fitsName name then ofFields? d.implicitSome fields else none
    | .tuple name [] => if fitsName name then some standard else none
    | _ => none

/-! ## Writing -/

/-- A number that may be absent. -/
def optionText : Option Nat → String
  | some n => s!"Some({n})"
  | none => "None"

/-- A name, as a raw one if a plain one cannot be so. -/
def nameText (name : String) : String :=
  if name.toList.all Ron.isNamePart then name else "r#" ++ name

/-- A list of texts, each on a line. -/
def textsText (texts : List String) : String :=
  let line (s : String) : String := "        " ++ Ron.quote s ++ ",\n"
  if texts.isEmpty then "[]" else "[\n" ++ String.join (texts.map line) ++ "    ]"

/-- The settings with their texts, in the order of a file. -/
def fieldTexts (c : Config) : List (String × String) :=
  [("seed", toString c.seed.toNat),
    ("max_stack_depth", toString c.maxDepth),
    ("char_limit", optionText c.charLimit),
    ("timeout_ms", optionText c.timeout),
    ("missing_sentinel", Ron.quote c.sentinel),
    ("strict_queries", if c.strictQueries then "true" else "false"),
    ("number_format", nameText c.numberFormat.name),
    ("flags", textsText c.flags)]

/-- Writes a configuration file, each setting on a line. -/
def toRon (c : Config) : String :=
  let line (field : String × String) : String := "    " ++ field.1 ++ ": " ++ field.2 ++ ",\n"
  "(\n" ++ String.join (c.fieldTexts.map line) ++ ")"

end Config

end Wordsmith
