import Wordsmith.Ron.Lexis

/-!
# Reading RON

Values nest only so deep: a list, a map or parentheses take one level for themselves and one for
each value in them, and a document has 128 levels.
-/

namespace Wordsmith.Ron

variable {α : Type}

/-- Reads items up to a closing character, with commas between them and perhaps behind the last;
at most as many as there are characters. -/
def items (item : List Char → Parsed α) (close : Char) :
    Nat → List Char → Option (List α × List Char)
  | 0, _ => none
  | room + 1, cs => do
    let cs ← skipBlank cs
    match skipChar close cs with
    | some rest => return ([], rest)
    | none =>
      let (a, cs) ← item cs
      let (comma, cs) ← skipComma cs
      if comma then
        let (as, cs) ← items item close room cs
        return (a :: as, cs)
      else return ([a], ← skipChar close cs)

/-- Reads a colon with the blanks around it. -/
def skipColon (cs : List Char) : Option (List Char) := do
  skipBlank (← skipChar ':' (← skipBlank cs))

/-- Reads a value and what it stands for in a map. -/
def mapEntry (value : List Char → Parsed Ron) (cs : List Char) :
    Option ((Ron × Ron) × List Char) := do
  let (key, cs) ← value cs
  let (v, cs) ← value (← skipColon cs)
  return ((key, v), cs)

/-- Reads a name and what it stands for in a record. -/
def field (value : List Char → Parsed Ron) (cs : List Char) :
    Option ((String × Ron) × List Char) := do
  let (key, cs) ← name cs
  let (v, cs) ← value (← skipColon cs)
  return ((key, v), cs)

/-- Whether a name and a colon come next. -/
def beginsField (cs : List Char) : Bool :=
  ((name cs).bind fun (_, cs) => (skipBlank cs).bind (skipChar ':')).isSome

/-- Reads what stands in parentheses, after the opening one. -/
def parentheses (value : List Char → Parsed Ron) (outer : Option String) (cs : List Char) :
    Option (Ron × List Char) := do
  let cs ← skipBlank cs
  if beginsField cs then
    (items (field value) ')' (cs.length + 1) cs).map fun (fields, cs) => (.record outer fields, cs)
  else
    (items value ')' (cs.length + 1) cs).map fun (values, cs) => (.tuple outer values, cs)

/-- Reads what stands behind a name: parentheses or nothing. -/
def named (value : List Char → Parsed Ron) (outer : String) (cs : List Char) :
    Option (Ron × List Char) := do
  match ← skipBlank cs with
  | '(' :: rest => parentheses value outer rest
  | rest => return (.bare outer, rest)

/-- Reads a value that begins with a sign of its own. -/
def delimited (value : List Char → Parsed Ron) : List Char → Parsed Ron
  | '(' :: rest => parentheses value none rest
  | '[' :: rest =>
    (items value ']' (rest.length + 1) rest).map fun (values, cs) => (.list values, cs)
  | '\x7b' :: rest =>
    (items (mapEntry value) '\x7d' (rest.length + 1) rest).map fun (entries, cs) =>
      (.map entries, cs)
  | '"' :: rest => (quotedChars rest).map fun (s, cs) => (.text (.ofList s), cs)
  | 'r' :: rest => (rawText rest).map fun (s, cs) => (.text s, cs)
  | '\x27' :: rest => (quotedChar rest).map fun (c, cs) => (.char c, cs)
  | '.' :: rest => (skipFloat ('.' :: rest)).map (.number, ·)
  | c :: rest =>
    if Text.isDigit c || c == '+' || c == '-' then anyNumber (c :: rest) else none
  | [] => none

/-- Reads a word with a meaning of its own. -/
def word (cs : List Char) : Parsed Ron :=
  [("true", Ron.bool true), ("false", .bool false), ("None", .absent), ("inf", .number),
    ("-inf", .number), ("NaN", .number)].findSome? fun (word, v) => (skipWord word cs).map (v, ·)

/-- Reads what stands behind the word for a value that is there. It stands in parentheses; where
such a value needs no mark, the parentheses may be left out. -/
def presentValue (implicit : Bool) (value : List Char → Parsed Ron) (cs : List Char) :
    Option (Ron × List Char) := do
  match ← skipBlank cs with
  | '(' :: rest =>
    let (v, cs) ← value (← skipBlank rest)
    let (_, cs) ← skipComma cs
    return (.present v, ← skipChar ')' cs)
  | rest =>
    if !implicit then none
    let (v, cs) ← value rest
    return (.present v, cs)

/-- Reads a value of at most as many levels; `implicit` tells whether a value that is there needs no
mark. -/
def value (implicit : Bool) (levels : Nat) (cs : List Char) : Option (Ron × List Char) :=
  match word cs with
  | some found => some found
  | none =>
    let inner : List Char → Parsed Ron := match levels with
      | levels + 2 => fun cs => value implicit levels cs
      | _ => fun _ => none
    match skipWord "Some" cs with
    | some rest =>
      match levels with
      | levels + 1 => presentValue implicit (fun cs => value implicit levels cs) rest
      | 0 => none
    | none =>
      match name cs with
      | some (outer, rest) => if levels = 0 then none else named inner outer rest
      | none => delimited inner cs
termination_by levels

/-- The levels of a document. -/
def documentLevels : Nat := 128

/-- What is left behind texts that come next, with blanks behind each. -/
def skipAll : List String → List Char → Option (List Char)
  | [], cs => some cs
  | s :: rest, cs =>
    if s.toList.isPrefixOf cs then (skipBlank (cs.drop s.length)).bind (skipAll rest) else none

/-- The names of what a document can enable. -/
def extensions : List String :=
  ["unwrap_newtypes", "implicit_some", "unwrap_variant_newtypes"]

/-- Reads the names of what a document enables, with commas between them. -/
def extensionNames : Nat → List Char → Option (List String × List Char)
  | 0, _ => none
  | room + 1, cs => do
    let (extension, cs) ← name cs
    if !extensions.contains extension then none
    let (comma, cs) ← skipComma cs
    let more := cs.head?.any isNamePart
    if comma && more then
      let (others, cs) ← extensionNames room cs
      return (extension :: others, cs)
    else if more then none
    else return ([extension], cs)

/-- Reads the attributes before the value of a document: the names of what they enable. -/
def attributes : Nat → List Char → Option (List String × List Char)
  | 0, _ => none
  | room + 1, cs =>
    match cs with
    | '#' :: _ => do
      let cs ← skipAll ["#", "!", "[", "enable", "("] cs
      let (enabled, cs) ← extensionNames (cs.length + 1) cs
      let cs ← skipAll [")", "]"] (← skipBlank cs)
      let (others, cs) ← attributes room cs
      return (enabled ++ others, cs)
    | _ => some ([], cs)

/-- Reads a document. -/
def ofText? (text : String) : Option RonDocument := do
  let cs ← skipBlank text.toList
  let (enabled, cs) ← attributes (cs.length + 1) cs
  let implicit := enabled.contains "implicit_some"
  let (v, cs) ← value implicit documentLevels cs
  match ← skipBlank cs with
  | [] => return ⟨implicit, v⟩
  | _ :: _ => none

end Wordsmith.Ron
