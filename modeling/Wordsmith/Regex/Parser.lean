import Wordsmith.Regex.Tree
import Wordsmith.Text.Property

/-!
# Reading regular expressions

An expression is read from left to right. Parts that are complete wait on a stack while a group or
an alternation is open around them, and classes in brackets have a stack of their own. Every round
of the two loops reads at least one character, so the number of characters bounds the rounds.
-/

namespace Wordsmith.Regex

open Text

/-- What is left of an expression and what was seen of it. -/
structure ParserState where
  rest : List Char
  /-- The number of characters read. -/
  column : Nat
  /-- Whether blanks and comments are skipped. -/
  ignoresSpace : Bool
  /-- The number of capturing groups opened. -/
  captures : Nat
  /-- The names of groups, with their spans and numbers. -/
  names : List (String × Span × Nat)

/-- A reading step. -/
abbrev Parse (α : Type) : Type := StateT ParserState (Except Fault) α

namespace Parse

/-! ## Characters -/

/-- Fails with columns. -/
def fail {α : Type} (kind : Fault.Kind) (start stop : Nat) : Parse α :=
  throw ⟨kind, ⟨start, stop⟩, none⟩

/-- The number of characters read. -/
def column : Parse Nat := do return (← get).column

/-- The next character. -/
def peek? : Parse (Option Char) := do return (← get).rest.head?

/-- Whether everything is read. -/
def atEnd : Parse Bool := do return (← get).rest.isEmpty

/-- Fails at the next character. -/
def failHere {α : Type} (kind : Fault.Kind) : Parse α := do
  let s ← get
  fail kind s.column (s.column + (s.rest.take 1).length)

/-- Fails before the next character. -/
def failBefore {α : Type} (kind : Fault.Kind) : Parse α := do
  let at_ ← column
  fail kind at_ at_

/-- Reads some characters. -/
def skip (n : Nat) : Parse Unit :=
  modify fun s => { s with rest := s.rest.drop n, column := s.column + (s.rest.take n).length }

/-- The characters without leading blanks and comments. -/
def dropSpace : Bool → List Char → List Char
  | _, [] => []
  | true, c :: rest => if c = '\n' then dropSpace false rest else dropSpace true rest
  | false, c :: rest =>
    if isBlank c then dropSpace false rest
    else if c = '#' then dropSpace true rest
    else c :: rest

/-- Reads blanks and comments, where they are to be skipped. -/
def space : Parse Unit :=
  modify fun s =>
    if s.ignoresSpace then
      let rest := dropSpace false s.rest
      { s with rest := rest, column := s.column + (s.rest.length - rest.length) }
    else s

/-- Reads a character, and says whether there is another one. -/
def bump : Parse Bool := do
  skip 1
  return !(← atEnd)

/-- Reads a character and the space behind it, and says whether there is another one. -/
def advance : Parse Bool := do
  if ← bump then
    space
    return !(← atEnd)
  else return false

/-- Reads a text, if it comes next. -/
def take (text : String) : Parse Bool := do
  if text.toList.isPrefixOf (← get).rest then
    skip text.length
    return true
  else return false

/-- The character after the next one. -/
def second? : Parse (Option Char) := do return ((← get).rest.drop 1).head?

/-- The character after the next one, past the space between them. -/
def secondPastSpace? : Parse (Option Char) := do
  let s ← get
  let rest := s.rest.drop 1
  if s.ignoresSpace then
    let rest := rest.dropWhile isBlank
    return (match rest with
      | '#' :: rest => rest.dropWhile isBlank
      | _ => rest).head?
  else return rest.head?

/-- Reads characters of a kind, with the space behind each. -/
def collect (p : Char → Bool) : Parse (List Char) := do
  loop (← get).rest.length
where
  /-- At most `n` characters. -/
  loop : Nat → Parse (List Char)
    | 0 => return []
    | n + 1 => do
      match ← peek? with
      | some c =>
        if p c then
          let _ ← advance
          return c :: (← loop n)
        else return []
      | none => return []

/-! ## Escapes -/

/-- Characters that an expression gives a meaning to. -/
def isMeta (c : Char) : Bool :=
  ['\\', '.', '+', '*', '?', '(', ')', '|', '[', ']', '\x7b', '\x7d', '^', '$', '#', '&', '-',
    '~'].contains c

/-- Characters that may be escaped without need. -/
def isEscapable (c : Char) : Bool :=
  c.toNat < 128 && !c.isAlphanum && c != '<' && c != '>'

/-- What an escape or a single character stands for. -/
inductive Primitive where
  | literal (l : Literal)
  | boundary (b : Boundary) (span : Span)
  | dot (span : Span)
  | named (c : NamedClass) (negated : Bool) (span : Span)

namespace Primitive

/-- The columns of a primitive. -/
def span : Primitive → Span
  | literal l => l.span
  | boundary _ s => s
  | dot s => s
  | named _ _ s => s

/-- A primitive as part of an expression. -/
def tree : Primitive → Tree
  | literal l => .literal l
  | boundary b _ => .boundary b
  | dot s => .dot s
  | named c negated s => .named c negated s

/-- A primitive as part of a class. -/
def classItem : Primitive → Parse ClassTree
  | literal l => return .literal l
  | named c negated s => return .named c negated s
  | p => fail .classEscapeInvalid p.span.start p.span.stop

/-- A primitive as the end of a range. -/
def rangeEnd : Primitive → Parse Literal
  | literal l => return l
  | p => fail .classRangeLiteral p.span.start p.span.stop

end Primitive

/-- The character of hexadecimal digits. -/
def hexChar? (digits : List Char) : Option Char :=
  ((digits.foldlM (fun n c => (digitValue? 16 c).map (n * 16 + ·)) 0)).bind charOfCode?

/-- Reads a set number of hexadecimal digits. -/
def hexDigits : Nat → Bool → Parse (List Char)
  | 0, _ => return []
  | n + 1, first => do
    if !first then
      if !(← advance) then failBefore .escapeUnexpectedEnd
    match ← peek? with
    | some c =>
      if isHexDigit c then return c :: (← hexDigits n false) else failHere .escapeHexInvalidDigit
    | none => failHere .escapeHexInvalidDigit

/-- Reads hexadecimal digits in braces, of which the first is next. -/
def hexBraces : Parse (List Char) := do
  loop (← get).rest.length
where
  /-- At most `n` digits. -/
  loop : Nat → Parse (List Char)
    | 0 => return []
    | n + 1 => do
      if ← advance then
        match ← peek? with
        | some '\x7d' => return []
        | some c =>
          if isHexDigit c then return c :: (← loop n) else failHere .escapeHexInvalidDigit
        | none => return []
      else return []

/-- Reads a character by its code, behind a backslash at `start`. -/
def hexLiteral (start count : Nat) : Parse Literal := do
  if !(← advance) then failBefore .escapeUnexpectedEnd
  if (← peek?) = some '\x7b' then
    let brace ← column
    let digits ← hexBraces
    if ← atEnd then fail .escapeUnexpectedEnd brace (← column)
    let stop ← column
    let _ ← advance
    if digits = [] then fail .escapeHexEmpty brace (← column)
    match hexChar? digits with
    | some c => return ⟨c, false, ⟨start, ← column⟩⟩
    | none => fail .escapeHexInvalid (brace + 1) stop
  else
    let first ← column
    let digits ← hexDigits count true
    let _ ← advance
    match hexChar? digits with
    | some c => return ⟨c, count == 2, ⟨start, ← column⟩⟩
    | none => fail .escapeHexInvalid first (← column)

/-- Splits a property into its name and its value. -/
def propertyName (text : List Char) : PropertyName :=
  match unequal text with
  | some (name, value) => .valued (.ofList name) (.ofList value)
  | none =>
    match text.span (· != ':') with
    | (name, _ :: value) => .valued (.ofList name) (.ofList value)
    | _ =>
      match text.span (· != '=') with
      | (name, _ :: value) => .valued (.ofList name) (.ofList value)
      | _ => .plain (.ofList text)
where
  /-- Splits at an inequality. -/
  unequal : List Char → Option (List Char × List Char)
    | '!' :: '=' :: rest => some ([], rest)
    | c :: rest => (unequal rest).map fun (name, value) => (c :: name, value)
    | [] => none

/-- Whether a property is written with an inequality, which negates it. -/
def isUnequal (text : List Char) : Bool := (propertyName.unequal text).isSome

/-- Reads a property behind a backslash at `start`. -/
def property (start : Nat) (negated : Bool) : Parse Primitive := do
  if !(← advance) then failBefore .escapeUnexpectedEnd
  if (← peek?) = some '\x7b' then
    let _ ← advance
    let text ← collect (· != '\x7d')
    if ← atEnd then failBefore .escapeUnexpectedEnd
    let _ ← bump
    return .named (.property (propertyName text)) (negated != isUnequal text) ⟨start, ← column⟩
  else
    match ← peek? with
    | some '\\' => failHere .unicodeClassInvalid
    | some c =>
      let _ ← advance
      return .named (.property (.plain (String.singleton c))) negated ⟨start, ← column⟩
    | none => failBefore .escapeUnexpectedEnd

/-- Reads a special word boundary in braces, if there is one; otherwise reads nothing. -/
def specialBoundary? (start : Nat) : Parse (Option Boundary) := do
  let before ← get
  let isLetter (c : Char) : Bool := c.isAlpha || c == '-'
  if !(← advance) then fail .wordBoundaryUnexpectedEnd start (← column)
  let first ← column
  if !((← peek?).any isLetter) then
    set before
    return none
  let name ← collect isLetter
  if (← peek?) != some '\x7d' then fail .wordBoundaryUnclosed before.column (← column)
  let stop ← column
  let _ ← bump
  match String.ofList name with
  | "start" => return some .wordStart
  | "end" => return some .wordEnd
  | "start-half" => return some .wordStartHalf
  | "end-half" => return some .wordEndHalf
  | _ => fail .wordBoundaryUnrecognized first stop

/-- Reads an escape that is one character behind a backslash at `start`. -/
def shortEscape (start : Nat) (c : Char) : Parse Primitive := do
  let _ ← bump
  let stop ← column
  let span : Span := ⟨start, stop⟩
  let special (code : Nat) : Parse Primitive :=
    return .literal ⟨Char.ofNat code, false, span⟩
  if isMeta c || isEscapable c then return .literal ⟨c, false, span⟩
  match c with
  | 'a' => special 7
  | 'f' => special 12
  | 't' => special 9
  | 'n' => special 10
  | 'r' => special 13
  | 'v' => special 11
  | 'A' => return .boundary .textStart span
  | 'z' => return .boundary .textEnd span
  | 'b' =>
    if (← peek?) = some '\x7b' then
      match ← specialBoundary? start with
      | some b => return .boundary b ⟨start, ← column⟩
      | none => return .boundary .word span
    else return .boundary .word span
  | 'B' => return .boundary .notWord span
  | '<' => return .boundary .wordStart span
  | '>' => return .boundary .wordEnd span
  | _ => fail .escapeUnrecognized start stop

/-- Reads an escape. -/
def escape : Parse Primitive := do
  let start ← column
  if !(← bump) then fail .escapeUnexpectedEnd start (← column)
  let letter (c : LetterClass) (negated : Bool) : Parse Primitive := do
    let _ ← bump
    return .named (.letter c) negated ⟨start, ← column⟩
  match ← peek? with
  | none => fail .escapeUnexpectedEnd start (← column)
  | some c =>
    if isDigit c then fail .unsupportedBackreference start ((← column) + 1)
    match c with
    | 'x' => return .literal (← hexLiteral start 2)
    | 'u' => return .literal (← hexLiteral start 4)
    | 'U' => return .literal (← hexLiteral start 8)
    | 'p' => property start false
    | 'P' => property start true
    | 'd' => letter .digit false
    | 'D' => letter .digit true
    | 's' => letter .space false
    | 'S' => letter .space true
    | 'w' => letter .word false
    | 'W' => letter .word true
    | _ => shortEscape start c

/-- Reads a character outside brackets that is no operator. -/
def primitive : Parse Primitive := do
  let start ← column
  let span : Span := ⟨start, start + 1⟩
  match ← peek? with
  | some '\\' => escape
  | some '.' =>
    let _ ← bump
    return .dot span
  | some '^' =>
    let _ ← bump
    return .boundary .lineStart span
  | some '$' =>
    let _ ← bump
    return .boundary .lineEnd span
  | some c =>
    let _ ← bump
    return .literal ⟨c, false, span⟩
  | none => failBefore .escapeUnexpectedEnd

/-! ## Classes in brackets -/

/-- What waits while a class is read. -/
inductive ClassPending where
  /-- The items before an opening bracket, with the columns of the opening. -/
  | opened (items : List ClassTree) (negated : Bool) (span : Span)
  /-- The left side of an operator. -/
  | operator (op : ClassOperator) (left : ClassTree)

/-- The class of some items, the last one first. -/
def unionOf : List ClassTree → ClassTree
  | [] => .empty
  | [item] => item
  | items => .union items.reverse

/-- Fails for the innermost class that is open. -/
def failUnclosed {α : Type} : List ClassPending → Parse α
  | .opened _ _ span :: _ => fail .classUnclosed span.start span.stop
  | .operator _ _ :: rest => failUnclosed rest
  | [] => failBefore .classUnclosed

/-- Combines a class with an operator that waits for its right side. -/
def applyOperator (right : ClassTree) : List ClassPending → ClassTree × List ClassPending
  | .operator op left :: rest => (.operation op left right, rest)
  | stack => (right, stack)

/-- Reads hyphens at the beginning of a class, which stand for themselves. -/
def leadingHyphens (start : Nat) : Nat → List ClassTree → Parse (List ClassTree)
  | 0, items => return items
  | n + 1, items => do
    if (← peek?) = some '-' then
      let at_ ← column
      if !(← advance) then fail .classUnclosed start start
      leadingHyphens start n (.literal ⟨'-', false, ⟨at_, at_ + 1⟩⟩ :: items)
    else return items

/-- Reads the opening of a class and what stands for itself only there. -/
def openClass (outer : List ClassTree) : Parse (ClassPending × List ClassTree) := do
  let start ← column
  if !(← advance) then fail .classUnclosed start (← column)
  let negated := (← peek?) = some '^'
  if negated then
    if !(← advance) then fail .classUnclosed start (← column)
  let items ← leadingHyphens start (← get).rest.length []
  let at_ ← column
  if items.isEmpty && (← peek?) = some ']' then
    if !(← advance) then fail .classUnclosed start (← column)
    return (.opened outer negated ⟨start, ← column⟩, [.literal ⟨']', false, ⟨at_, at_ + 1⟩⟩])
  return (.opened outer negated ⟨start, at_⟩, items)

/-- The names of the classes of ASCII characters. -/
def asciiNames : List String :=
  ["alnum", "alpha", "ascii", "blank", "cntrl", "digit", "graph", "lower", "print", "punct",
    "space", "upper", "word", "xdigit"]

/-- Reads a class of ASCII characters by its name, if there is one; otherwise reads nothing. -/
def asciiClass? : Parse (Option ClassTree) := do
  match (← get).rest with
  | '[' :: ':' :: rest =>
    let (negated, rest') := match rest with
      | '^' :: r => (true, r)
      | r => (false, r)
    let name := rest'.takeWhile (· != ':')
    match rest'.dropWhile (· != ':') with
    | ':' :: ']' :: _ =>
      if asciiNames.contains (.ofList name) then
        let start ← column
        skip (4 + name.length + if negated then 1 else 0)
        return some (.ascii (.ofList name) negated ⟨start, ← column⟩)
      else return none
    | _ => return none
  | _ => return none

/-- Reads one member of a class: a character or an escape. -/
def classPrimitive : Parse Primitive := do
  match ← peek? with
  | some '\\' => escape
  | some c =>
    let start ← column
    let _ ← bump
    return .literal ⟨c, false, ⟨start, start + 1⟩⟩
  | none => failBefore .classUnclosed

/-- Reads a member of a class, or a range. -/
def classRange (stack : List ClassPending) : Parse ClassTree := do
  let first ← classPrimitive
  space
  if ← atEnd then failUnclosed stack
  let second ← secondPastSpace?
  if (← peek?) != some '-' || second = some ']' || second = some '-' then first.classItem
  else
    if !(← advance) then failUnclosed stack
    let last ← classPrimitive
    let low ← first.rangeEnd
    let high ← last.rangeEnd
    if high.char < low.char then
      fail .classRangeInvalid first.span.start last.span.stop
    return .range low high

/-- Reads the rest of a class, given the items of the innermost bracket, the last one first. -/
def classLoop : Nat → List ClassTree → List ClassPending → Parse ClassTree
  | 0, _, stack => failUnclosed stack
  | n + 1, items, stack => do
    space
    let operator (op : ClassOperator) : Parse ClassTree := do
      skip 2
      let (left, stack) := applyOperator (unionOf items) stack
      classLoop n [] (.operator op left :: stack)
    match ← peek?, ← second? with
    | none, _ => failUnclosed stack
    | some '[', _ =>
      match ← (if stack.isEmpty then return none else asciiClass?) with
      | some item => classLoop n (item :: items) stack
      | none =>
        let (opened, inner) ← openClass items
        classLoop n inner (opened :: stack)
    | some ']', _ =>
      let stop := (← column) + 1
      let _ ← bump
      match applyOperator (unionOf items) stack with
      | (inner, .opened outer negated span :: stack) =>
        let closed := ClassTree.bracket negated inner ⟨span.start, stop⟩
        if stack.isEmpty then return closed else classLoop n (closed :: outer) stack
      | (_, stack) => failUnclosed stack
    | some '&', some '&' => operator .intersection
    | some '-', some '-' => operator .difference
    | some '~', some '~' => operator .symmetricDifference
    | _, _ => classLoop n ((← classRange stack) :: items) stack

/-- Reads a class in brackets. -/
def bracket : Parse ClassTree := do
  let (opened, inner) ← openClass []
  classLoop ((← get).rest.length + 1) inner [opened]

/-! ## Groups -/

/-- Reads one flag. -/
def flag : Parse Flag := do
  match ← peek? with
  | some 'i' => return .ignoresCase
  | some 'm' => return .multiLine
  | some 's' => return .dotMatchesNewLine
  | some 'U' => return .swapsGreed
  | some 'u' => return .unicode
  | some 'R' => return .carriageReturn
  | some 'x' => return .ignoresSpace
  | _ => failHere .flagUnrecognized

/-- Reads flags up to what ends them. `seen` are those read so far with their columns, the last
one first, and `negation` is the column of the hyphen, if there was one. -/
def flagLoop : Nat → List (FlagSetting × Nat) → Option Nat → Parse (List FlagSetting)
  | 0, _, _ => failBefore .flagUnexpectedEnd
  | n + 1, seen, negation => do
    let at_ ← column
    let continue_ (seen : List (FlagSetting × Nat)) (negation : Option Nat) :
        Parse (List FlagSetting) := do
      if !(← bump) then failBefore .flagUnexpectedEnd
      flagLoop n seen negation
    match ← peek? with
    | some ':' | some ')' =>
      match negation with
      | some h =>
        if at_ = h + 1 then fail .flagDanglingNegation h (h + 1)
        else return (seen.map (·.1)).reverse
      | none => return (seen.map (·.1)).reverse
    | some '-' =>
      match negation with
      | some h => throw ⟨.flagRepeatedNegation, ⟨at_, at_ + 1⟩, some ⟨h, h + 1⟩⟩
      | none => continue_ seen (some at_)
    | _ =>
      let f ← flag
      match seen.find? fun s => s.1.1 == f with
      | some s => throw ⟨.flagDuplicate, ⟨at_, at_ + 1⟩, some ⟨s.2, s.2 + 1⟩⟩
      | none => continue_ (((f, negation.isNone), at_) :: seen) negation

/-- Whether a character may stand in the name of a group. -/
def isNameCharacter (c : Char) (first : Bool) : Bool :=
  c == '_' || if first then isAlphabetic c
    else c == '.' || c == '[' || c == ']' || isAlphanumeric c

/-- Reads the characters of a name up to its end. -/
def nameLoop : Nat → Bool → Parse (List Char)
  | 0, _ => failBefore .groupNameUnexpectedEnd
  | n + 1, first => do
    match ← peek? with
    | none => failBefore .groupNameUnexpectedEnd
    | some '>' => return []
    | some c =>
      if !isNameCharacter c first then failHere .groupNameInvalid
      let _ ← bump
      return c :: (← nameLoop n false)

/-- Reads the name of the group with a number. -/
def groupName (index : Nat) : Parse Unit := do
  let start ← column
  let name := String.ofList (← nameLoop ((← get).rest.length + 1) true)
  let stop ← column
  let _ ← bump
  if name.isEmpty then fail .groupNameEmpty start start
  match (← get).names.find? (·.1 == name) with
  | some (_, span, _) => throw ⟨.groupNameDuplicate, ⟨start, stop⟩, some span⟩
  | none => modify fun s => { s with names := (name, ⟨start, stop⟩, index) :: s.names }

/-- What kind of group was opened. -/
inductive GroupKind where
  | capture (index : Nat)
  | plain (settings : List FlagSetting)

/-- The number of the next capturing group. -/
def nextCapture : Parse Nat := do
  modify fun s => { s with captures := s.captures + 1 }
  return (← get).captures

/-- What flags say of skipping space, if anything. -/
def spaceSetting (settings : List FlagSetting) : Option Bool :=
  (settings.find? fun s => s.1 == .ignoresSpace).map (·.2)

/-- Reads the opening of a group, or flags in parentheses. -/
def openGroup : Parse (List FlagSetting ⊕ GroupKind) := do
  let start ← column
  let _ ← bump
  space
  if (← take "?=") || (← take "?!") || (← take "?<=") || (← take "?<!") then
    fail .unsupportedLookAround start (← column)
  let inner ← column
  if (← take "?P<") || (← take "?<") then
    let index ← nextCapture
    groupName index
    return .inr (.capture index)
  else if ← take "?" then
    if ← atEnd then fail .groupUnclosed start (start + 1)
    let settings ← flagLoop ((← get).rest.length + 1) [] none
    let closed := (← peek?) = some ')'
    let _ ← bump
    if closed then
      if (← column) = inner + 2 then fail .repetitionMissing inner inner
      return .inl settings
    else return .inr (.plain settings)
  else return .inr (.capture (← nextCapture))

/-! ## Repetitions -/

/-- The last part before a repetition. -/
def repeatable : List Tree → Parse (Tree × List Tree)
  | [] => failBefore .repetitionMissing
  | .empty :: _ => failBefore .repetitionMissing
  | .flags _ :: _ => failBefore .repetitionMissing
  | t :: rest => return (t, rest)

/-- Reads a repetition by a sign. -/
def signRepetition (parts : List Tree) (least : Nat) (most : Option Nat) : Parse (List Tree) := do
  let (t, rest) ← repeatable parts
  let mut greedy := true
  if ← bump then
    if (← peek?) = some '?' then
      greedy := false
      let _ ← bump
  return .repeated t least most greedy :: rest

/-- Reads a decimal number of 32 bits. -/
def decimal : Parse (Except Fault Nat) := do
  let s ← get
  let blanks := (s.rest.takeWhile isBlank).length
  skip blanks
  let start ← column
  let digits ← collect isDigit
  let span : Span := ⟨start, ← column⟩
  let _ ← collect isBlank
  match digits with
  | [] => return .error ⟨.repetitionCountDecimalEmpty, span, none⟩
  | digits =>
    let n := digits.foldl (fun n c => n * 10 + (digitValue? 10 c).getD 0) 0
    if n < UInt32.size then return .ok n else return .error ⟨.decimalInvalid, span, none⟩

/-- Reads a repetition by counts in braces. -/
def countRepetition (parts : List Tree) : Parse (List Tree) := do
  let start ← column
  let (t, rest) ← repeatable parts
  let unclosed {α : Type} : Parse α := do fail .repetitionCountUnclosed start (← column)
  if !(← advance) then unclosed
  let first ← decimal
  if ← atEnd then unclosed
  let bounded := (← peek?) = some ','
  if bounded then
    if !(← advance) then unclosed
  let least ← first
  let mut most := some least
  if bounded then
    most := none
    if (← peek?) != some '\x7d' then most := some (← (← decimal))
  if (← peek?) != some '\x7d' then unclosed
  let mut greedy := true
  if ← advance then
    if (← peek?) = some '?' then
      greedy := false
      let _ ← bump
  if most.any (· < least) then fail .repetitionCountInvalid start (← column)
  return .repeated t least most greedy :: rest

/-! ## Whole expressions -/

/-- What waits while an expression is read. -/
inductive Pending where
  /-- The parts before a group, with the columns of its opening and whether space was skipped. -/
  | group (before : List Tree) (kind : GroupKind) (span : Span) (ignoresSpace : Bool)
  /-- The branches of an alternation, the last one first. -/
  | alternation (branches : List Tree)

/-- The expression of some parts, the last one first. -/
def concatOf : List Tree → Tree
  | [] => .empty
  | [part] => part
  | parts => .concat parts.reverse

/-- The expression that ends here, and what waits around it. -/
def finished (parts : List Tree) : List Pending → Tree × List Pending
  | .alternation branches :: rest => (.alternation (concatOf parts :: branches).reverse, rest)
  | stack => (concatOf parts, stack)

/-- The expression, once everything is read. -/
def finish (parts : List Tree) (stack : List Pending) : Parse Tree :=
  match finished parts stack with
  | (t, []) => return t
  | (_, .group _ _ span _ :: _) => fail .groupUnclosed span.start span.stop
  | (_, .alternation _ :: _) => failBefore .groupUnclosed

/-- Reads the rest of an expression, given the parts since the last opening or bar, the last one
first. -/
def loop : Nat → List Tree → List Pending → Parse Tree
  | 0, parts, stack => finish parts stack
  | n + 1, parts, stack => do
    space
    let at_ ← column
    match ← peek? with
    | none => finish parts stack
    | some '(' =>
      let before := (← get).ignoresSpace
      match ← openGroup with
      | .inl settings =>
        modify fun s => { s with ignoresSpace := (spaceSetting settings).getD before }
        loop n (.flags settings :: parts) stack
      | .inr kind =>
        if let .plain settings := kind then
          modify fun s => { s with ignoresSpace := (spaceSetting settings).getD before }
        loop n [] (.group parts kind ⟨at_, at_ + 1⟩ before :: stack)
    | some ')' =>
      match finished parts stack with
      | (inner, .group before kind _ ignoresSpace :: stack) =>
        modify fun s => { s with ignoresSpace := ignoresSpace }
        let _ ← bump
        let closed := match kind with
          | .capture index => Tree.capture index inner
          | .plain settings => Tree.group settings inner
        loop n (closed :: before) stack
      | _ => failHere .groupUnopened
    | some '|' =>
      let _ ← bump
      match stack with
      | .alternation branches :: stack =>
        loop n [] (.alternation (concatOf parts :: branches) :: stack)
      | stack => loop n [] (.alternation [concatOf parts] :: stack)
    | some '[' => loop n (.bracket (← bracket) :: parts) stack
    | some '?' => loop n (← signRepetition parts 0 (some 1)) stack
    | some '*' => loop n (← signRepetition parts 0 none) stack
    | some '+' => loop n (← signRepetition parts 1 none) stack
    | some '\x7b' => loop n (← countRepetition parts) stack
    | some _ => loop n ((← primitive).tree :: parts) stack

end Parse

mutual

/-- How deep the brackets of a class are nested. -/
def ClassTree.depth : ClassTree → Nat
  | .bracket _ inner _ => inner.depth + 1
  | .union items => ClassTree.depths items + 1
  | .operation _ left right => max left.depth right.depth + 1
  | _ => 0

/-- How deep the deepest of some classes is nested. -/
def ClassTree.depths : List ClassTree → Nat
  | [] => 0
  | t :: rest => max t.depth (ClassTree.depths rest)

end

mutual

/-- How deep the parts of an expression are nested. -/
def Tree.depth : Tree → Nat
  | .bracket c => c.depth
  | .repeated inner _ _ _ => inner.depth + 1
  | .capture _ inner => inner.depth + 1
  | .group _ inner => inner.depth + 1
  | .concat parts => Tree.depths parts + 1
  | .alternation branches => Tree.depths branches + 1
  | _ => 0

/-- How deep the deepest of some expressions is nested. -/
def Tree.depths : List Tree → Nat
  | [] => 0
  | t :: rest => max t.depth (Tree.depths rest)

end

/-- A regular expression that was read: its tree, and the names of its groups with their
numbers. -/
structure Expression where
  tree : Tree
  names : List (String × Nat)
  captures : Nat

/-- Reads a regular expression. -/
def Expression.ofText (text : String) : Except Fault Expression :=
  let cs := text.toList
  match (Parse.loop (cs.length + 1) [] []).run ⟨cs, 0, false, 0, []⟩ with
  | .error f => .error f
  | .ok (tree, s) =>
    if Fault.nestLimit < tree.depth then .error ⟨.nestLimitExceeded, ⟨0, cs.length⟩, none⟩
    else .ok ⟨tree, s.names.reverse.map fun (name, _, index) => (name, index), s.captures⟩

end Wordsmith.Regex
