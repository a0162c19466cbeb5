import Wordsmith.Text.Property

/-!
# Quoted text in RON

A text is written between quotes, with everything escaped that does not print by itself. A raw
text stands between quotes with as many number signs on both sides, and nothing in it is escaped.
-/

namespace Wordsmith.Ron

open Text

/-! ## Writing -/

/-- The hexadecimal digits of a number, small letters. -/
def hexDigits (n : Nat) : List Char := Nat.toDigits 16 n

/-- A character inside quotes. -/
def escapeChar (c : Char) : List Char :=
  match c with
  | '\x00' => ['\\', '0']
  | '\t' => ['\\', 't']
  | '\n' => ['\\', 'n']
  | '\r' => ['\\', 'r']
  | '"' => ['\\', '"']
  | '\x27' => ['\\', '\x27']
  | '\\' => ['\\', '\\']
  | c =>
    if isExtending c || !isPrintable c then
      ['\\', 'u', '\x7b'] ++ hexDigits c.toNat ++ ['\x7d']
    else [c]

/-- A text in quotes. -/
def quote (s : String) : String :=
  .ofList ('"' :: s.toList.flatMap escapeChar ++ ['"'])

/-! ## Reading -/

/-- What is read of a text, and what is left. -/
abbrev Parsed (α : Type) : Type := Option (α × List Char)

/-- The number that one to six hexadecimal digits in braces write, after the opening brace;
`value` and `room` are the number so far and the digits that may follow. -/
def codePoint (value : Nat) : Nat → List Char → Parsed Nat
  | _, [] => none
  | room, c :: rest =>
    if c = '\x7d' then some (value, rest)
    else match room with
      | 0 => none
      | room + 1 => (digitValue? 16 c).bind fun d => codePoint (value * 16 + d) room rest

/-- The character that an escape stands for, after the backslash. -/
def unescape : List Char → Parsed Char
  | '\x27' :: rest => some ('\x27', rest)
  | '"' :: rest => some ('"', rest)
  | '\\' :: rest => some ('\\', rest)
  | 'n' :: rest => some ('\n', rest)
  | 'r' :: rest => some ('\r', rest)
  | 't' :: rest => some ('\t', rest)
  | '0' :: rest => some ('\x00', rest)
  | 'x' :: a :: b :: rest =>
    (digitValue? 16 a).bind fun high => (digitValue? 16 b).map fun low =>
      (Char.ofNat (16 * high + low), rest)
  | 'u' :: '\x7b' :: d :: rest =>
    if d = '\x7d' then none
    else (codePoint 0 6 (d :: rest)).bind fun (n, rest) => (charOfCode? n).map (·, rest)
  | _ => none

theorem length_codePoint_lt {value room n : Nat} {cs rest : List Char}
    (h : codePoint value room cs = some (n, rest)) : rest.length < cs.length := by
  induction cs generalizing value room with
  | nil => simp [codePoint] at h
  | cons c cs ih =>
    unfold codePoint at h
    split at h
    · cases h
      simp
    · cases room with
      | zero => simp at h
      | succ room =>
        obtain ⟨d, _, hd⟩ := Option.bind_eq_some_iff.1 h
        exact Nat.lt_succ_of_lt (ih hd)

theorem length_unescape_lt {c : Char} {cs rest : List Char} (h : unescape cs = some (c, rest)) :
    rest.length < cs.length := by
  unfold unescape at h
  split at h
  iterate 7
    · cases h
      simp
  · obtain ⟨_, _, h⟩ := Option.bind_eq_some_iff.1 h
    obtain ⟨_, _, h⟩ := Option.map_eq_some_iff.1 h
    cases h
    simp
    omega
  · split at h
    · cases h
    · obtain ⟨⟨n, rest'⟩, hn, h⟩ := Option.bind_eq_some_iff.1 h
      obtain ⟨_, _, h⟩ := Option.map_eq_some_iff.1 h
      cases h
      have := length_codePoint_lt hn
      simp only [List.length_cons] at *
      omega
  · cases h

/-- The characters up to the closing quote. -/
def quotedChars (cs : List Char) : Parsed (List Char) :=
  match cs with
  | [] => none
  | '"' :: rest => some ([], rest)
  | '\\' :: rest =>
    match _h : unescape rest with
    | none => none
    | some (c, rest') => (quotedChars rest').map fun (s, left) => (c :: s, left)
  | c :: rest => (quotedChars rest).map fun (s, left) => (c :: s, left)
termination_by cs.length
decreasing_by
  · have := length_unescape_lt _h
    simp only [List.length_cons]
    omega
  · simp

/-- The characters up to a closing quote with a number of signs behind it. -/
def rawChars (signs : Nat) : List Char → Parsed (List Char)
  | [] => none
  | c :: rest =>
    if c = '"' ∧ (rest.take signs) = List.replicate signs '#' then some ([], rest.drop signs)
    else (rawChars signs rest).map fun (s, left) => (c :: s, left)

/-- Reads a raw text after its leading letter. -/
def rawText (cs : List Char) : Parsed String :=
  let signs := (cs.takeWhile (· == '#')).length
  match cs.drop signs with
  | '"' :: rest => (rawChars signs rest).map fun (s, left) => (.ofList s, left)
  | _ => none

/-- Reads a character after its opening quote. -/
def quotedChar : List Char → Parsed Char
  | '\\' :: rest =>
    match unescape rest with
    | some (c, '\x27' :: left) => some (c, left)
    | _ => none
  | '\x27' :: _ => none
  | c :: '\x27' :: left => some (c, left)
  | _ => none

end Wordsmith.Ron
