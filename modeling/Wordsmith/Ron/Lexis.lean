import Wordsmith.Decimal.Reading
import Wordsmith.Ron.Quoted
import Wordsmith.Ron.Value

/-!
# Blanks, names and numbers in RON
-/

namespace Wordsmith.Ron

open Text

/-! ## Blanks and comments -/

/-- Whether a character is blank. -/
def isSpace (c : Char) : Bool := c == ' ' || c == '\t' || c == '\n' || c == '\r'

/-- What is left behind a block comment in which as many others are open. -/
def skipComment : Nat → List Char → Option (List Char)
  | depth, '/' :: '*' :: rest => skipComment (depth + 1) rest
  | 0, '*' :: '/' :: rest => some rest
  | depth + 1, '*' :: '/' :: rest => skipComment depth rest
  | depth, _ :: rest => skipComment depth rest
  | _, [] => none

theorem length_skipComment_le {depth : Nat} {cs rest : List Char}
    (h : skipComment depth cs = some rest) : rest.length ≤ cs.length := by
  fun_induction skipComment depth cs with
  | case1 _ _ ih => exact Nat.le_trans (ih h) (by simp; omega)
  | case2 => cases h; simp; omega
  | case3 _ _ ih => exact Nat.le_trans (ih h) (by simp; omega)
  | case4 _ _ _ _ _ _ ih => exact Nat.le_trans (ih h) (by simp)
  | case5 => cases h

/-- What is left behind blanks and comments, unless a comment has no end. -/
def skipBlank (cs : List Char) : Option (List Char) :=
  match _h : cs.dropWhile isSpace with
  | '/' :: '/' :: rest => skipBlank (rest.dropWhile (· != '\n'))
  | '/' :: '*' :: rest =>
    match _hc : skipComment 0 rest with
    | some rest' => skipBlank rest'
    | none => none
  | '/' :: _ => none
  | rest => some rest
termination_by cs.length
decreasing_by
  · have h₁ := (List.dropWhile_sublist (p := isSpace) (l := cs)).length_le
    have h₂ := (List.dropWhile_sublist (p := (· != '\n')) (l := rest)).length_le
    rw [_h] at h₁
    simp only [List.length_cons] at h₁
    omega
  · have h₁ := (List.dropWhile_sublist (p := isSpace) (l := cs)).length_le
    have h₂ := length_skipComment_le _hc
    rw [_h] at h₁
    simp only [List.length_cons] at h₁
    omega

/-- Skips a comma with the blanks around it, and says whether there was one. -/
def skipComma (cs : List Char) : Parsed Bool :=
  (skipBlank cs).bind fun
    | ',' :: rest => (skipBlank rest).map (true, ·)
    | rest => some (false, rest)

/-- What is left behind a character, if it comes next. -/
def skipChar (c : Char) : List Char → Option (List Char)
  | d :: rest => if d = c then some rest else none
  | [] => none

/-! ## Names -/

/-- Whether a name may begin with a character. -/
def isNameStart (c : Char) : Bool := ('a' ≤ c && c ≤ 'z') || ('A' ≤ c && c ≤ 'Z') || c == '_'

/-- Whether a character may stand in a name. -/
def isNamePart (c : Char) : Bool := isNameStart c || isDigit c

/-- Whether a character may stand in a raw name. -/
def isRawPart (c : Char) : Bool := isNamePart c || c == '.' || c == '+' || c == '-'

/-- Reads a plain name. One that only a raw name could be is none. -/
def plainName (cs : List Char) : Parsed String :=
  let name := cs.takeWhile isNamePart
  let rest := cs.dropWhile isNamePart
  if rest.head?.any isRawPart then none else some (.ofList name, rest)

/-- Reads a name. -/
def name : List Char → Parsed String
  | ['r'] => none
  | 'r' :: '"' :: _ => none
  | 'r' :: '#' :: rest =>
    if rest.head?.any isRawPart then
      some (.ofList (rest.takeWhile isRawPart), rest.dropWhile isRawPart)
    else none
  | c :: rest => if isNameStart c then plainName (c :: rest) else none
  | [] => none

/-- What is left behind a word that no further part of a name follows. -/
def skipWord (word : String) (cs : List Char) : Option (List Char) :=
  let rest := cs.drop word.length
  if cs.take word.length = word.toList ∧ !rest.head?.any isNamePart then some rest else none

/-! ## Numbers -/

/-- Whether a character may stand in a whole number of any base. -/
def isIntegerPart (c : Char) : Bool := isHexDigit c || c == '_'

/-- Whether a character may stand in a number with a point or an exponent. -/
def isFloatPart (c : Char) : Bool :=
  isDigit c || c == 'e' || c == 'E' || c == '.' || c == '+' || c == '-' || c == '_'

/-- The whole number of a base that digits and underscores write. -/
def integerOf? (base : Nat) (cs : List Char) : Option Nat :=
  if cs.head?.any (· != '_') then digits? base (cs.filter (· != '_')) else none

/-- Reads a whole number without a sign. -/
def integer (cs : List Char) : Parsed Nat :=
  let (base, cs) := match cs with
    | '0' :: 'x' :: rest => (16, rest)
    | '0' :: 'b' :: rest => (2, rest)
    | '0' :: 'o' :: rest => (8, rest)
    | _ => (10, cs)
  (integerOf? base (cs.takeWhile isIntegerPart)).map (·, cs.dropWhile isIntegerPart)

/-- What is left behind a number with a point or an exponent, or behind infinity or no number with
a sign. -/
def skipFloat (cs : List Char) : Option (List Char) :=
  match ["inf", "+inf", "-inf", "NaN", "+NaN", "-NaN"].findSome? fun word => skipWord word cs with
  | some rest => some rest
  | none =>
    let digits := cs.takeWhile isFloatPart
    if digits.contains '_' || (Decimal.ofText? (.ofList digits)).isNone then none
    else some (cs.dropWhile isFloatPart)

/-- The text without a leading sign. -/
def dropSign : List Char → List Char
  | '+' :: rest => rest
  | '-' :: rest => rest
  | cs => cs

/-- Whether a number has parts that no whole number has. -/
def looksFloat (cs : List Char) : Bool :=
  let cs := dropSign cs
  (cs.takeWhile isIntegerPart).length < (cs.takeWhile isFloatPart).length

/-- Reads a number. -/
def anyNumber (cs : List Char) : Parsed Ron :=
  let signed := cs.head?.any fun c => c == '+' || c == '-'
  let whole := if looksFloat cs then none else integer (dropSign cs)
  match whole with
  | some (n, rest) => some (if signed then .number else .unsigned n, rest)
  | none => (skipFloat cs).map (.number, ·)

end Wordsmith.Ron
