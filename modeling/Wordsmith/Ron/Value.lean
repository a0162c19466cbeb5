/-!
# RON values

RON, the Rusty Object Notation, is the format of configuration files. A document is one value. What
a value is meant to be is decided by whoever asks for it; here it is kept as it was written, except
that a number with a sign, a point or an exponent is not told apart from any other such number,
because nothing asks for one.
-/

namespace Wordsmith

/-- A value of a RON document. -/
inductive Ron where
  | bool (b : Bool)
  /-- A whole number without a sign. -/
  | unsigned (n : Nat)
  /-- Any other number. -/
  | number
  | text (s : String)
  | char (c : Char)
  /-- The word for a value that is not there. -/
  | absent
  /-- A value that is marked as being there. -/
  | present (v : Ron)
  | list (items : List Ron)
  | map (entries : List (Ron × Ron))
  /-- A name alone. -/
  | bare (name : String)
  /-- Values in parentheses, perhaps behind a name. -/
  | tuple (name : Option String) (items : List Ron)
  /-- Named values in parentheses, perhaps behind a name. -/
  | record (name : Option String) (fields : List (String × Ron))

/-- A RON document. -/
structure RonDocument where
  /-- Whether a value may stand where one that is there was asked for. -/
  implicitSome : Bool
  value : Ron

end Wordsmith
