import Wordsmith.Text.Stride

/-!
# Sets of characters

A set is kept as the code points at which membership changes, in ascending order: the first of them
is the first member, the second the first code point behind that run of members, and so on. A code
point is a member if the number of changes up to it is odd. So every Boolean operation on two sets
is one sweep over their changes, and equal sets have equal lists of changes.
-/

namespace Wordsmith.Text

/-- A set of characters. -/
structure CharSet where
  /-- The code points at which membership changes, in ascending order. -/
  changes : Array Nat
deriving DecidableEq, Repr

namespace CharSet

/-! ## Members -/

/-- The number of changes up to a code point, given that it is at least `low` and at most
`high`. -/
def rank (changes : Array Nat) (n low high : Nat) : Nat :=
  if low < high then
    let mid := (low + high) / 2
    if changes.getD mid 0 ≤ n then rank changes n (mid + 1) high else rank changes n low mid
  else low
termination_by high - low

/-- Whether a code point belongs to the set. -/
def containsCode (s : CharSet) (n : Nat) : Bool :=
  rank s.changes n 0 s.changes.size % 2 == 1

/-- Whether a character belongs to the set. -/
def contains (s : CharSet) (c : Char) : Bool := s.containsCode c.toNat

/-- Pairs of neighbouring changes, as the runs of members between them. -/
def runs : List Nat → List (Nat × Nat)
  | first :: past :: rest => (first, past - 1) :: runs rest
  | _ => []

/-- The runs of members, each with its first and its last code point. -/
def intervals (s : CharSet) : List (Nat × Nat) := runs s.changes.toList

/-! ## Operations -/

/-- The changes of a Boolean combination of two sets, given their changes from some code point on
and whether each holds what stands before it. -/
def sweep (f : Bool → Bool → Bool) (a b : Bool) : List Nat → List Nat → List Nat
  | [], [] => []
  | x :: xs, [] => emit x (f (!a) b) (sweep f (!a) b xs [])
  | [], y :: ys => emit y (f a (!b)) (sweep f a (!b) [] ys)
  | x :: xs, y :: ys =>
    if x < y then emit x (f (!a) b) (sweep f (!a) b xs (y :: ys))
    else if y < x then emit y (f a (!b)) (sweep f a (!b) (x :: xs) ys)
    else emit x (f (!a) (!b)) (sweep f (!a) (!b) xs ys)
termination_by xs ys => xs.length + ys.length
where
  /-- Adds a change if there is one. -/
  emit (n : Nat) (after : Bool) (rest : List Nat) : List Nat :=
    if after = f a b then rest else n :: rest

/-- A Boolean combination of two sets; what is in neither must not be in it. -/
def combine (f : Bool → Bool → Bool) (s t : CharSet) : CharSet :=
  ⟨(sweep f false false s.changes.toList t.changes.toList).toArray⟩

/-- No character. -/
def empty : CharSet := ⟨#[]⟩

/-- All characters; surrogates are none. -/
def full : CharSet := ⟨#[0, 0xD800, 0xE000, 0x110000]⟩

/-- What is in one of two sets. -/
def union : CharSet → CharSet → CharSet := combine (· || ·)

/-- What is in both sets. -/
def inter : CharSet → CharSet → CharSet := combine (· && ·)

/-- What is in the first set but not in the second. -/
def diff : CharSet → CharSet → CharSet := combine fun a b => a && !b

/-- What is in one of two sets but not in both. -/
def symmDiff : CharSet → CharSet → CharSet := combine (· != ·)

/-- All other characters. -/
def compl (s : CharSet) : CharSet := full.diff s

/-- What is in one of several sets. -/
def unions (sets : List CharSet) : CharSet := sets.foldl union empty

/-! ## Making sets -/

/-- The characters from one code point to another. -/
def interval (first last : Nat) : CharSet := full.inter ⟨#[first, last + 1]⟩

/-- A single character. -/
def singleton (c : Char) : CharSet := ⟨#[c.toNat, c.toNat + 1]⟩

/-- Drops the changes where one run ends and another begins. -/
def fuse : List Nat → List Nat
  | x :: y :: rest => if x = y then fuse rest else x :: fuse (y :: rest)
  | rest => rest

/-- The changes of a stride. -/
def changesOf (s : Stride) : List Nat :=
  if s.step = 1 then [s.first, s.last + 1]
  else (List.range ((s.last - s.first) / s.step + 1)).flatMap fun i =>
    let n := s.first + i * s.step
    [n, n + 1]

/-- The characters of a table. -/
def ofTable (table : List Stride) : CharSet := ⟨(fuse (table.flatMap changesOf)).toArray⟩

/-- The characters of code points in ascending order. -/
def ofCodes (codes : List Nat) : CharSet := ⟨(fuse (codes.flatMap fun n => [n, n + 1])).toArray⟩

/-- The characters of a text, each of which is a member. -/
def ofChars (cs : List Char) : CharSet := unions (cs.map singleton)

/-! ## Shape -/

/-- Whether no character is a member. -/
def isEmpty (s : CharSet) : Bool := s.changes.isEmpty

/-- The only member, if there is just one. -/
def only? (s : CharSet) : Option Char :=
  match s.intervals with
  | [(first, last)] => if first = last then some (Char.ofNat first) else none
  | _ => none

/-- Whether all members are ASCII. -/
def isAscii (s : CharSet) : Bool := s.changes.back?.all (· ≤ 128)

end CharSet

end Wordsmith.Text
