/-!
# Limits

A run may be limited in the characters it writes and in the depth of its frames. What was spent is
never given back.
-/

namespace Wordsmith

/-- What can run out. -/
inductive Resource where
  | characters
  | stackDepth
deriving DecidableEq, Repr

namespace Resource

/-- How error messages name a resource. -/
def name : Resource → String
  | characters => "character limit"
  | stackDepth => "stack depth"

end Resource

/-- A limit that was reached. -/
structure LimitExceeded where
  resource : Resource
  limit : Nat
deriving DecidableEq, Repr

namespace LimitExceeded

/-- The text of the error. -/
def message (e : LimitExceeded) : String := s!"{e.resource.name} {e.limit}"

end LimitExceeded

/-- The characters that may be written and those that were. -/
structure Budget where
  /-- The most that may be written, unless there is no limit. -/
  limit : Option Nat
  used : Nat
deriving DecidableEq, Repr

namespace Budget

/-- An unspent budget. -/
def ofLimit (limit : Option Nat) : Budget := ⟨limit, 0⟩

/-- The most that is ever counted. -/
def ceiling : Nat := UInt64.size - 1

/-- Spends characters. Nothing is spent if they are too many. -/
def spend (b : Budget) (count : Nat) : Except LimitExceeded Budget :=
  let used := min (b.used + count) ceiling
  match b.limit with
  | some limit =>
    if limit < used then .error ⟨.characters, limit⟩ else .ok { b with used := used }
  | none => .ok { b with used := used }

end Budget

/-- Checks a depth against the most that is allowed. -/
def checkDepth (limit depth : Nat) : Except LimitExceeded Unit :=
  if limit < depth then .error ⟨.stackDepth, limit⟩ else .ok ()

theorem le_of_checkDepth {limit depth : Nat} (h : checkDepth limit depth = .ok ()) :
    depth ≤ limit := by
  unfold checkDepth at h
  split at h
  · cases h
  · omega

end Wordsmith
