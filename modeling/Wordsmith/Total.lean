/-!
# Totals of counts
-/

namespace Wordsmith

/-- The total of some counts. -/
def total (counts : List Nat) : Nat := counts.foldr (· + ·) 0

@[simp]
theorem total_nil : total [] = 0 := rfl

@[simp]
theorem total_cons (n : Nat) (counts : List Nat) : total (n :: counts) = n + total counts := rfl

@[simp]
theorem total_append (as bs : List Nat) : total (as ++ bs) = total as + total bs := by
  induction as with
  | nil => simp
  | cons n as ih => simp [ih, Nat.add_assoc]

end Wordsmith
