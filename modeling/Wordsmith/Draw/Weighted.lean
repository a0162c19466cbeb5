import Wordsmith.Draw.Generator

/-!
# Weighted choice

A choice among weights takes one draw: a fraction of the total weight, and the first place whose
running sum of weights goes beyond it.
-/

namespace Wordsmith

/-- Why weights admit no choice. -/
inductive WeightError where
  /-- There are none. -/
  | noWeights
  /-- One is negative or not a number. -/
  | invalidWeight
  /-- Their sum is zero. -/
  | allZero
deriving DecidableEq, Repr

namespace WeightError

/-- The text of the error. -/
def message : WeightError → String
  | noWeights => "No weights provided in distribution"
  | invalidWeight => "A weight is invalid in distribution"
  | allZero => "All weights are zero in distribution"

end WeightError

/-- Weights that admit a choice. -/
structure Weights where
  /-- The sums of the weights up to each place but the last. -/
  sums : List Float
  /-- The sum of all weights. -/
  total : Float

namespace Weights

/-- The sums of the weights before each further weight, and the sum of all. -/
def accumulate (sum : Float) : List Float → List Float × Float
  | [] => ([], sum)
  | w :: rest =>
    let (sums, total) := accumulate (sum + w) rest
    (sum :: sums, total)

/-- Checks weights and adds them up from the left. -/
def ofList : List Float → Except WeightError Weights
  | [] => .error .noWeights
  | w :: rest =>
    if (w :: rest).all fun x => x ≥ 0 then
      let (sums, total) := accumulate w rest
      if total == 0 then .error .allZero else .ok ⟨sums, total⟩
    else .error .invalidWeight

/-- A fraction of one with 52 bits. -/
def unit (w : UInt64) : Float := (w >>> 12).toFloat / Float.ofNat 0x10000000000000

/-- The largest fraction that `unit` gives. -/
def largestUnit : Float := unit 0xFFFFFFFFFFFFFFFF

/-- What fractions are multiplied with: the total, or the number before it where rounding would
otherwise reach the total. -/
def scale (ws : Weights) : Float :=
  if ws.total * largestUnit ≥ ws.total then Float.ofBits (ws.total.toBits - 1) else ws.total

/-- Draws a place. -/
def choose (ws : Weights) (g : Generator) : Nat × Generator :=
  let point := unit g.next.1 * ws.scale
  (ws.sums.countP fun sum => sum ≤ point, g.next.2)

theorem length_accumulate (sum : Float) (ws : List Float) :
    (accumulate sum ws).1.length = ws.length := by
  induction ws generalizing sum with
  | nil => rfl
  | cons w ws ih => simp [accumulate, ih]

/-- A place that is drawn is one of the weights. -/
theorem choose_lt {ws : List Float} {w : Weights} (h : ofList ws = .ok w) (g : Generator) :
    (w.choose g).1 < ws.length := by
  cases ws with
  | nil => cases h
  | cons x ws =>
    simp only [ofList] at h
    split at h
    · split at h
      · cases h
      · cases h
        have hcount : ∀ p : Float → Bool, (accumulate x ws).1.countP p ≤ ws.length := fun p =>
          length_accumulate x ws ▸ List.countP_le_length
        exact Nat.lt_succ_of_le (hcount _)
    · cases h

end Weights

end Wordsmith
