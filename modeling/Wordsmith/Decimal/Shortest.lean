import Wordsmith.Decimal.Binary

/-!
# Shortest decimals

Many decimals round to one float. The one that is written has the fewest digits among them, and of
those it is the nearest to the float. The decimals with a given last place form a grid, and if any
point of the grid rounds to the float, then one of the two neighbours of the float on that grid
does. So it is enough to try these two on finer and finer grids.
-/

namespace Wordsmith.Decimal

/-- The magnitude `digits * 10 ^ exponent`. -/
structure Scaled where
  digits : Nat
  exponent : Int
deriving DecidableEq, Repr

/-- A positive magnitude with the numbers halfway to its neighbours, all as multiples of one
fraction of whole numbers. -/
structure Interval where
  low : Nat
  value : Nat
  high : Nat
  unit : Nat
  /-- Whether the ends round to the value. -/
  closed : Bool

namespace Interval

/-- The numbers that round to a float. Below a power of two the floats lie twice as close. -/
def ofBinary (b : Binary) : Interval :=
  let lowGap := if b.mantissa = Binary.leastNormal ∧ -1074 < b.exponent then 1 else 2
  let scale := Nat.pow 2 (b.exponent - 2).toNat
  { low := (4 * b.mantissa - lowGap) * scale
    value := 4 * b.mantissa * scale
    high := (4 * b.mantissa + 2) * scale
    unit := Nat.pow 2 (2 - b.exponent).toNat
    closed := b.mantissa % 2 = 0 }

/-- Whether `d / den`, in the units of the interval, rounds to the value. -/
def holds (i : Interval) (d den : Nat) : Bool :=
  if i.closed then i.low * den ≤ d && d ≤ i.high * den else i.low * den < d && d < i.high * den

/-- The neighbour of the value on the grid of a power of ten that rounds to the value, if there
is one. Of two the nearer is taken, and the upper one of two that are equally near. -/
def onGrid (i : Interval) (exponent : Int) : Option Scaled :=
  let up := Nat.pow 10 exponent.toNat * i.unit
  let den := Nat.pow 10 (-exponent).toNat
  let d := i.value * den / up
  let below := d * up
  let above := (d + 1) * up
  let nearBelow := i.value * den - below < above - i.value * den
  match i.holds below den && 0 < d, i.holds above den with
  | true, true => some ⟨if nearBelow then d else d + 1, exponent⟩
  | true, false => some ⟨d, exponent⟩
  | false, true => some ⟨d + 1, exponent⟩
  | false, false => none

/-- The first hit on at most `n` grids, each ten times finer than the one before. -/
def search (i : Interval) : Nat → Int → Option Scaled
  | 0, _ => none
  | n + 1, exponent => (i.onGrid exponent).orElse fun _ => i.search n (exponent - 1)

end Interval

/-- A power of ten above a magnitude: its number of binary digits, in decimal ones. -/
def exponentAbove (b : Binary) : Int := ((Nat.log2 b.mantissa : Int) + b.exponent + 1) * 30103 / 100000 + 1

/-- The shortest decimal of a positive magnitude. Twenty grids are more than seventeen digits
need. -/
def shortest (b : Binary) : Scaled :=
  ((Interval.ofBinary b).search 20 (exponentAbove b)).getD ⟨b.mantissaAt 0, 0⟩

/-- The digits with zeros behind them up to the units, or with a point among them. -/
def positional (s : Scaled) : String :=
  let digits := Nat.toDigits 10 s.digits
  if 0 ≤ s.exponent then .ofList (digits ++ List.replicate s.exponent.toNat '0')
  else
    let places := (-s.exponent).toNat
    let padded := List.replicate (places + 1 - digits.length) '0' ++ digits
    let whole := padded.length - places
    .ofList (padded.take whole ++ '.' :: padded.drop whole)

/-- The text of a float: its shortest decimal, never with an exponent. -/
def text (x : Float) : String :=
  match Value.ofFloat x with
  | .notANumber => "NaN"
  | .infinite negative => if negative then "-inf" else "inf"
  | .finite negative b =>
    let magnitude := if b.mantissa = 0 then "0" else positional (shortest b)
    if negative then "-" ++ magnitude else magnitude

end Wordsmith.Decimal
