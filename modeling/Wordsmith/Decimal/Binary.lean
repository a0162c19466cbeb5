/-!
# Floats as exact numbers

A finite float is a whole number times a power of two. Printing and remainders work on these two
numbers, in exact arithmetic.
-/

namespace Wordsmith.Decimal

/-- The magnitude `mantissa * 2 ^ exponent`. -/
structure Binary where
  mantissa : Nat
  exponent : Int
deriving DecidableEq, Repr

/-- The least mantissa of a float that has all its 53 bits. -/
def Binary.leastNormal : Nat := 0x10000000000000

/-- What a float stands for. -/
inductive Value where
  | notANumber
  | infinite (negative : Bool)
  | finite (negative : Bool) (magnitude : Binary)

/-- Takes a float apart. -/
def Value.ofFloat (x : Float) : Value :=
  let bits := x.toBits.toNat
  let negative := bits / 0x8000000000000000 == 1
  let exponent : Nat := bits / Binary.leastNormal % 2048
  let fraction := bits % Binary.leastNormal
  if exponent = 2047 then if fraction = 0 then .infinite negative else .notANumber
  else if exponent = 0 then .finite negative ⟨fraction, -1074⟩
  else .finite negative ⟨Binary.leastNormal + fraction, (exponent : Int) - 1075⟩

namespace Binary

/-- The float of a magnitude that a float can hold. -/
def toFloat (b : Binary) : Float := (Float.ofNat b.mantissa).scaleB b.exponent

/-- The mantissa for a lower exponent. -/
def mantissaAt (b : Binary) (exponent : Int) : Nat :=
  b.mantissa * Nat.pow 2 (b.exponent - exponent).toNat

/-- The remainder of a division. It is a multiple of the smaller of the two powers of two, so it
is exact. -/
def remainder (a b : Binary) : Binary :=
  let exponent := min a.exponent b.exponent
  ⟨a.mantissaAt exponent % b.mantissaAt exponent, exponent⟩

end Binary

/-- The remainder of a division that rounds toward zero. It has the sign of the dividend and is
smaller than the divisor; there is none for an infinite dividend or a zero divisor. -/
def remainder (x y : Float) : Float :=
  match Value.ofFloat x, Value.ofFloat y with
  | .finite _ _, .infinite _ => x
  | .finite negative a, .finite _ b =>
    if b.mantissa = 0 then 0 / 0
    else
      let r := (a.remainder b).toFloat
      if negative then -r else r
  | _, _ => 0 / 0

end Wordsmith.Decimal
