import Mathlib.Logic.Equiv.Defs
import Wordsmith.Draw.Generator

/-!
# Mixing loses nothing

A word is mixed in steps of two kinds. Each of them can be undone: what was multiplied by an odd
number is multiplied by its inverse, and what was folded onto itself is folded once more, with the
part that was folded twice put back; bits that would be moved three times are gone by then. So mixing
is a permutation of the words, and since the counter goes in by steps of the same kinds, both the seed
and the generation can be told from a word and the other one of them.

So a branch draws every word once before its generation comes around, and branches of one generator
that are made for different words have different seeds.

Main result: `words_distinct`.
-/

namespace Wordsmith

namespace Draw

/-! ## The steps -/

/-- Bits that are moved three times are gone. -/
theorem shiftRight_thrice {shift : UInt64} (hshift : 64 ≤ 3 * (shift.toNat % 64)) (z : UInt64) :
    z >>> shift >>> shift >>> shift = 0 := by
  refine UInt64.toNat_inj.1 ?_
  rw [UInt64.toNat_shiftRight, UInt64.toNat_shiftRight, UInt64.toNat_shiftRight,
    ← Nat.shiftRight_add, ← Nat.shiftRight_add]
  refine Nat.shiftRight_eq_zero _ _ (Nat.lt_of_lt_of_le z.toNat_lt ?_)
  exact Nat.pow_le_pow_right (by decide) (by omega)

theorem xor_cancel_right (a b : UInt64) : a ^^^ b ^^^ b = a := by
  rw [UInt64.xor_assoc, UInt64.xor_self, UInt64.xor_zero]

/-- Folding the upper bits onto the lower ones. -/
def folding (shift : UInt64) (hshift : 64 ≤ 3 * (shift.toNat % 64)) : UInt64 ≃ UInt64 where
  toFun z := z ^^^ z >>> shift
  -- `z` moved once and `z` moved twice come in twice each, so only `z` moved thrice is left over
  invFun z := z ^^^ (z >>> shift ^^^ z >>> shift >>> shift)
  left_inv z := by
    dsimp only
    rw [UInt64.shiftRight_xor, UInt64.shiftRight_xor, shiftRight_thrice hshift, UInt64.xor_zero,
      xor_cancel_right, xor_cancel_right]
  right_inv z := by
    dsimp only
    rw [UInt64.shiftRight_xor, UInt64.shiftRight_xor, shiftRight_thrice hshift, UInt64.xor_zero,
      xor_cancel_right]

/-- Multiplying by a number that has an inverse. -/
def scaling (factor inverse : UInt64) (h : factor * inverse = 1) : UInt64 ≃ UInt64 where
  toFun z := z * factor
  invFun z := z * inverse
  left_inv z := by
    dsimp only
    rw [UInt64.mul_assoc, h, UInt64.mul_one]
  right_inv z := by
    dsimp only
    rw [UInt64.mul_assoc, UInt64.mul_comm inverse, h, UInt64.mul_one]

/-- Changing the bits that are set in a word. -/
def masking (mask : UInt64) : UInt64 ≃ UInt64 where
  toFun z := z ^^^ mask
  invFun z := z ^^^ mask
  left_inv z := xor_cancel_right z mask
  right_inv z := xor_cancel_right z mask

theorem masking_apply (mask z : UInt64) : masking mask z = z ^^^ mask := rfl

/-- Counting on. -/
def counting : UInt64 ≃ UInt64 where
  toFun z := z + 1
  invFun z := z - 1
  left_inv z := UInt64.add_sub_cancel z 1
  right_inv z := UInt64.sub_add_cancel z 1

/-! ## Words -/

/-- What is done to a seed once the counter is mixed in. -/
def mixing : UInt64 ≃ UInt64 :=
  (folding 30 (by decide)).trans <| (scaling 0xBF58476D1CE4E5B9 0x96DE1B173F119089 rfl).trans <|
  (folding 27 (by decide)).trans <| (scaling 0x94D049BB133111EB 0x319642B2D24D8EC3 rfl).trans <|
  folding 31 (by decide)

/-- What is done to the generation before it is mixed in. -/
def spreading : UInt64 ≃ UInt64 :=
  counting.trans (scaling 0x9E3779B97F4A7C15 0xF1DE83E19937733D rfl)

theorem word_eq_mixing (seed generation : UInt64) :
    word seed generation = mixing (seed ^^^ spreading generation) := rfl

/-- The words of a generation, by their seeds. -/
def ofSeeds (generation : UInt64) : UInt64 ≃ UInt64 := (masking (spreading generation)).trans mixing

/-- The words of a seed, by their generations. -/
def ofGenerations (seed : UInt64) : UInt64 ≃ UInt64 :=
  spreading.trans <| (masking seed).trans mixing

theorem coe_ofSeeds (generation : UInt64) :
    ofSeeds generation = fun seed => word seed generation := by
  funext seed
  rw [ofSeeds, Equiv.trans_apply, masking_apply, word_eq_mixing]

theorem coe_ofGenerations (seed : UInt64) : ofGenerations seed = word seed := by
  funext generation
  rw [ofGenerations, Equiv.trans_apply, Equiv.trans_apply, masking_apply, UInt64.xor_comm,
    word_eq_mixing]

theorem bijective_word_left (generation : UInt64) :
    Function.Bijective fun seed => word seed generation :=
  coe_ofSeeds generation ▸ (ofSeeds generation).bijective

theorem bijective_word (seed : UInt64) : Function.Bijective (word seed) :=
  coe_ofGenerations seed ▸ (ofGenerations seed).bijective

end Draw

namespace Generator

/-! ## Draws of one branch -/

/-- The generator after it has drawn a number of words. -/
def afterWords (g : Generator) : Nat → Generator
  | 0 => g
  | n + 1 => (g.afterWords n).next.2

/-- The word that a generator draws after it has drawn a number of them. -/
def drawn (g : Generator) (n : Nat) : UInt64 := (g.afterWords n).next.1

theorem afterWords_eq (g : Generator) (n : Nat) :
    g.afterWords n = g.setGeneration (g.generation + UInt64.ofNat n) := by
  induction n with
  | zero =>
    rw [afterWords, show UInt64.ofNat 0 = 0 from rfl, UInt64.add_zero]
    rfl
  | succ n ih =>
    rw [afterWords, ih, UInt64.ofNat_add, ← UInt64.add_assoc]
    rfl

theorem drawn_eq (g : Generator) (n : Nat) :
    g.drawn n = Draw.word g.seed (g.generation + UInt64.ofNat n) := by
  rw [drawn, afterWords_eq]
  rfl

/-- A word differs from all others of its seed and from all others of its generation, and each word
is one of them. So before its generations come around a branch draws no word twice, wherever it
starts, and what a generator branches into for different words or for names with different words has
different seeds. -/
theorem words_distinct :
    (∀ seed, Function.Bijective (Draw.word seed)) ∧
      (∀ generation, Function.Bijective fun seed => Draw.word seed generation) ∧
      (∀ g : Generator, Function.Injective fun n : Fin UInt64.size => g.drawn n) ∧
      ∀ g : Generator, (Function.Injective fun key => (g.branch key).seed) ∧
        ∀ a b, (g.branchNamed a).seed = (g.branchNamed b).seed ↔ Draw.keyWord a = Draw.keyWord b := by
  have hbranch : ∀ g : Generator, Function.Injective fun key => (g.branch key).seed := fun g =>
    (Draw.bijective_word_left g.seed).injective
  refine ⟨Draw.bijective_word, Draw.bijective_word_left, fun g m n hmn => ?_, fun g =>
    ⟨hbranch g, fun a b => (hbranch g).eq_iff⟩⟩
  -- equal words of one seed come from equal generations, and these are not around yet
  dsimp only at hmn
  rw [drawn_eq, drawn_eq] at hmn
  have hsame := (UInt64.add_right_inj _).1 ((Draw.bijective_word g.seed).injective hmn)
  have hnat := congrArg UInt64.toNat hsame
  rw [UInt64.toNat_ofNat_of_lt' m.isLt, UInt64.toNat_ofNat_of_lt' n.isLt] at hnat
  exact Fin.ext hnat

end Generator

end Wordsmith
