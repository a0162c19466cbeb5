/-!
# What a success ensures

Most of what a machine does can fail. A condition on the result is stated of the computation: it
holds of whatever the computation ends with if it succeeds. Such statements go through a sequence
of computations like the computations themselves.
-/

namespace Wordsmith

variable {ε α β : Type}

/-- If the computation succeeds, its result fulfils the condition. -/
structure Ensures (x : Except ε α) (P : α → Prop) : Prop where
  of_ok : ∀ a, x = .ok a → P a

namespace Ensures

variable {P Q : α → Prop}

theorem ok {a : α} (h : P a) : Ensures (.ok a : Except ε α) P := ⟨fun b hb => by
  cases hb
  exact h⟩

theorem pure {a : α} (h : P a) : Ensures (Pure.pure a : Except ε α) P := ok h

theorem error {e : ε} : Ensures (.error e : Except ε α) P := ⟨fun _ h => nomatch h⟩

theorem throw {e : ε} : Ensures (MonadExcept.throw e : Except ε α) P := error

theorem weaken {x : Except ε α} (h : Ensures x P) (hPQ : ∀ a, P a → Q a) : Ensures x Q :=
  ⟨fun a ha => hPQ a (h.of_ok a ha)⟩

theorem bind {R : β → Prop} {x : Except ε α} {f : α → Except ε β} (hx : Ensures x P)
    (hf : ∀ a, P a → Ensures (f a) R) : Ensures (x >>= f) R := by
  refine ⟨fun b hb => ?_⟩
  cases x with
  | error => cases hb
  | ok a => exact (hf a (hx.of_ok a rfl)).of_ok b hb

theorem ite {c : Prop} [Decidable c] {x y : Except ε α} (hx : c → Ensures x P)
    (hy : ¬c → Ensures y P) : Ensures (if c then x else y) P := by
  split
  · exact hx ‹_›
  · exact hy ‹_›

/-- What holds at first and is kept by every item holds at the end. -/
theorem foldlM {f : α → β → Except ε α} (hf : ∀ a b, P a → Ensures (f a b) P) (l : List β)
    {a : α} (ha : P a) : Ensures (l.foldlM f a) P := by
  induction l generalizing a with
  | nil => exact pure ha
  | cons b l ih => exact (hf a b ha).bind fun _ => ih

end Ensures

end Wordsmith
