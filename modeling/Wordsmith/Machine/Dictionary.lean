/-!
# Dictionary order on short lists

Lists are ordered as words are in a dictionary: by their first items, if these differ, and by what
follows, if not; the end comes before everything. Below a list there can be ever longer lists, so
this order has infinite descents. It has none if the lists have no more than a fixed number of items
and the order of the items has none.
-/

namespace Wordsmith.Dictionary

variable {α : Type} {r : α → α → Prop} {n : Nat}

/-- A list of at most `n` items comes before another in the dictionary order. -/
def Before (r : α → α → Prop) (n : Nat) (a b : List α) : Prop := List.Lex r a b ∧ a.length ≤ n

theorem acc_nil : Acc (Before r n) [] := ⟨_, fun _ h => nomatch h.1⟩

theorem acc_of_length_le (hr : WellFounded r) (l : List α) (hl : l.length ≤ n) :
    Acc (Before r n) l := by
  induction n generalizing l with
  | zero =>
    rw [List.length_eq_zero_iff.1 (Nat.le_zero.1 hl)]
    exact acc_nil
  | succ n ih =>
    have cons : ∀ (a : α) (l : List α), l.length ≤ n → Acc (Before r (n + 1)) (a :: l) := by
      intro a
      induction a using hr.induction with
      | _ a iha =>
        intro l hl
        induction ih l hl with
        | intro l _ ihl =>
          refine ⟨_, fun y ⟨hlex, hy⟩ => ?_⟩
          cases hlex with
          | nil => exact acc_nil
          | rel h => exact iha _ h _ (by simpa using hy)
          | cons h => exact ihl _ ⟨h, by simpa using hy⟩ (by simpa using hy)
    cases l with
    | nil => exact acc_nil
    | cons a l => exact cons a l (by simpa using hl)

/-- The order has no infinite descent. -/
theorem wellFounded_before (hr : WellFounded r) (n : Nat) : WellFounded (Before r n) :=
  ⟨fun _ => ⟨_, fun y h => acc_of_length_le hr y h.2⟩⟩

/-- Lists that begin with items none of which comes later are compared by the rest, if not earlier. -/
theorem lex_map_append {β : Type} {f g : β → α} {l : List β} {t u : List α}
    (hl : ∀ b ∈ l, f b = g b ∨ r (f b) (g b)) (h : List.Lex r t u) :
    List.Lex r (l.map f ++ t) (l.map g ++ u) := by
  induction l with
  | nil => exact h
  | cons b l ih =>
    obtain ⟨hb, hl⟩ := List.forall_mem_cons.1 hl
    rcases hb with hb | hb
    · rw [List.map_cons, List.map_cons, hb]
      exact .cons (ih hl)
    · exact .rel hb

theorem lex_map_of_ne_nil {β : Type} {f g : β → α} {l : List β} {u : List α}
    (hl : ∀ b ∈ l, f b = g b ∨ r (f b) (g b)) (hu : u ≠ []) :
    List.Lex r (l.map f) (l.map g ++ u) := by
  obtain ⟨a, u, rfl⟩ := List.exists_cons_of_ne_nil hu
  have h := lex_map_append hl (List.Lex.nil (a := a) (l := u))
  rwa [List.append_nil] at h

end Wordsmith.Dictionary
