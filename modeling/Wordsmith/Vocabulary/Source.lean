import Wordsmith.Vocabulary.Basic

/-!
# Sources of words

A run asks for words and does not see where they come from. A source gets the generator and the
memory of the carriers along with a query, and may change both, also if it finds nothing.
Vocabularies are sources.
-/

namespace Wordsmith

theorem Table.below_pick {t : Table} {q : Query} {g g' : Generator} {m : CarrierMemory} {entry : Nat}
    (h : t.pick q g m = .ok (entry, g')) : g'.below = g.below := by
  unfold pick at h
  split at h
  · cases h
    rfl
  · split at h
    · cases h
    · cases h
      rfl

theorem Vocabulary.below_find {v : Vocabulary} {q : Query} {g g' : Generator} {c c' : CarrierMemory}
    {word : String} (h : v.find q g c = .ok (word, g', c')) : g'.below = g.below := by
  unfold find at h
  split at h
  · cases h
  · split at h
    · cases h
    · split at h
      · cases h
      · next hpick =>
        cases h
        exact Table.below_pick hpick

/-- Something that answers queries. It may draw, but the branches of the generator are for patterns
to open and to merge. -/
structure WordSource where
  answer : Query → Generator → CarrierMemory →
    Except QueryError String × Generator × CarrierMemory
  below_answer : ∀ q g m, (answer q g m).2.1.below = g.below

/-- The source that knows no table. -/
def WordSource.empty : WordSource where
  answer q g m := (.error (.unknownTable q.name), g, m)
  below_answer _ _ _ := rfl

namespace Vocabulary

/-- The answer to a query, with what it leaves of the generator and of the memory. -/
def answer (v : Vocabulary) (q : Query) (g : Generator) (m : CarrierMemory) :
    Except QueryError String × Generator × CarrierMemory :=
  match v.find q g m with
  | .ok (word, g, m) => (.ok word, g, m)
  | .error e => (.error e, g, m)

theorem below_answer (v : Vocabulary) (q : Query) (g : Generator) (m : CarrierMemory) :
    (v.answer q g m).2.1.below = g.below := by
  unfold answer
  split
  · next hfind => exact below_find hfind
  · rfl

/-- A vocabulary as a source. -/
def source (v : Vocabulary) : WordSource := ⟨v.answer, v.below_answer⟩

instance : Coe Vocabulary WordSource := ⟨source⟩

end Vocabulary

end Wordsmith
