import Wordsmith.Proofs.Reach

/-!
# What the stacks hold

Registers that unwind along a schedule hold neither more nor less than what its actions take back:
as many tables of arguments as there are calls to be left, as many comparisons as there are to be
forgotten, a match for each that is to be left and not yet entered, and the repeaters in the very
order in which they are going to be gone on with, each with the frame that its block is in.

Main result: `Engine.stacks_balance`, the stacks of a run hold this at any time, and nothing at its
end.
-/

namespace Wordsmith

namespace Deferred

/-- Whether the action forgets the arguments of a subroutine. -/
def dropsArguments : Deferred → Bool
  | dropArguments => true
  | _ => false

/-- Whether the action forgets a comparison. -/
def dropsComparison : Deferred → Bool
  | finish .dropComparison => true
  | _ => false

/-- Whether the action begins the code for a match. -/
def entersMatch : Deferred → Bool
  | enterMatch _ => true
  | _ => false

/-- Whether the action ends the code for a match. -/
def leavesMatch : Deferred → Bool
  | leaveMatch => true
  | _ => false

/-- The repeater that the action goes on with. -/
def iterated? : Deferred → Option Nat
  | iterate id => some id
  | _ => none

end Deferred

namespace Registers

/-- The stacks hold what the actions of a schedule take back. -/
structure Balances (r : Registers) (l : List (Nat × Deferred)) : Prop where
  arguments : r.arguments.length = l.countP (·.2.dropsArguments)
  comparisons : r.comparisons.length = l.countP (·.2.dropsComparison)
  /-- A match is on its stack between the action that begins its code and the one that ends it. -/
  matched : r.matched.length + l.countP (·.2.entersMatch) = l.countP (·.2.leavesMatch)
  /-- Each repeater is there once, with the frame in which it is gone on with. -/
  repeaters : r.repeaters.map (fun x => (x.base, x.id)) =
    l.filterMap fun p => p.2.iterated?.map (p.1, ·)
  nodup : (r.repeaters.map (·.id)).Nodup

theorem Idle.balances {r : Registers} (h : r.Idle) : r.Balances [] := by
  obtain ⟨hrepeaters, hcomparisons, harguments, hmatched⟩ := h
  refine ⟨?_, ?_, ?_, ?_, ?_⟩
  · rw [harguments, List.length_nil, List.countP_nil]
  · rw [hcomparisons, List.length_nil, List.countP_nil]
  · rw [hmatched, List.length_nil, List.countP_nil, List.countP_nil]
  · rw [hrepeaters, List.map_nil, List.filterMap_nil]
  · rw [hrepeaters]
    exact .nil

/-- The innermost repeater goes, and the others stay. -/
theorem Balances.iterate {r : Registers} {base id : Nat} {l : List (Nat × Deferred)}
    (hfits : (Deferred.iterate id).Fits r base) (h : (r.removeRepeater id).Balances l) :
    r.Balances ((base, .iterate id) :: l) := by
  obtain ⟨size, places, hplaces, hothers⟩ := hfits
  obtain ⟨x, others, hrepeaters, hx, hrest⟩ := List.map_eq_cons_iff.1 hplaces
  have hid : x.id = id := congrArg Repeater.Place.id hx
  have hbase : x.base = base := congrArg Repeater.Place.base hx
  have hdiffer : ∀ y ∈ others, y.id ≠ id := fun y hy =>
    hothers y.place (hrest ▸ List.mem_map_of_mem hy)
  have hremoved : (r.removeRepeater id).repeaters = others := by
    show r.repeaters.filter (·.id != id) = others
    rw [hrepeaters, List.filter_cons_of_neg (by simp [hid])]
    exact List.filter_eq_self.2 fun y hy => by simpa using hdiffer y hy
  obtain ⟨harguments, hcomparisons, hmatched, hiterated, hnodup⟩ := h
  rw [hremoved] at hiterated hnodup
  refine ⟨harguments, hcomparisons, hmatched, ?_, ?_⟩
  · rw [hrepeaters, List.map_cons, hiterated, hid, hbase]
    rfl
  · rw [hrepeaters, List.map_cons, List.nodup_cons, hid]
    refine ⟨fun hmem => ?_, hnodup⟩
    obtain ⟨y, hy, hsame⟩ := List.mem_map.1 hmem
    exact hdiffer y hy hsame

/-- A separator that ends takes no repeater away. -/
theorem Balances.restore {r : Registers} {base id : Nat} {l : List (Nat × Deferred)}
    (h : (r.modifyRepeater id (·.restore)).Balances l) :
    r.Balances ((base, .restore id) :: l) := by
  have hplaces : (r.modifyRepeater id (·.restore)).places = r.places :=
    (r.alike_modifyRepeater id Repeater.place_restore).places
  have hsame : ∀ {α : Type} (f : Repeater.Place → α),
      (r.modifyRepeater id (·.restore)).repeaters.map (fun x => f x.place) =
        r.repeaters.map fun x => f x.place := by
    intro α f
    have hmap := congrArg (List.map f) hplaces
    rwa [places, places, List.map_map, List.map_map] at hmap
  obtain ⟨harguments, hcomparisons, hmatched, hiterated, hnodup⟩ := h
  refine ⟨harguments, hcomparisons, hmatched, ?_, ?_⟩
  · exact (hsame fun p => (p.base, p.id)).symm.trans hiterated
  · exact hsame (·.id) ▸ hnodup

/-- An action more on the schedule, and what it takes back more on the stacks. -/
theorem Balances.cons {r : Registers} {base : Nat} {action : Deferred} {l : List (Nat × Deferred)}
    (hfits : action.Fits r base) (h : (r.undo action).Balances l) :
    r.Balances ((base, action) :: l) := by
  cases action with
  | iterate id => exact .iterate hfits h
  | restore id => exact .restore h
  | dropArguments =>
    obtain ⟨harguments, hcomparisons, hmatched, hiterated, hnodup⟩ := h
    refine ⟨?_, hcomparisons, hmatched, hiterated, hnodup⟩
    have hpos : 0 < r.arguments.length := hfits
    have hrest : r.arguments.length - 1 = l.countP (·.2.dropsArguments) := by
      rw [← harguments, Registers.undo, List.length_tail]
    rw [List.countP_cons_of_pos (by rfl), ← hrest]
    omega
  | finish q =>
    cases q with
    | dropComparison =>
      obtain ⟨harguments, hcomparisons, hmatched, hiterated, hnodup⟩ := h
      refine ⟨harguments, ?_, hmatched, hiterated, hnodup⟩
      have hpos : 0 < r.comparisons.length := hfits
      have hrest : r.comparisons.length - 1 = l.countP (·.2.dropsComparison) := by
        rw [← hcomparisons, Registers.undo, List.length_tail]
      rw [List.countP_cons_of_pos (by rfl), ← hrest]
      omega
    | merge => exact ⟨h.arguments, h.comparisons, h.matched, h.repeaters, h.nodup⟩
    | ifNothing | ifAnything =>
      exact ⟨h.arguments, h.comparisons, h.matched, h.repeaters, h.nodup⟩
  | enterMatch m =>
    obtain ⟨harguments, hcomparisons, hmatched, hiterated, hnodup⟩ := h
    refine ⟨harguments, hcomparisons, ?_, hiterated, hnodup⟩
    have hrest : r.matched.length + 1 + l.countP (·.2.entersMatch) =
        l.countP (·.2.leavesMatch) := hmatched
    rw [List.countP_cons_of_pos (by rfl), List.countP_cons_of_neg (by simp [Deferred.leavesMatch])]
    omega
  | leaveMatch =>
    obtain ⟨harguments, hcomparisons, hmatched, hiterated, hnodup⟩ := h
    refine ⟨harguments, hcomparisons, ?_, hiterated, hnodup⟩
    have hpos : 0 < r.matched.length := hfits
    have hrest : r.matched.length - 1 + l.countP (·.2.entersMatch) =
        l.countP (·.2.leavesMatch) := by
      rw [← hmatched, Registers.undo, List.length_tail]
    rw [List.countP_cons_of_neg (by simp [Deferred.entersMatch]), List.countP_cons_of_pos (by rfl)]
    omega
  | _ => exact ⟨h.arguments, h.comparisons, h.matched, h.repeaters, h.nodup⟩

theorem Unwinds.balances {r : Registers} {l : List (Nat × Deferred)} (h : r.Unwinds l) :
    r.Balances l := by
  induction l generalizing r with
  | nil => exact Idle.balances h
  | cons p l ih => exact .cons h.1 (ih h.2)

end Registers

namespace Engine

variable {e : Engine} {p : Pattern} {g : Generator}

/-- Whatever a run has come to, its stacks hold what the pending actions take back; so when it has
succeeded, they are empty. -/
theorem stacks_balance (e : Engine) (p : Pattern) (g : Generator) :
    (∀ m, e.Reaches p g m → m.registers.Balances (schedule m.frames)) ∧
      ∀ output, (e.run p g).1 = .ok output →
        ∃ m, e.Reaches p g m ∧ m.Ends (.ok output) ∧ m.registers.Idle := by
  refine ⟨fun m hm => hm.coherent.unwinds.balances, fun output hok => ?_⟩
  obtain ⟨m, hm, hframes, houtput⟩ := reaches_of_run_ok hok
  refine ⟨m, hm, .inl ⟨hframes, congrArg _ houtput⟩, ?_⟩
  have hunwinds : m.registers.Unwinds (schedule m.frames) := hm.coherent.unwinds
  rw [hframes] at hunwinds
  exact hunwinds

/-- A pattern with a block. -/
def block : Pattern where
  name := "block"
  code := "\x7bab\x7d"
  tokens := #[⟨.leftCurly, "\x7b", ⟨1, 1, 0⟩⟩, ⟨.text, "ab", ⟨1, 2, 1⟩⟩,
    ⟨.rightCurly, "\x7d", ⟨1, 4, 3⟩⟩]
  tokenize_code := by with_unfolding_all rfl

/-- In its block, the stack of a run holds the repeater that is pending. -/
theorem stacks_balance_block : ∃ e g m, Reaches e block g m ∧ m.registers.repeaters.length = 1 ∧
    m.registers.Balances (schedule m.frames) := by
  let e : Engine := .build .standard .empty .empty
  have hafter : ((e.start block (.ofSeed 0)).bind (Machine.after 3)).toOption.map
      (·.registers.repeaters.length) = some 1 := by decide +kernel
  obtain ⟨m, hm, hone⟩ := exists_reaches_of_after hafter
  exact ⟨e, .ofSeed 0, m, hm, hone, (stacks_balance e block (.ofSeed 0)).1 m hm⟩

end Engine

end Wordsmith
