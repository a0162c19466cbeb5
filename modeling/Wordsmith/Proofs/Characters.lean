import Wordsmith.Proofs.Integers

/-!
# Characters drawn from a set

Every draw from a set of characters takes one word and finds a code point in one of the ranges. What
is printed are the characters with these code points, one for each draw. A range may reach across
the surrogates, which are code points without a character; a draw that falls on one of them prints
nothing. So there are as many characters as draws just if no draw does, which is certain for a set
without surrogates.

Main result: `Tag.characters_drawn`.
-/

namespace Wordsmith

open Text

/-- A code point that is kept for pairs of UTF-16, and is no character. -/
def IsSurrogate (code : Nat) : Prop := 0xD800 ≤ code ∧ code ≤ 0xDFFF

instance (code : Nat) : Decidable (IsSurrogate code) :=
  inferInstanceAs (Decidable (0xD800 ≤ code ∧ code ≤ 0xDFFF))

theorem Text.charOfCode?_eq_none_iff {code : Nat} (h : code < 0x110000) :
    charOfCode? code = none ↔ IsSurrogate code := by
  have hnone : charOfCode? code = none ↔ ¬code.isValidChar := by
    rw [charOfCode?]
    exact dite_eq_right_iff.trans (forall_congr' fun _ => iff_false_intro nofun)
  rw [hnone, Nat.isValidChar, IsSurrogate]
  omega

theorem Text.toNat_of_charOfCode? {code : Nat} {c : Char} (h : charOfCode? code = some c) :
    c.toNat = code := by
  rw [charOfCode?, Option.dite_none_right_eq_some] at h
  obtain ⟨_, hchar⟩ := h
  cases hchar
  rfl

namespace CodeRange

variable {ranges : List CodeRange} {n : Nat}

/-- The range holds the code point. -/
def Holds (r : CodeRange) (code : Nat) : Prop := r.first ≤ code ∧ code ≤ r.last

/-- At every place of the ranges there is a code point that one of them holds. -/
theorem exists_pick?_eq (h : n < total (ranges.map (·.size))) :
    ∃ code, pick? ranges n = some code ∧ ∃ r ∈ ranges, r.Holds code := by
  induction ranges generalizing n with
  | nil => exact absurd h (Nat.not_lt_zero n)
  | cons r rest ih =>
    rw [pick?]
    split
    · next hn =>
      unfold size at hn
      exact ⟨r.first + n, rfl, r, List.mem_cons_self, Nat.le_add_right _ _, by omega⟩
    · next hn =>
      rw [List.map_cons, total_cons] at h
      obtain ⟨code, hcode, r', hr', hholds⟩ := ih (n := n - r.size) (by omega)
      exact ⟨code, hcode, r', List.mem_cons_of_mem r hr', hholds⟩

end CodeRange

namespace CharacterSet

variable {s : CharacterSet} {g : Generator}

/-- Ranges that are read end where they begin or behind it, and at a character. -/
theorem of_rangesOf? {cs : List Char} {ranges : List CodeRange} (h : rangesOf? cs = some ranges) :
    ∀ r ∈ ranges, r.first ≤ r.last ∧ r.last < 0x110000 := by
  have hbound : ∀ c : Char, c.toNat < 0x110000 := fun c => by
    rcases c.valid with hvalid | hvalid
    · exact Nat.lt_trans hvalid (by decide)
    · exact hvalid.2
  fun_induction rangesOf? cs generalizing ranges with
  | case1 =>
    cases h
    simp
  | case2 => cases h
  | case3 a b rest hle ih =>
    obtain ⟨others, hothers, rfl⟩ := Option.map_eq_some_iff.1 h
    exact List.forall_mem_cons.2 ⟨⟨Char.not_lt.1 hle, hbound b⟩, ih hothers⟩
  | case4 c rest _ ih =>
    obtain ⟨others, hothers, rfl⟩ := Option.map_eq_some_iff.1 h
    exact List.forall_mem_cons.2 ⟨⟨Nat.le_refl _, hbound c⟩, ih hothers⟩

theorem of_ofText? {text : String} (h : ofText? text = some s) :
    0 < s.size ∧ ∀ r ∈ s.ranges, r.last < 0x110000 := by
  unfold ofText? at h
  split at h
  · cases h
  · cases h
  · next r rest hranges =>
    cases h
    have hread := of_rangesOf? hranges
    refine ⟨?_, fun r hr => (hread r hr).2⟩
    have hfirst := (hread r List.mem_cons_self).1
    rw [size, List.map_cons, total_cons, CodeRange.size]
    omega

/-- The code point that a word falls on. -/
def code (s : CharacterSet) (w : UInt64) : Nat :=
  (CodeRange.pick? s.ranges (w.toNat % s.size)).getD 0

/-- The code points that a number of draws fall on. -/
def codes (s : CharacterSet) (n : Nat) (g : Generator) : List Nat :=
  (List.range n).map fun i => s.code (g.drawn i)

/-- A word falls on a code point that one of the ranges holds. -/
theorem pick?_eq_code (hs : 0 < s.size) (w : UInt64) :
    CodeRange.pick? s.ranges (w.toNat % s.size) = some (s.code w) ∧
      ∃ r ∈ s.ranges, r.Holds (s.code w) := by
  obtain ⟨code, hcode, hholds⟩ := CodeRange.exists_pick?_eq (Nat.mod_lt w.toNat hs)
  have hpick : CodeRange.pick? s.ranges (w.toNat % s.size) = some code := hcode
  rw [CharacterSet.code, hpick]
  exact ⟨rfl, hholds⟩

theorem draw_eq (hs : 0 < s.size) (g : Generator) :
    s.draw g = (charOfCode? (s.code g.next.1), g.next.2) :=
  congrArg (fun code : Option Nat => (code.bind charOfCode?, g.next.2)) (pick?_eq_code hs g.next.1).1

/-- The words of a generator that has drawn one are the others. -/
theorem codes_succ (n : Nat) (g : Generator) :
    s.codes (n + 1) g = s.code g.next.1 :: s.codes n g.next.2 := by
  have hdrawn : ∀ i, g.drawn (i + 1) = g.next.2.drawn i := fun i => by
    rw [Generator.drawn_eq, Generator.drawn_eq, Nat.add_comm, UInt64.ofNat_add, ← UInt64.add_assoc]
    rfl
  rw [codes, List.range_succ_eq_map, List.map_cons, List.map_map]
  exact congrArg _ (List.map_congr_left fun i _ => congrArg s.code (hdrawn i))

theorem afterWords_succ (n : Nat) (g : Generator) : g.next.2.afterWords n = g.afterWords (n + 1) := by
  rw [Generator.afterWords_eq, Generator.afterWords_eq, Nat.add_comm n 1, UInt64.ofNat_add,
    ← UInt64.add_assoc]
  rfl

/-- What is drawn are the characters that the draws fall on, and every draw takes a word. -/
theorem drawOnto_eq (hs : 0 < s.size) (n : Nat) (g : Generator) (drawn : List Char) :
    s.drawOnto n g drawn =
      (((s.codes n g).filterMap charOfCode?).reverse ++ drawn, g.afterWords n) := by
  induction n generalizing g drawn with
  | zero => rfl
  | succ n ih =>
    rw [drawOnto, draw_eq hs]
    dsimp only
    rw [ih, codes_succ, afterWords_succ]
    cases hchar : charOfCode? (s.code g.next.1) <;> simp [hchar]

theorem drawMany_eq (hs : 0 < s.size) (n : Nat) (g : Generator) :
    s.drawMany n g = (.ofList ((s.codes n g).filterMap charOfCode?), g.afterWords n) := by
  rw [drawMany, drawOnto_eq hs]
  dsimp only
  rw [List.append_nil, List.reverse_reverse]

theorem length_codes (s : CharacterSet) (n : Nat) (g : Generator) : (s.codes n g).length = n := by
  rw [codes, List.length_map, List.length_range]

theorem exists_holds_of_mem_codes (hs : 0 < s.size) {n code : Nat} (h : code ∈ s.codes n g) :
    ∃ r ∈ s.ranges, r.Holds code := by
  obtain ⟨i, -, rfl⟩ := List.mem_map.1 h
  exact (pick?_eq_code hs (g.drawn i)).2

end CharacterSet

/-- Code points become characters but for the surrogates. -/
theorem Text.map_filterMap_charOfCode? {codes : List Nat} (h : ∀ code ∈ codes, code < 0x110000) :
    (codes.filterMap charOfCode?).map (·.toNat) = codes.filter fun code => ¬IsSurrogate code := by
  induction codes with
  | nil => rfl
  | cons code codes ih =>
    obtain ⟨hcode, hcodes⟩ := List.forall_mem_cons.1 h
    have hnone := charOfCode?_eq_none_iff hcode
    cases hchar : charOfCode? code with
    | none => simp [hchar, ih hcodes, hnone.1 hchar]
    | some c =>
      have hvalid : ¬IsSurrogate code := fun hsurrogate => by
        rw [hnone.2 hsurrogate] at hchar
        cases hchar
      simp [hchar, ih hcodes, hvalid, toNat_of_charOfCode? hchar]

/-- The scene after a number of words were drawn. -/
def Scene.afterWords (scene : Scene) (n : Nat) : Scene :=
  { scene with registers :=
    { scene.registers with generator := scene.registers.generator.afterWords n } }

/-- The tag draws as many words as it is told and prints the characters with the code points that
they fall on. Each of these lies in one of the ranges of the set. Only draws that fall on surrogates
print nothing, so from ranges without surrogates there are as many characters as the tag is told. -/
theorem Tag.characters_drawn {c : Call} {set : CharacterSet} {n : Nat}
    (hset : CharacterSet.ofText? (c.text 0) = some set)
    (hcount : Text.integer? (c.text 1) = some (n : Int)) :
    (∀ (s : Setting) (source : String) (scene : Scene),
      (Tag.characters.perform s source c).run scene =
        (do Act.print (set.drawMany n scene.registers.generator).1
            return .stay : Act Next).run (scene.afterWords n)) ∧
    ∀ g : Generator, (∀ x ∈ (set.drawMany n g).1.toList, ∃ r ∈ set.ranges, r.Holds x.toNat) ∧
      (set.drawMany n g).1.toList.map (·.toNat) =
        (set.codes n g).filter (fun code => ¬IsSurrogate code) ∧
      (set.drawMany n g).1.length + (set.codes n g).countP (fun code => IsSurrogate code) = n ∧
      ((∀ r ∈ set.ranges, ∀ code, r.Holds code → ¬IsSurrogate code) →
        (set.drawMany n g).1.length = n) := by
  obtain ⟨hsize, hlast⟩ := CharacterSet.of_ofText? hset
  refine ⟨fun s source scene => ?_, fun g => ?_⟩
  · rw [Tag.perform, Call.printCountedCharacters, Call.integer_of_eq hcount, pure_bind,
      if_neg (Int.not_lt.2 (Int.natCast_nonneg n)), Int.toNat_natCast, Call.printCharacters, hset]
    dsimp only
    rw [bind_assoc, Act.run_draw_bind, CharacterSet.drawMany_eq hsize]
    rfl
  · have hholds : ∀ code ∈ set.codes n g, ∃ r ∈ set.ranges, r.Holds code := fun code hcode =>
      CharacterSet.exists_holds_of_mem_codes hsize hcode
    have hcodes : ∀ code ∈ set.codes n g, code < 0x110000 := fun code hcode => by
      obtain ⟨r, hr, -, hle⟩ := hholds code hcode
      exact Nat.lt_of_le_of_lt hle (hlast r hr)
    have hprinted : (set.drawMany n g).1.toList.map (·.toNat) =
        (set.codes n g).filter fun code => ¬IsSurrogate code := by
      rw [CharacterSet.drawMany_eq hsize, String.toList_ofList, Text.map_filterMap_charOfCode? hcodes]
    have hlength := set.length_codes n g
    have htotal : (set.drawMany n g).1.length +
        (set.codes n g).countP (fun code => IsSurrogate code) = n := by
      have hprintedLength := congrArg List.length hprinted
      have hparts := List.length_eq_countP_add_countP (fun code => decide (IsSurrogate code))
        (l := set.codes n g)
      rw [List.length_map, String.length_toList, ← List.countP_eq_length_filter] at hprintedLength
      simp only [decide_eq_true_eq] at hparts
      omega
    refine ⟨fun x hx => ?_, hprinted, htotal, fun hclear => ?_⟩
    · have hcode := List.mem_map_of_mem (f := (·.toNat)) hx
      rw [hprinted] at hcode
      exact hholds _ (List.mem_filter.1 hcode).1
    · have hnone : (set.codes n g).countP (fun code => IsSurrogate code) = 0 :=
        List.countP_eq_zero.2 fun code hcode => by
          obtain ⟨r, hr, hcode⟩ := hholds code hcode
          simpa using hclear r hr code hcode
      omega

/-- Ranges that overlap, touch and hold a single character: there are as many characters as the tag
is told, whatever the generator is. -/
theorem Tag.characters_drawn_overlapping :
    CharacterSet.ofText? (Call.text ⟨"char", [.text "a-cb-d-x", .text "5"]⟩ 0) =
      some ⟨[⟨97, 99⟩, ⟨98, 100⟩, ⟨45, 45⟩, ⟨120, 120⟩]⟩ ∧
    Text.integer? (Call.text ⟨"char", [.text "a-cb-d-x", .text "5"]⟩ 1) = some ((5 : Nat) : Int) ∧
    ∀ g, (CharacterSet.drawMany ⟨[⟨97, 99⟩, ⟨98, 100⟩, ⟨45, 45⟩, ⟨120, 120⟩]⟩ 5 g).1.length = 5 := by
  have hset : CharacterSet.ofText? (Call.text ⟨"char", [.text "a-cb-d-x", .text "5"]⟩ 0) =
      some ⟨[⟨97, 99⟩, ⟨98, 100⟩, ⟨45, 45⟩, ⟨120, 120⟩]⟩ := by decide +kernel
  have hcount : Text.integer? (Call.text ⟨"char", [.text "a-cb-d-x", .text "5"]⟩ 1) =
      some ((5 : Nat) : Int) := by decide +kernel
  refine ⟨hset, hcount, fun g => ?_⟩
  obtain ⟨-, -, -, hlength⟩ := (Tag.characters_drawn hset hcount).2 g
  refine hlength fun r hr code ⟨_, hle⟩ ⟨hlow, _⟩ => ?_
  have hbelow : ∀ r ∈ [CodeRange.mk 97 99, ⟨98, 100⟩, ⟨45, 45⟩, ⟨120, 120⟩], r.last < 0xD800 := by
    decide
  exact absurd (Nat.le_trans hlow hle) (Nat.not_le.2 (hbelow r hr))

/-- Of three draws from a range that reaches across the surrogates, none prints a character. -/
theorem Engine.surrogates_skipped :
    ((build .standard .empty .empty).runSource "skipped" "[len:[char:\ud7ff-\ue000;3]]"
      (.ofSeed 42)).1 = .ok ⟨[("main", "0")]⟩ :=
  runSource_eq_of_after (n := 20) (by decide +kernel)

end Wordsmith
