import Wordsmith.Proofs.Articles
import Wordsmith.Proofs.Growth

/-!
# Text in capitals

In upper case nothing that is printed can be raised any more: the capitals of a letter are capitals of
their own. For the tables this is one comparison of two sets, the code points that upper case
changes and those that it puts in their place. A set of code points is written as the bits of a
number, so that the comparison is a single conjunction (`raised_and_raisable`).

An article is the exception. It is printed as one capital letter, and when it is printed anew that
letter is all that tells its case: *A* becomes *An*, as it does at the beginning of a sentence. So
the text of a channel that has been in upper case from the beginning is in capitals but for the *n*
of its articles.

Main result: `capitals_but_articles`.
-/

namespace Wordsmith

open Text

/-! ## Sets of code points -/

namespace Text

/-- The code points of a stride. -/
def Stride.codes (s : Stride) : List Nat :=
  (List.range ((s.last - s.first) / s.step + 1)).map fun k => s.first + s.step * k

theorem Stride.mem_codes {s : Stride} {n : Nat} (h : s.holds n = true) : n ∈ s.codes := by
  simp only [holds, Bool.and_eq_true, decide_eq_true_eq, beq_iff_eq] at h
  obtain ⟨⟨hfirst, hlast⟩, hstep⟩ := h
  refine List.mem_map.2 ⟨(n - s.first) / s.step, List.mem_range.2 ?_, ?_⟩
  · exact Nat.lt_succ_of_le (Nat.div_le_div_right (by omega))
  · have := Nat.mod_add_div (n - s.first) s.step
    omega

/-- The number that has a bit for each code point. -/
def bits (codes : List Nat) : Nat := codes.foldr (fun n set => set ||| 1 <<< n) 0

theorem testBit_bits {codes : List Nat} {n : Nat} (h : n ∈ codes) : (bits codes).testBit n := by
  induction codes with
  | nil => cases h
  | cons m codes ih =>
    rw [bits, List.foldr_cons, ← bits, Nat.testBit_or, Bool.or_eq_true]
    rcases List.mem_cons.1 h with rfl | h
    · exact .inr (by simp [Nat.testBit_shiftLeft])
    · exact .inl (ih h)

/-- Numbers without a bit in common stand for sets without a code point in common. -/
theorem notMem_of_bits {as bs : List Nat} (h : bits as &&& bits bs = 0) {n : Nat} (ha : n ∈ as) :
    n ∉ bs := by
  intro hb
  have hboth : (bits as &&& bits bs).testBit n = true := by
    rw [Nat.testBit_and, testBit_bits ha, testBit_bits hb]
    rfl
  rw [h, Nat.zero_testBit] at hboth
  cases hboth

/-! ## Upper case -/

namespace LetterCase

/-- The code points that upper case changes. -/
def raisable : List Nat := upperShifts.flatMap (·.codes.codes) ++ upperExpansions.map (·.1)

/-- The code points that upper case puts in their place, and the one that stands for none. -/
def raised : List Nat :=
  0 :: (upperShifts.flatMap fun s => s.codes.codes.map fun n : Nat => (n + s.distance).toNat) ++
    upperExpansions.flatMap (·.2)

theorem raised_and_raisable : bits raised &&& bits raisable = 0 := by decide +kernel

theorem distance?_mem {shifts : List Shift} {n : Nat} {d : Int} (h : distance? shifts n = some d) :
    ∃ s ∈ shifts, s.codes.holds n = true ∧ s.distance = d := by
  induction shifts with
  | nil => cases h
  | cons s shifts ih =>
    simp only [distance?] at h
    split at h
    · cases h
    · split at h
      · next hholds => exact ⟨s, List.mem_cons_self, hholds, Option.some.inj h⟩
      · obtain ⟨t, ht, hfound⟩ := ih h
        exact ⟨t, List.mem_cons_of_mem _ ht, hfound⟩

end LetterCase

open LetterCase

theorem upperOf_eq_self {c : Char} (h : c.toNat ∉ raisable) : upperOf c = [c] := by
  rw [raisable, List.mem_append, not_or] at h
  obtain ⟨hshifts, hexpansions⟩ := h
  have hexpansion : expansion? upperExpansions c.toNat = none :=
    Option.eq_none_iff_forall_ne_some.2 fun codes hcodes =>
      hexpansions (List.mem_map.2 ⟨_, expansion?_mem hcodes, rfl⟩)
  have hdistance : distance? upperShifts c.toNat = none :=
    Option.eq_none_iff_forall_ne_some.2 fun d hd => by
      obtain ⟨s, hs, hholds, -⟩ := distance?_mem hd
      exact hshifts (List.mem_flatMap.2 ⟨s, hs, Stride.mem_codes hholds⟩)
  simp [upperOf, shifted, hexpansion, hdistance]

/-- A code point that is none of a character stands for the null character. -/
theorem upperOf_ofNat {n : Nat} (h : n ∈ raised) : upperOf (Char.ofNat n) = [Char.ofNat n] := by
  refine upperOf_eq_self (notMem_of_bits raised_and_raisable ?_)
  by_cases hvalid : n.isValidChar
  · rwa [Char.ofNat, dif_pos hvalid]
  · rw [Char.ofNat, dif_neg hvalid]
    exact List.mem_cons_self

/-- Capitals have no other capitals. -/
theorem upperOf_of_mem {c d : Char} (h : d ∈ upperOf c) : upperOf d = [d] := by
  unfold upperOf at h
  split at h
  · next codes hcodes =>
    obtain ⟨n, hn, rfl⟩ := List.mem_map.1 h
    refine upperOf_ofNat (List.mem_append_right _ ?_)
    exact List.mem_flatMap.2 ⟨_, expansion?_mem hcodes, hn⟩
  · next hexpansion =>
    cases hdistance : distance? upperShifts c.toNat with
    | none =>
      simp only [shifted, hdistance, List.mem_singleton] at h
      simp [h, upperOf, shifted, hexpansion, hdistance]
    | some distance =>
      simp only [shifted, hdistance, List.mem_singleton] at h
      obtain ⟨s, hs, hholds, rfl⟩ := distance?_mem hdistance
      rw [h]
      refine upperOf_ofNat (List.mem_append_left _ (List.mem_cons_of_mem _ ?_))
      exact List.mem_flatMap.2 ⟨s, hs, List.mem_map.2 ⟨_, Stride.mem_codes hholds, rfl⟩⟩

/-- A text is in capitals if no character of it has others. -/
theorem upper_eq_self_iff {cs : List Char} : upper cs = cs ↔ ∀ c ∈ cs, upperOf c = [c] := by
  induction cs with
  | nil => simp [upper]
  | cons c cs ih =>
    have hcons : upper (c :: cs) = upperOf c ++ upper cs := List.flatMap_cons
    rw [hcons, List.forall_mem_cons, ← ih]
    constructor
    · intro h
      -- no capital is empty, so each takes the place of one character
      have hc := length_upperOf_pos c
      have hcs := length_le_upper cs
      have hlength := congrArg List.length h
      rw [List.length_append, List.length_cons] at hlength
      obtain ⟨d, hd⟩ := List.length_eq_one_iff.1 (by omega : (upperOf c).length = 1)
      rw [hd, List.singleton_append, List.cons.injEq] at h
      exact ⟨hd.trans (congrArg ([·]) h.1), h.2⟩
    · rintro ⟨hc, hcs⟩
      rw [hc, hcs, List.singleton_append]

/-- A text in upper case is in capitals. -/
theorem upperOf_of_mem_upper {cs : List Char} {d : Char} (h : d ∈ upper cs) : upperOf d = [d] := by
  obtain ⟨c, -, hc⟩ := List.mem_flatMap.1 h
  exact upperOf_of_mem hc

theorem uppered_eq_self_iff {s : String} : uppered s = s ↔ ∀ c ∈ s.toList, upperOf c = [c] := by
  rw [← upper_eq_self_iff, uppered, ← String.toList_inj, String.toList_ofList]

end Text

/-! ## Channels in upper case -/

namespace Channel

variable {c : Channel}

/-- What is printed at the end of a channel. -/
inductive Print where
  | text (s : String)
  | article

/-- The channel behind what is printed. -/
def Print.apply (c : Channel) : Print → Channel
  | .text s => c.write s
  | .article => c.writeArticle

/-- A new channel in upper case, behind what is printed. -/
def inUpperCase (name : String) (visibility : Visibility) (prints : List Print) : Channel :=
  prints.foldl Print.apply ((empty name visibility).setMode .upper)

/-- The mode is upper case, every article has its capital, and all other chunks are in capitals. -/
structure Raised (c : Channel) : Prop extends c.Orderly where
  mode_eq : c.cursor.mode = .upper
  owes : ∀ i ∈ c.articles, c.Owes true i
  plain : ∀ j, (∀ i ∈ c.articles, j ≠ i - 1) → ∀ a ∈ (c.chunk j).toList, upperOf a = [a]

theorem apply_of_upper {k : CaseCursor} (h : k.mode = .upper) (text : String) :
    k.apply text = (uppered text, { k with last? := text.toList.getLast?.or k.last? }) := by
  simp [CaseCursor.apply, CaseCursor.convert, h, uppered]

theorem raised_empty (name : String) (visibility : Visibility) :
    ((empty name visibility).setMode .upper).Raised where
  toOrderly := (orderly_empty name visibility).operate (.setMode .upper)
  mode_eq := rfl
  owes := nofun
  plain j _ := by
    cases j <;> simp [chunk, setMode, empty]

namespace Raised

theorem write (h : c.Raised) (text : String) : (c.write text).Raised := by
  obtain ⟨_, _, -, hwrite⟩ := c.write_eq text
  have happly := apply_of_upper h.mode_eq text
  have harticles : (c.write text).articles = c.articles := by rw [hwrite]
  refine ⟨h.toOrderly.operate (.write text), ?_, fun i hi => ?_, fun j hj a ha => ?_⟩
  · rw [hwrite, happly]
    exact h.mode_eq
  · exact (h.owes i (harticles ▸ hi)).write h.toOrderly text
  · rw [harticles] at hj
    have hchunk := h.toOrderly.chunk_write text (j := j) fun hdue => by
      have hcell := hj c.current hdue
      omega
    rw [hchunk, happly] at ha
    split at ha
    · rw [String.toList_append, List.mem_append] at ha
      rcases ha with ha | ha
      · exact h.plain j hj a ha
      · rw [uppered, String.toList_ofList] at ha
        exact upperOf_of_mem_upper ha
    · exact h.plain j hj a ha

theorem writeArticle (h : c.Raised) : c.writeArticle.Raised := by
  have happly := apply_of_upper h.mode_eq "a"
  have hA : uppered "a" = "A" := by decide +kernel
  have hprinted : (c.cursor.apply "a").1 = Article.spelled true false := by
    rw [happly, hA]
    rfl
  refine ⟨h.toOrderly.operate .writeArticle, ?_, fun i hi => ?_, fun j hj a ha => ?_⟩
  · have hcursor : c.writeArticle.cursor = (c.cursor.apply "a").2 := rfl
    rw [hcursor, happly]
    exact h.mode_eq
  · rw [writeArticle_articles, List.mem_cons] at hi
    rcases hi with rfl | hi
    · exact owes_writeArticle hprinted
    · exact (h.owes i hi).operate h.toOrderly .writeArticle
  · simp only [writeArticle_articles, List.forall_mem_cons, Nat.add_sub_cancel] at hj
    rw [chunk_writeArticle, if_neg hj.1] at ha
    exact h.plain j hj.2 a ha

theorem inUpperCase (name : String) (visibility : Visibility) (prints : List Print) :
    (inUpperCase name visibility prints).Raised := by
  refine List.foldlRecOn prints Print.apply (raised_empty name visibility) fun c h print _ => ?_
  cases print with
  | text s => exact h.write s
  | article => exact h.writeArticle

end Raised

theorem mem_value {a : Char} : a ∈ c.value.toList ↔ ∃ j, a ∈ (c.chunk j).toList := by
  rw [value, String.toList_join, List.mem_flatMap]
  constructor
  · rintro ⟨text, htext, ha⟩
    obtain ⟨j, hj⟩ := List.mem_iff_getElem?.1 htext
    exact ⟨j, by rwa [chunk_eq, hj, Option.getD_some]⟩
  · rintro ⟨j, ha⟩
    rw [chunk_eq] at ha
    cases hj : c.chunks.toList[j]? with
    | none => simp [hj] at ha
    | some text => exact ⟨text, List.mem_of_getElem? hj, by simpa [hj] using ha⟩

/-- Whatever is printed in upper case, all text that is no article is in capitals, and every article
is *An* or *A*, as the word behind it takes it. So upper case leaves the whole text as it is
exactly if no word in it takes *an*. -/
theorem capitals_but_articles (name : String) (visibility : Visibility) (prints : List Print) :
    let c := inUpperCase name visibility prints
    (∀ j, (∀ i ∈ c.articles, j ≠ i - 1) → uppered (c.chunk j) = c.chunk j) ∧
      (∀ i ∈ c.articles, c.chunk (i - 1) =
        if Article.isVowelDue (c.chunk i) then "An" else "A") ∧
      (uppered c.value = c.value ↔
        ∀ i ∈ c.articles, Article.isVowelDue (c.chunk i) = false) := by
  intro c
  have h : c.Raised := .inUpperCase name visibility prints
  have hform : ∀ i ∈ c.articles, c.chunk (i - 1) =
      if Article.isVowelDue (c.chunk i) then "An" else "A" := fun i hi => by
    rw [(h.owes i hi).form, Article.owed]
    cases Article.isVowelDue (c.chunk i) <;> rfl
  have hA : uppered "A" = "A" := by decide +kernel
  have hAn : uppered "An" ≠ "An" := by decide +kernel
  refine ⟨fun j hj => uppered_eq_self_iff.2 (h.plain j hj), hform, ?_⟩
  rw [uppered_eq_self_iff]
  constructor
  · intro hvalue i hi
    cases hdue : Article.isVowelDue (c.chunk i) with
    | false => rfl
    | true =>
      have harticle := hform i hi
      rw [hdue, if_pos rfl] at harticle
      refine absurd (uppered_eq_self_iff.2 fun a ha => hvalue a ?_) hAn
      exact mem_value.2 ⟨i - 1, harticle ▸ ha⟩
  · intro hnone a ha
    obtain ⟨j, ha⟩ := mem_value.1 ha
    by_cases hj : ∃ i ∈ c.articles, j = i - 1
    · obtain ⟨i, hi, rfl⟩ := hj
      rw [hform i hi, hnone i hi, if_neg Bool.false_ne_true] at ha
      exact uppered_eq_self_iff.1 hA a ha
    · exact h.plain j (fun i hi heq => hj ⟨i, hi, heq⟩) a ha

/-- An owl in capitals has an article with a small letter. -/
theorem article_in_capitals :
    let c := inUpperCase "main" .public [.article, .text " owl"]
    c.value = "An OWL" ∧ uppered c.value ≠ c.value := by decide +kernel

end Channel

end Wordsmith
