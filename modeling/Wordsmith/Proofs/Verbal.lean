import Mathlib.Algebra.Group.Nat.Defs
import Mathlib.Data.List.GetD
import Wordsmith.Numeral
import Wordsmith.Proofs.Parts

/-!
# Integers in words

An integer is cut into groups of three digits. The words of a group are those of its hundreds and of
what is left, and then the name of its power of a thousand, so no two integers have the same words:
a reader who adds up what the words stand for is told the integer again.

The reader keeps two sums, of the groups that are over and of the one that is not. A word for a
number is added to the second sum, the word for a hundred multiplies it, and the name of a power
ends the group. So the words of a text lead from one pair of sums to another, and texts with a blank
between them lead from the first pair to the last.

Main result: `NumberFormat.verbal_read_back`.
-/

namespace Wordsmith

open Text

namespace Numeral

/-! ## What numbers are called -/

/-- The text is what a number below a hundred is called, but for zero. All words are looked up at
places that are in the tables. -/
inductive CallsBelowHundred : Nat → String → Prop
  | small {n : Nat} (hpos : 0 < n) (hn : n < ones.length) : CallsBelowHundred n ones[n]
  | tens {d : Nat} (hd : 2 ≤ d) (htens : d < tens.length) : CallsBelowHundred (10 * d) tens[d]
  | compound {d u : Nat} (hd : 2 ≤ d) (htens : d < tens.length) (hpos : 0 < u) (hu : u < 10)
    (hones : u < ones.length) : CallsBelowHundred (10 * d + u) (tens[d] ++ "-" ++ ones[u])

/-- The text is what a number below a thousand is called, but for zero. -/
inductive CallsBelowThousand : Nat → String → Prop
  | belowHundred {n : Nat} {text : String} (h : CallsBelowHundred n text) :
      CallsBelowThousand n text
  | hundreds {d : Nat} (hpos : 0 < d) (hd : d < 10) (hones : d < ones.length) :
      CallsBelowThousand (100 * d) (ones[d] ++ " hundred")
  | more {d n : Nat} {text : String} (hpos : 0 < d) (hd : d < 10) (hones : d < ones.length)
      (h : CallsBelowHundred n text) :
      CallsBelowThousand (100 * d + n) (ones[d] ++ " hundred " ++ text)

/-- The text is what a group is called: a number below a thousand, and the name of the power of a
thousand that it is multiplied with, unless that is one. -/
inductive CallsGroup : Nat × Nat → String → Prop
  | units {n : Nat} {text : String} (h : CallsBelowThousand n text) : CallsGroup (n, 0) text
  | scaled {n scale : Nat} {text : String} (h : CallsBelowThousand n text) (hpos : 0 < scale)
      (hscale : scale < scales.length) : CallsGroup (n, scale) (text ++ " " ++ scales[scale])

/-- The sum of the groups. -/
def groupSum (gs : List (Nat × Nat)) : Nat := total (gs.map fun g => g.1 * 1000 ^ g.2)

variable {n : Nat} {text text' : String} {s t u : Nat × Nat}

/-! ## The words of a number -/

theorem callsBelowHundred_words (hpos : 0 < n) (hn : n < 100) :
    CallsBelowHundred n (wordsBelowHundred n) := by
  have hones : ones.length = 20 := rfl
  have htens : tens.length = 10 := rfl
  unfold wordsBelowHundred
  split
  · next hsmall =>
    rw [List.getD_eq_getElem ones "" (by omega)]
    exact .small hpos _
  · next hlarge =>
    obtain ⟨d, u, hu, rfl⟩ : ∃ d u, u < 10 ∧ n = 10 * d + u :=
      ⟨n / 10, n % 10, Nat.mod_lt n (by decide), (Nat.div_add_mod n 10).symm⟩
    have hdiv : (10 * d + u) / 10 = d := by omega
    have hmod : (10 * d + u) % 10 = u := by omega
    rw [hdiv, hmod, List.getD_eq_getElem tens "" (by omega)]
    split
    · next hround =>
      subst hround
      exact .tens (by omega) _
    · next hunits =>
      rw [List.getD_eq_getElem ones "" (by omega)]
      exact .compound (by omega) _ (Nat.pos_of_ne_zero hunits) hu _

theorem callsBelowThousand_words (hpos : 0 < n) (hn : n < 1000) :
    CallsBelowThousand n (wordsBelowThousand n) := by
  have hones : ones.length = 20 := rfl
  obtain ⟨d, r, hr, rfl⟩ : ∃ d r, r < 100 ∧ n = 100 * d + r :=
    ⟨n / 100, n % 100, Nat.mod_lt n (by decide), (Nat.div_add_mod n 100).symm⟩
  have hdiv : (100 * d + r) / 100 = d := by omega
  have hmod : (100 * d + r) % 100 = r := by omega
  rw [wordsBelowThousand, hdiv, hmod]
  rcases Nat.eq_zero_or_pos d with rfl | hd
  · have hrest : CallsBelowHundred r (wordsBelowHundred r) :=
      callsBelowHundred_words (by omega) hr
    have hr' : r ≠ 0 := by omega
    simpa [hr', Nat.not_le.2 hr] using CallsBelowThousand.belowHundred hrest
  · rw [if_pos (by omega), List.getD_eq_getElem ones "" (by omega)]
    rcases Nat.eq_zero_or_pos r with rfl | hr'
    · simpa using CallsBelowThousand.hundreds hd (by omega) (by omega)
    · have hrest := callsBelowHundred_words hr' hr
      have hcalls := CallsBelowThousand.more hd (by omega) (by omega) hrest
      rw [if_neg (by omega), List.singleton_append, String.intercalate_cons_cons,
        String.intercalate_singleton]
      simpa [String.append_assoc] using hcalls

/-! ## The groups of a number -/

theorem mem_groups {scale : Nat} {g : Nat × Nat} (hg : g ∈ groups n scale) :
    0 < g.1 ∧ g.1 < 1000 ∧ scale ≤ g.2 := by
  fun_induction groups n scale with
  | case1 => cases hg
  | case2 n scale hn ih =>
    rcases List.mem_append.1 hg with hg | hg
    · obtain ⟨hpos, hlt, hle⟩ := ih hg
      exact ⟨hpos, hlt, Nat.le_of_succ_le hle⟩
    · split at hg
      · cases hg
      · next hne =>
        rw [List.mem_singleton.1 hg]
        exact ⟨Nat.pos_of_ne_zero hne, Nat.mod_lt n (by decide), Nat.le_refl scale⟩

/-- Among so many powers of a thousand, the number has its groups. -/
theorem scale_lt_of_mem_groups {scale powers : Nat} (hn : n < 1000 ^ powers) {g : Nat × Nat}
    (hg : g ∈ groups n scale) : g.2 < scale + powers := by
  fun_induction groups n scale generalizing powers with
  | case1 => cases hg
  | case2 n scale hne ih =>
    cases powers with
    | zero => omega
    | succ powers =>
      rcases List.mem_append.1 hg with hg | hg
      · have hlt := ih (Nat.div_lt_of_lt_mul (by rwa [Nat.mul_comm, ← Nat.pow_succ])) hg
        omega
      · split at hg
        · cases hg
        · rw [List.mem_singleton.1 hg]
          exact Nat.lt_add_of_pos_right (Nat.succ_pos powers)

/-- The powers of the groups descend. -/
theorem pairwise_groups (n scale : Nat) : (groups n scale).Pairwise fun g h => h.2 < g.2 := by
  fun_induction groups n scale with
  | case1 => exact .nil
  | case2 n scale hn ih =>
    refine List.pairwise_append.2 ⟨ih, ?_, fun g hg h hh => ?_⟩
    · split <;> simp
    · split at hh
      · cases hh
      · rw [List.mem_singleton.1 hh]
        exact (mem_groups hg).2.2

theorem groupSum_append (gs hs : List (Nat × Nat)) :
    groupSum (gs ++ hs) = groupSum gs + groupSum hs := by
  simp [groupSum]

/-- The groups make up the number. -/
theorem groupSum_groups (n scale : Nat) : groupSum (groups n scale) = n * 1000 ^ scale := by
  fun_induction groups n scale with
  | case1 => simp [groupSum]
  | case2 n scale hn ih =>
    have hlast : groupSum (if n % 1000 = 0 then [] else [(n % 1000, scale)]) =
        n % 1000 * 1000 ^ scale := by
      split
      · next hzero => simp [groupSum, hzero]
      · simp [groupSum]
    rw [groupSum_append, ih, hlast, Nat.pow_succ, Nat.mul_comm (1000 ^ scale), ← Nat.mul_assoc,
      ← Nat.add_mul, Nat.mul_comm (n / 1000), Nat.div_add_mod]

theorem callsGroup_words {g : Nat × Nat} (hpos : 0 < g.1) (hlt : g.1 < 1000)
    (hscale : g.2 < scales.length) : CallsGroup g (groupWords g) := by
  obtain ⟨n, scale⟩ := g
  have hcalls := callsBelowThousand_words hpos hlt
  unfold groupWords
  split
  · next hzero =>
    obtain rfl : scale = 0 := hzero
    exact .units hcalls
  · next hne =>
    rw [List.getD_eq_getElem scales "" hscale]
    exact .scaled hcalls (Nat.pos_of_ne_zero hne) hscale

/-! ## Reading words -/

/-- The number that a word without a hyphen stands for. -/
def simpleValue (word : List Char) : Nat :=
  let text := String.ofList word
  if text ∈ ones then ones.idxOf text else 10 * tens.idxOf text

/-- The number that a word stands for: what its parts stand for, between the hyphens. -/
def wordValue (word : List Char) : Nat := total ((pieces '-' word).map simpleValue)

/-- The sum of the groups that are over, and of the one that is not, with a further word. -/
def tally (sums : Nat × Nat) (word : List Char) : Nat × Nat :=
  let text := String.ofList word
  if text = "hundred" then (sums.1, 100 * sums.2)
  else if text ∈ scales then (sums.1 + sums.2 * 1000 ^ scales.idxOf text, 0)
  else (sums.1, sums.2 + wordValue word)

/-- The number that words without a sign stand for. -/
def ofUnsignedWords (ws : List (List Char)) : Nat :=
  let sums := ws.foldl tally (0, 0)
  sums.1 + sums.2

/-- The integer that words stand for. -/
def ofWords (text : String) : Int :=
  match pieces ' ' text.toList with
  | [] => 0
  | w :: ws => if w = "negative".toList then -ofUnsignedWords ws else ofUnsignedWords (w :: ws)

/-- The words of the text lead a reader from some sums to others. No sign is among them. -/
structure Tells (text : String) (s t : Nat × Nat) : Prop where
  exists_words : ∃ w ws, text.toList = List.intercalate [' '] (w :: ws) ∧
    (∀ v ∈ w :: ws, ' ' ∉ v) ∧ w ≠ "negative".toList ∧ (w :: ws).foldl tally s = t

theorem Tells.word {w : String} (hblank : ' ' ∉ w.toList) (hsign : w ≠ "negative") (s : Nat × Nat) :
    Tells w s (tally s w.toList) :=
  ⟨w.toList, [], List.intercalate_singleton.symm, List.forall_mem_singleton.2 hblank,
    fun h => hsign (String.toList_inj.1 h), rfl⟩

theorem Tells.append (h : Tells text s t) (h' : Tells text' t u) :
    Tells (text ++ " " ++ text') s u := by
  obtain ⟨w, ws, htext, hblanks, hsign, hfold⟩ := h.exists_words
  obtain ⟨w', ws', htext', hblanks', -, hfold'⟩ := h'.exists_words
  refine ⟨w, ws ++ w' :: ws', ?_, ?_, hsign, ?_⟩
  · rw [← List.cons_append, intercalate_append (List.cons_ne_nil _ _) (List.cons_ne_nil _ _),
      ← htext, ← htext', String.toList_append, String.toList_append]
    rfl
  · rw [← List.cons_append]
    exact List.forall_mem_append.2 ⟨hblanks, hblanks'⟩
  · rw [← List.cons_append, List.foldl_append, hfold, hfold']

/-- The word is read as a number and not as anything else. -/
def IsNumberWord (word : String) : Prop :=
  ' ' ∉ word.toList ∧ word ≠ "negative" ∧ word ≠ "hundred" ∧ word ∉ scales

instance (word : String) : Decidable (IsNumberWord word) := inferInstanceAs (Decidable (_ ∧ _))

/-- The word is read as a number, and is not put together from others. -/
def IsSimpleWord (word : String) : Prop := IsNumberWord word ∧ '-' ∉ word.toList

instance (word : String) : Decidable (IsSimpleWord word) := inferInstanceAs (Decidable (_ ∧ _))

theorem IsNumberWord.tells {w : String} (h : IsNumberWord w) (hn : wordValue w.toList = n)
    (s : Nat × Nat) : Tells w s (s.1, s.2 + n) := by
  obtain ⟨hblank, hsign, hhundred, hscale⟩ := h
  have htally : tally s w.toList = (s.1, s.2 + n) := by
    simp only [tally, String.ofList_toList, if_neg hhundred, if_neg hscale, hn]
  exact htally ▸ .word hblank hsign s

/-! ### The words of the tables -/

theorem ones_isSimpleWord :
    ∀ n : Fin ones.length, IsSimpleWord ones[n] ∧ simpleValue ones[n].toList = n := by
  decide

theorem tens_isSimpleWord :
    ∀ d : Fin tens.length, 2 ≤ d.val →
      IsSimpleWord tens[d] ∧ simpleValue tens[d].toList = 10 * d := by
  decide

/-- The words that are read in a way of their own have no hyphen. -/
theorem hyphen_notMem_others : ∀ v ∈ "negative" :: "hundred" :: scales, '-' ∉ v.toList := by
  decide

theorem IsSimpleWord.tells {w : String} (h : IsSimpleWord w) (hn : simpleValue w.toList = n)
    (s : Nat × Nat) : Tells w s (s.1, s.2 + n) := by
  refine h.1.tells ?_ s
  rw [wordValue, pieces_of_notMem h.2]
  exact hn

/-- Two words with a hyphen between them are read as the sum. -/
theorem IsSimpleWord.tells_join {w w' : String} (h : IsSimpleWord w) (h' : IsSimpleWord w')
    (hm : simpleValue w.toList = m) (hn : simpleValue w'.toList = n) (s : Nat × Nat) :
    Tells (w ++ "-" ++ w') s (s.1, s.2 + (m + n)) := by
  have htext : (w ++ "-" ++ w').toList = w.toList ++ '-' :: w'.toList := by
    rw [String.append_assoc, String.toList_append, String.toList_append]
    rfl
  have hother (v : String) (hv : v ∈ "negative" :: "hundred" :: scales) :
      w ++ "-" ++ w' ≠ v := by
    rintro rfl
    refine hyphen_notMem_others _ hv ?_
    rw [htext]
    exact List.mem_append_right _ List.mem_cons_self
  have hword : IsNumberWord (w ++ "-" ++ w') := by
    refine ⟨?_, hother _ List.mem_cons_self, hother _ (.tail _ List.mem_cons_self),
      fun hscale => hother _ (.tail _ (.tail _ hscale)) rfl⟩
    rw [htext]
    exact List.not_mem_append h.1.1 (List.not_mem_cons_of_ne_of_not_mem (by decide) h'.1.1)
  refine hword.tells ?_ s
  rw [wordValue, htext, pieces_append h.2, pieces_of_notMem h'.2, ← hm, ← hn]
  rfl

/-- The name of a power is no other word, and stands at one place of the table. -/
theorem scales_isScaleWord :
    ∀ k : Fin scales.length, 0 < k.val → ' ' ∉ scales[k].toList ∧ scales[k] ≠ "negative" ∧
      scales[k] ≠ "hundred" ∧ scales.idxOf scales[k] = k := by
  decide

/-! ### What the words tell -/

theorem tells_small (hn : n < ones.length) (s : Nat × Nat) : Tells ones[n] s (s.1, s.2 + n) := by
  obtain ⟨hword, hvalue⟩ := ones_isSimpleWord ⟨n, hn⟩
  exact hword.tells hvalue s

theorem tells_belowHundred (h : CallsBelowHundred n text) (s : Nat × Nat) :
    Tells text s (s.1, s.2 + n) := by
  cases h with
  | small _ hn => exact tells_small hn s
  | @tens d hd htens =>
    obtain ⟨hword, hvalue⟩ := tens_isSimpleWord ⟨d, htens⟩ hd
    exact hword.tells hvalue s
  | @compound d u hd htens hpos hu hones =>
    obtain ⟨hword, hvalue⟩ := tens_isSimpleWord ⟨d, htens⟩ hd
    obtain ⟨hword', hvalue'⟩ := ones_isSimpleWord ⟨u, hones⟩
    exact hword.tells_join hword' hvalue hvalue' s

/-- The word for a hundred multiplies what is told before it. -/
theorem tells_hundreds {d : Nat} (hones : d < ones.length) (sum : Nat) :
    Tells (ones[d] ++ " hundred") (sum, 0) (sum, 100 * d) := by
  have hword : Tells "hundred" (sum, 0 + d) (sum, 100 * (0 + d)) :=
    .word (by decide) (by decide) (sum, 0 + d)
  have htells := (tells_small hones (sum, 0)).append hword
  rwa [String.append_assoc, Nat.zero_add] at htells

theorem tells_belowThousand (h : CallsBelowThousand n text) (sum : Nat) :
    Tells text (sum, 0) (sum, n) := by
  cases h with
  | belowHundred h => exact Nat.zero_add n ▸ tells_belowHundred h (sum, 0)
  | hundreds _ _ hones => exact tells_hundreds hones sum
  | more _ _ hones h =>
    have htells := (tells_hundreds hones sum).append (tells_belowHundred h _)
    rw [String.append_assoc, String.append_assoc] at htells
    rw [String.append_assoc]
    exact htells

/-- What a group is called tells a reader the group, and other groups may follow unless it is the
last. -/
theorem tells_group {g : Nat × Nat} (h : CallsGroup g text) (sum : Nat) :
    ∃ t, Tells text (sum, 0) t ∧ t.1 + t.2 = sum + g.1 * 1000 ^ g.2 ∧ (0 < g.2 → t.2 = 0) := by
  cases h with
  | @units n text h =>
    exact ⟨(sum, n), tells_belowThousand h sum, by simp, fun hpos => absurd hpos (Nat.lt_irrefl 0)⟩
  | @scaled n scale text h hpos hscale =>
    obtain ⟨hblank, hsign, hhundred, hplace⟩ := scales_isScaleWord ⟨scale, hscale⟩ hpos
    have htally : tally (sum, n) scales[scale].toList = (sum + n * 1000 ^ scale, 0) := by
      have hmem : scales[scale] ∈ scales := List.getElem_mem hscale
      have hhundred : scales[scale] ≠ "hundred" := hhundred
      have hplace : scales.idxOf scales[scale] = scale := hplace
      simp only [tally, String.ofList_toList, if_neg hhundred, if_pos hmem, hplace]
    exact ⟨_, (tells_belowThousand h sum).append (.word hblank hsign _), by simp [htally],
      fun _ => by simp [htally]⟩

/-- What groups with descending powers are called tells a reader all of them. -/
theorem tells_groups {gs : List (Nat × Nat)} {texts : List String}
    (h : List.Forall₂ CallsGroup gs texts) (hne : gs ≠ [])
    (hdescend : gs.Pairwise fun g h => h.2 < g.2) (sum : Nat) :
    ∃ t, Tells (" ".intercalate texts) (sum, 0) t ∧ t.1 + t.2 = sum + groupSum gs := by
  induction h generalizing sum with
  | nil => exact absurd rfl hne
  | @cons g text gs texts hg hgs ih =>
    obtain ⟨hfirst, hdescend⟩ := List.pairwise_cons.1 hdescend
    obtain ⟨t, htells, hsum, hover⟩ := tells_group hg sum
    cases hgs with
    | nil =>
      refine ⟨t, ?_, by simpa [groupSum] using hsum⟩
      rwa [String.intercalate_singleton]
    | @cons g' text' gs texts hg' hgs =>
      -- The power of the first group is not the smallest, so the group is over.
      have hzero := hover (Nat.zero_lt_of_lt (hfirst g' List.mem_cons_self))
      obtain ⟨u, htells', hsum'⟩ := ih (List.cons_ne_nil _ _) hdescend t.1
      have ht : (t.1, 0) = t := Prod.ext rfl hzero.symm
      rw [ht] at htells'
      refine ⟨u, ?_, ?_⟩
      · rw [String.intercalate_cons_cons]
        exact htells.append htells'
      · have hcons : groupSum (g :: g' :: gs) = g.1 * 1000 ^ g.2 + groupSum (g' :: gs) := rfl
        omega

/-! ## Integers -/

/-- A text that tells a number is read as the number, or with a sign in front as the opposite. -/
theorem ofWords_of_tells {t : Nat × Nat} (h : Tells text (0, 0) t) :
    ofWords text = (t.1 + t.2 : Nat) ∧ ofWords ("negative " ++ text) = -(t.1 + t.2 : Nat) := by
  obtain ⟨w, ws, htext, hblanks, hsign, hfold⟩ := h.exists_words
  have hvalue : ofUnsignedWords (w :: ws) = t.1 + t.2 := by rw [ofUnsignedWords, hfold]
  constructor
  · rw [ofWords, htext, pieces_intercalate (List.cons_ne_nil _ _) hblanks]
    simp only [if_neg hsign, hvalue]
  · have hsigned : ("negative " ++ text).toList =
        List.intercalate [' '] ("negative".toList :: w :: ws) := by
      rw [List.intercalate_cons_cons, ← htext, String.toList_append]
      rfl
    rw [ofWords, hsigned, pieces_intercalate (List.cons_ne_nil _ _)
      (List.forall_mem_cons.2 ⟨by decide, hblanks⟩)]
    simp only [if_true, hvalue]

theorem groups_ne_nil (hn : n ≠ 0) (scale : Nat) : groups n scale ≠ [] := by
  intro hnil
  have hsum := groupSum_groups n scale
  rw [hnil] at hsum
  have hzero : n * 1000 ^ scale = 0 := hsum.symm
  exact hn ((Nat.mul_eq_zero.1 hzero).resolve_right (Nat.pow_pos (by decide)).ne')

/-- The powers of a thousand with names reach as far as integers of 64 bits. -/
theorem forall₂_groupWords (hn : n ≤ halfWordSize) :
    List.Forall₂ CallsGroup (groups n 0) ((groups n 0).map groupWords) := by
  refine List.forall₂_map_right_iff.2 (List.forall₂_same.2 fun g hg => ?_)
  obtain ⟨hpos, hlt, -⟩ := mem_groups hg
  have hbound : halfWordSize < 1000 ^ scales.length := by decide
  have hscale := scale_lt_of_mem_groups (Nat.lt_of_le_of_lt hn hbound) hg
  exact callsGroup_words hpos hlt (by rwa [Nat.zero_add] at hscale)

theorem words_of_ne_zero {n : Int} (hn : n ≠ 0) :
    words n = (if n < 0 then "negative " else "") ++
      " ".intercalate ((groups n.natAbs 0).map groupWords) := by
  rw [words, if_neg hn]
  split
  · rfl
  · exact String.empty_append.symm

theorem ofWords_words {n : Int} (hlow : -(halfWordSize : Int) ≤ n) (hhigh : n < halfWordSize) :
    ofWords (words n) = n := by
  rcases eq_or_ne n 0 with rfl | hn
  · decide
  · have hcalls := forall₂_groupWords (n := n.natAbs) (by omega)
    obtain ⟨t, htells, hsum⟩ := tells_groups hcalls (groups_ne_nil (Int.natAbs_ne_zero.2 hn) 0)
      (pairwise_groups n.natAbs 0) 0
    rw [groupSum_groups, Nat.pow_zero, Nat.mul_one, Nat.zero_add] at hsum
    obtain ⟨hread, hsigned⟩ := ofWords_of_tells htells
    rw [words_of_ne_zero hn]
    split
    · rw [hsigned]
      omega
    · rw [String.empty_append, hread]
      omega

end Numeral

open Numeral

/-- Integers of 64 bits are written in words that can be read back: zero is zero, and any other is
called by its groups, the powers descending, with a sign in front if it is negative. -/
theorem NumberFormat.verbal_read_back {n : Int} (hlow : -(halfWordSize : Int) ≤ n)
    (hhigh : n < halfWordSize) :
    (n = 0 → NumberFormat.verbal.write n = "zero") ∧
    (n ≠ 0 → ∃ (gs : List (Nat × Nat)) (texts : List String), NumberFormat.verbal.write n =
        (if n < 0 then "negative " else "") ++ " ".intercalate texts ∧
      List.Forall₂ CallsGroup gs texts ∧ (gs.Pairwise fun g h => h.2 < g.2) ∧
      (∀ g ∈ gs, 1 ≤ g.1 ∧ g.1 ≤ 999) ∧ groupSum gs = n.natAbs) ∧
    ofWords (NumberFormat.verbal.write n) = n ∧
    ∀ m : Int, -(halfWordSize : Int) ≤ m → m < halfWordSize →
      NumberFormat.verbal.write m = NumberFormat.verbal.write n → m = n := by
  refine ⟨fun hzero => by rw [hzero]; rfl, fun hn => ?_, ofWords_words hlow hhigh,
    fun m hlow' hhigh' hsame => ?_⟩
  · refine ⟨groups n.natAbs 0, (groups n.natAbs 0).map groupWords, words_of_ne_zero hn,
      forall₂_groupWords (by omega), pairwise_groups n.natAbs 0, fun g hg => ?_, ?_⟩
    · obtain ⟨hpos, hlt, -⟩ := mem_groups hg
      exact ⟨hpos, Nat.le_of_lt_succ hlt⟩
    · rw [groupSum_groups, Nat.pow_zero, Nat.mul_one]
  · have hsame : words m = words n := hsame
    rw [← ofWords_words hlow hhigh, ← hsame, ofWords_words hlow' hhigh']

/-- The smallest integer of 64 bits has the words of all its groups, though its magnitude is not
itself one. -/
theorem NumberFormat.verbal_read_back_smallest :
    NumberFormat.verbal.write (-9223372036854775808) =
        "negative nine quintillion two hundred twenty-three quadrillion " ++
          "three hundred seventy-two trillion thirty-six billion " ++
          "eight hundred fifty-four million seven hundred seventy-five thousand " ++
          "eight hundred eight" ∧
      ofWords (NumberFormat.verbal.write (-9223372036854775808)) = -9223372036854775808 :=
  ⟨by decide +kernel,
    (NumberFormat.verbal_read_back (n := -9223372036854775808) (by decide) (by decide)).2.2.1⟩

end Wordsmith
