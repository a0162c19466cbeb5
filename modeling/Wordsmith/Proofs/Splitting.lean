import Wordsmith.Proofs.Articles

/-!
# Texts in pieces

A pattern prints its output token by token, and where a token ends must not be seen in the text. Two
texts written one after the other leave a channel as their concatenation does: its chunks, its cursor
and its length are the same.

For the letter case, each mode is a transducer, and the cursor is its state: what stood last, whether
a sentence is about to begin, and, by the mode itself, whether the one letter of `first` is done. So
each mode is shown to work on a concatenation as it does on the first text and then, from the state
behind that, on the second (`CaseCursor.apply_append`). Two modes look ahead, and the next text cannot
be seen from the end of the last: the small letter of a capital sigma depends on whether a word goes
on, and a title asks for the whole word before it prints its first letter. A text is not to be cut
there (`CaseCursor.Splits`).

For the article, nothing needs to be composed. However often it was printed anew on the way, it is
the one owed to the text behind it (`Owes`), and that text is the same.

Main result: `write_write`.
-/

namespace Wordsmith

open Text

/-! ## Letter case of a concatenation -/

namespace Text

theorem upper_append (s t : List Char) : upper (s ++ t) = upper s ++ upper t :=
  List.flatMap_append

/-- Without a capital sigma, lower case is a matter of each character by itself. -/
theorem lowerAfter_eq {cs : List Char} (h : capitalSigma ∉ cs) (before : List Char) :
    lowerAfter before cs = cs.flatMap lowerOf := by
  induction cs generalizing before with
  | nil => rfl
  | cons c cs ih =>
    rw [List.mem_cons, not_or] at h
    rw [lowerAfter, if_neg (Ne.symm h.1), ih h.2, List.flatMap_cons]

theorem lower_append {s t : List Char} (h : capitalSigma ∉ s ++ t) :
    lower (s ++ t) = lower s ++ lower t := by
  have hs : capitalSigma ∉ s := fun hs => h (List.mem_append_left t hs)
  have ht : capitalSigma ∉ t := fun ht => h (List.mem_append_right s ht)
  simp only [lower, lowerAfter_eq h, lowerAfter_eq hs, lowerAfter_eq ht, List.flatMap_append]

end Text

namespace Casing

theorem capitalizeFirst?_append (s t : List Char) :
    capitalizeFirst? (s ++ t) = match capitalizeFirst? s with
      | some printed => some (printed ++ t)
      | none => (capitalizeFirst? t).map (s ++ ·) := by
  induction s with
  | nil => simp [capitalizeFirst?]
  | cons c s ih =>
    rw [List.cons_append, capitalizeFirst?, capitalizeFirst?, ih]
    split
    · exact congrArg some (List.append_assoc _ _ _).symm
    · cases capitalizeFirst? s with
      | some printed => rfl
      | none => simp [Function.comp_def]

/-- What stands last in a text that is not empty stands last, whatever was before. -/
theorem or_getLast?_cons (before : Option Char) (c : Char) (cs : List Char) :
    (c :: cs).getLast?.or before = cs.getLast?.or (some c) := by
  cases cs with
  | nil => rfl
  | cons d cs => simp [List.getLast?_cons]

theorem capitalizeWords_append (before : Option Char) (s t : List Char) :
    capitalizeWords before (s ++ t) =
      capitalizeWords before s ++ capitalizeWords (s.getLast?.or before) t := by
  induction s generalizing before with
  | nil => rfl
  | cons c s ih =>
    rw [List.cons_append, capitalizeWords, capitalizeWords, ih, or_getLast?_cons, List.append_assoc]

theorem capitalizeSentences_append (start : Bool) (s t : List Char) :
    capitalizeSentences start (s ++ t) =
      ((capitalizeSentences start s).1 ++
          (capitalizeSentences (capitalizeSentences start s).2 t).1,
        (capitalizeSentences (capitalizeSentences start s).2 t).2) := by
  induction s generalizing start with
  | nil => rfl
  | cons c s ih => simp only [List.cons_append, capitalizeSentences, ih, List.append_assoc]

/-- A text is cut here, but not between two letters. -/
def PartsWords (s t : List Char) : Prop :=
  ¬(s.getLast?.any isAlphabetic ∧ t.head?.any isAlphabetic)

theorem PartsWords.of_suffix {s s' t : List Char} (h : PartsWords s t) (hs : s' <:+ s) :
    PartsWords s' t := by
  rintro ⟨hlast, hhead⟩
  obtain ⟨front, rfl⟩ := hs
  refine h ⟨?_, hhead⟩
  cases hend : s'.getLast? with
  | none => simp [hend] at hlast
  | some c => simpa [List.getLast?_append, hend] using hlast

/-- A word that is begun ends where the text is cut, if not before. -/
theorem PartsWords.word_append {c : Char} {rest t : List Char} (h : PartsWords (c :: rest) t)
    (hc : isAlphabetic c = true) :
    (rest ++ t).takeWhile isAlphabetic = rest.takeWhile isAlphabetic ∧
      (rest ++ t).dropWhile isAlphabetic = rest.dropWhile isAlphabetic ++ t := by
  induction rest generalizing c with
  | nil =>
    cases t with
    | nil => exact ⟨rfl, rfl⟩
    | cons d t =>
      have hd : ¬isAlphabetic d = true := fun hd => h ⟨by simp [hc], by simp [hd]⟩
      simp [hd]
  | cons d rest ih =>
    by_cases hd : isAlphabetic d = true
    · obtain ⟨htake, hdrop⟩ := ih (h.of_suffix (List.suffix_cons c _)) hd
      simp [hd, htake, hdrop]
    · simp [hd]

theorem capitalizeTitle_append (before : Option Char) {s t : List Char} (h : PartsWords s t) :
    capitalizeTitle before (s ++ t) =
      capitalizeTitle before s ++ capitalizeTitle (s.getLast?.or before) t := by
  induction before, s using capitalizeTitle.induct with
  | case1 before => simp [capitalizeTitle]
  | case2 before c rest hletter word ih =>
    obtain ⟨htake, hdrop⟩ := h.word_append (by simp_all)
    have hlast : (c :: rest).getLast?.or before =
        (rest.dropWhile isAlphabetic).getLast?.or (some (word.getLast?.getD c)) := by
      rw [or_getLast?_cons]
      conv => lhs; rw [← List.takeWhile_append_dropWhile (p := isAlphabetic) (l := rest)]
      rw [List.getLast?_append, Option.or_assoc]
      cases word.getLast? <;> rfl
    rw [List.cons_append, capitalizeTitle, if_pos hletter, capitalizeTitle, if_pos hletter]
    dsimp only
    rw [htake, hdrop, ih (h.of_suffix ((List.dropWhile_suffix _).trans (List.suffix_cons c rest))),
      hlast, List.append_assoc]
  | case3 before c rest hletter ih =>
    rw [List.cons_append, capitalizeTitle, if_neg hletter, capitalizeTitle, if_neg hletter,
      ih (h.of_suffix (List.suffix_cons c rest)), or_getLast?_cons, List.cons_append]

end Casing

namespace CaseCursor

/-- A text may be cut here in the mode of the cursor: in lower case no sigma has a look at its
surroundings, and no word of a title is torn. -/
structure Splits (k : CaseCursor) (s t : String) : Prop where
  lower : k.mode = .lower → capitalSigma ∉ (s ++ t).toList
  title : k.mode = .title → Casing.PartsWords s.toList t.toList

/-- The first of two texts, and from the cursor behind it the second. -/
theorem apply_append {k : CaseCursor} {s t : String} (h : k.Splits s t) :
    k.apply (s ++ t) =
      ((k.apply s).1 ++ ((k.apply s).2.apply t).1, ((k.apply s).2.apply t).2) := by
  obtain ⟨hlower, htitle⟩ := h
  obtain ⟨mode, last?, start⟩ := k
  have hlast : (t.toList.getLast?.or s.toList.getLast?).or last? =
      t.toList.getLast?.or (s.toList.getLast?.or last?) := Option.or_assoc
  cases mode with
  | none => simp [apply, convert, hlast]
  | lower => simp [apply, convert, hlast, lower_append (String.toList_append ▸ hlower rfl)]
  | upper => simp [apply, convert, hlast, upper_append]
  | first =>
    -- the mode tells whether the letter is done
    cases hs : Casing.capitalizeFirst? s.toList with
    | some printed => simp [apply, convert, hlast, Casing.capitalizeFirst?_append, hs]
    | none =>
      cases ht : Casing.capitalizeFirst? t.toList <;>
        simp [apply, convert, hlast, Casing.capitalizeFirst?_append, hs, ht]
  | word => simp [apply, convert, hlast, Casing.capitalizeWords_append]
  | sentence => simp [apply, convert, hlast, Casing.capitalizeSentences_append]
  | title => simp [apply, convert, hlast, Casing.capitalizeTitle_append _ (htitle rfl)]

end CaseCursor

/-! ## Channels -/

namespace Channel

variable {c : Channel}

theorem chunks_ext {d : Channel} (hsize : c.chunks.size = d.chunks.size)
    (h : ∀ i, c.chunk i = d.chunk i) : c.chunks = d.chunks := by
  refine Array.ext hsize fun i hc hd => ?_
  have hi := h i
  simpa [chunk, Array.getD, hc, hd] using hi

/-- Channels with the same chunks have the same length. -/
theorem Coherent.length_eq_of_chunks {d : Channel} (hc : c.Coherent) (hd : d.Coherent)
    (h : c.chunks = d.chunks) : c.length = d.length := by
  rw [hc.length_eq, hd.length_eq, value, value, h]

/-- The chunks behind two writes are those behind the write of both texts. -/
theorem Reachable.chunk_write_write (h : c.Reachable) {s t : String} (hsplit : c.cursor.Splits s t)
    (j : Nat) : ((c.write s).write t).chunk j = (c.write (s ++ t)).chunk j := by
  obtain ⟨chunks, length, -, hs⟩ := c.write_eq s
  have hcurrent : (c.write s).current = c.current := by rw [hs]
  have harticles : (c.write s).articles = c.articles := by rw [hs]
  have hcursor : (c.write s).cursor = (c.cursor.apply s).2 := by rw [hs]
  have horderly := h.orderly
  have hlater : (c.write s).Orderly := horderly.operate (.write s)
  have happly : (c.cursor.apply (s ++ t)).1 =
      (c.cursor.apply s).1 ++ ((c.cursor.apply s).2.apply t).1 := by
    rw [CaseCursor.apply_append hsplit]
  have hplain : ∀ i, (c.current ∈ c.articles → i + 1 ≠ c.current) →
      ((c.write s).write t).chunk i = (c.write (s ++ t)).chunk i := by
    intro i hi
    rw [hlater.chunk_write t (by rwa [hcurrent, harticles]), horderly.chunk_write s hi,
      horderly.chunk_write (s ++ t) hi, hcurrent, hcursor, happly]
    split
    · exact String.append_assoc
    · rfl
  by_cases hcell : c.current ∈ c.articles ∧ j + 1 = c.current
  · -- both articles are owed to the same text
    obtain ⟨hdue, hj⟩ := hcell
    obtain ⟨capital, howes⟩ := h.owes hdue
    have htwo := ((howes.write horderly s).write hlater t).form
    have hone := (howes.write horderly (s ++ t)).form
    rw [hplain c.current fun _ => by omega, ← hone, ← hj, Nat.add_sub_cancel] at htwo
    exact htwo
  · exact hplain j (not_and.1 hcell)

/-- However a channel came to be, two texts that are written one after the other leave it as their
concatenation does, if the first does not end where the mode in force asks for what comes next: in
lower case neither text has a capital sigma, and in a title the cut is not between two letters.
So the text, its length, the mode and the character that stands last are the same. -/
theorem write_write (h : c.Reachable) {s t : String}
    (hlower : c.mode = .lower → capitalSigma ∉ (s ++ t).toList)
    (htitle : c.mode = .title →
      ¬(s.toList.getLast?.any isAlphabetic ∧ t.toList.head?.any isAlphabetic)) :
    (c.write s).write t = c.write (s ++ t) := by
  have hsplit : c.cursor.Splits s t := ⟨hlower, htitle⟩
  have hreached : ((c.write s).write t).Reachable := (h.operate (.write s)).operate (.write t)
  have hwhole : (c.write (s ++ t)).Reachable := h.operate (.write (s ++ t))
  obtain ⟨_, _, hsize₁, hs⟩ := c.write_eq s
  obtain ⟨_, _, hsize₂, ht⟩ := (c.write s).write_eq t
  obtain ⟨_, _, hsize, hst⟩ := c.write_eq (s ++ t)
  have hchunks : ((c.write s).write t).chunks = (c.write (s ++ t)).chunks := by
    refine chunks_ext ?_ (h.chunk_write_write hsplit)
    rw [ht, hst]
    dsimp only
    rw [hsize₂, hsize, hs, hsize₁]
  have hlength := hreached.orderly.length_eq_of_chunks hwhole.orderly.toCoherent hchunks
  have hcursor : ((c.write s).write t).cursor = (c.write (s ++ t)).cursor := by
    rw [ht, hst, hs]
    dsimp only
    rw [CaseCursor.apply_append hsplit]
  rw [ht, hst] at hchunks hlength hcursor ⊢
  dsimp only at hchunks hlength hcursor
  rw [hchunks, hlength, hcursor, hs]

/-- A title behind an article, cut between two words. -/
theorem write_write_title :
    let c := ((empty "main" .public).setMode .title).writeArticle
    c.Reachable ∧ (c.write " old").write " inn" = c.write " old inn" ∧
      (c.write " old inn").value = "An Old Inn" := by
  intro c
  have hreached : c.Reachable :=
    ((reachable_empty "main" .public).operate (.setMode .title)).operate .writeArticle
  have hlower : c.mode = .lower → capitalSigma ∉ (" old" ++ " inn").toList := by decide +kernel
  have htitle : c.mode = .title →
      ¬(" old".toList.getLast?.any isAlphabetic ∧ " inn".toList.head?.any isAlphabetic) := by
    decide +kernel
  exact ⟨hreached, write_write hreached hlower htitle, by decide +kernel⟩

end Channel

end Wordsmith
