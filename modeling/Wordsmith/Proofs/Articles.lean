import Wordsmith.Proofs.Chunks

/-!
# Articles that follow the next word

An article is printed before its word is known, and the word comes in pieces: *a* before nothing, *a*
before `u`, *an* before `un`, *a* again before `uni`. Each piece prints the article anew. The letters
that stand there tell only their own case, so a form is made from the form before it; that always
gives the form owed to the text behind the article, in the case in which the article was first
printed (`Article.inCaseOf_spelled`).

This is an invariant of a channel under all operations, the end of the channel moving on to further
chunks included. Nothing but the end of the channel is written behind an article, and an article is
changed only when its word is: the chunk of an article, the chunk behind one and the chunk of a target
are different chunks (`Orderly`, on top of `Coherent`).

What an article will gain is computed before a text is written, from the form that the article
would take. As the article has the form owed to the text before the write, the announced growth is
the growth that is seen afterwards.

Main result: `articles_owed`.
-/

namespace Wordsmith

open Text

/-! ## Words -/

namespace Text

theorem words_go_eq_nil_iff {cs word : List Char} :
    words.go cs word = [] ↔ word = [] ∧ ∀ c ∈ cs, isBlank c := by
  induction cs generalizing word with
  | nil => cases word <;> simp [words.go]
  | cons c cs ih =>
    by_cases hc : isBlank c = true
    · cases word <;> simp [words.go, hc, ih]
    · simp [words.go, hc, ih]

/-- A text has no words if it is blank. -/
theorem words_eq_nil_iff {cs : List Char} : words cs = [] ↔ ∀ c ∈ cs, isBlank c := by
  simp [words, words_go_eq_nil_iff]

/-- No words come from taking text away at the end. -/
theorem words_eq_nil_of_append {cs more : List Char} (h : words (cs ++ more) = []) :
    words cs = [] :=
  words_eq_nil_iff.2 fun c hc => words_eq_nil_iff.1 h c (List.mem_append_left more hc)

end Text

/-! ## Forms of the article -/

namespace Article

/-- The forms of the article. -/
def spelled : (capital vowel : Bool) → String
  | false, false => "a"
  | false, true => "an"
  | true, false => "A"
  | true, true => "An"

/-- Whether a text begins with a word that takes *an*. -/
def isVowelDue (following : String) : Bool := (words following.toList).head?.any takesVowelForm

/-- The article owed to the text that follows it: *an* if its first word takes that, *a* if not and as
long as there is no word. -/
def owed (capital : Bool) (following : String) : String := spelled capital (isVowelDue following)

/-- The letters that stand there tell the case, whatever the form was. -/
theorem inCaseOf_spelled (capital vowel next : Bool) :
    inCaseOf (spelled capital vowel) (if next then "an" else "a") = spelled capital next := by
  cases capital <;> cases vowel <;> cases next <;> rfl

theorem isVowelDue_eq_false {following : String} (h : words following.toList = []) :
    isVowelDue following = false := by
  simp [isVowelDue, h]

/-- Printed anew, the article that was owed to a text is the one owed to the next, as long as words
do not vanish. -/
theorem inCaseOf_owed (capital : Bool) {old new : String}
    (h : words new.toList = [] → words old.toList = []) :
    ((before? new.toList).map (inCaseOf (owed capital old))).getD (owed capital old) =
      owed capital new := by
  unfold before?
  cases hword : (words new.toList).head? with
  | none =>
    have hnew : words new.toList = [] := List.head?_eq_none_iff.1 hword
    simp only [Option.map_none, Option.getD_none, owed, isVowelDue_eq_false hnew,
      isVowelDue_eq_false (h hnew)]
  | some word =>
    have hdue : isVowelDue new = takesVowelForm word := by simp [isVowelDue, hword]
    rw [Option.map_some, Option.map_some, Option.getD_some, owed, inCaseOf_spelled, owed, hdue]

end Article

/-- An article is first printed as one letter. -/
theorem CaseCursor.apply_article (k : CaseCursor) :
    ∃ capital, (k.apply "a").1 = Article.spelled capital false := by
  suffices h : (k.convert ['a']).1 = ['a'] ∨ (k.convert ['a']).1 = ['A'] by
    rcases h with h | h
    · exact ⟨false, congrArg String.ofList h⟩
    · exact ⟨true, congrArg String.ofList h⟩
  have hletter : isAlphabetic 'a' = true := by decide +kernel
  have hupper : upperOf 'a' = ['A'] := by decide +kernel
  have hlower : lower ['a'] = ['a'] := by decide +kernel
  unfold convert
  cases k.mode with
  | none => exact .inl rfl
  | lower => exact .inl hlower
  | upper => exact .inr hupper
  | first => simp [Casing.capitalizeFirst?, hletter, hupper]
  | word =>
    by_cases hblank : k.last?.all isBlank = true <;>
      simp [Casing.capitalizeWords, hletter, hupper, hblank]
  | sentence =>
    have hend : Casing.endsSentence 'a' = false := rfl
    cases hstart : k.sentenceStart <;>
      simp [Casing.capitalizeSentences, hletter, hupper, hend]
  | title =>
    simp only [Casing.capitalizeTitle, List.takeWhile_nil, List.dropWhile_nil, List.append_nil,
      Casing.titleWord]
    split
    · split
      · exact .inr hupper
      · exact .inl rfl
    · exact .inl rfl

/-- Nothing comes from nothing. -/
theorem CaseCursor.apply_empty (k : CaseCursor) : k.apply "" = ("", k) := by
  obtain ⟨mode, last?, start⟩ := k
  cases mode <;> simp [apply, convert, lower, lowerAfter, upper, Casing.capitalizeFirst?,
    Casing.capitalizeWords, Casing.capitalizeSentences, Casing.capitalizeTitle]

namespace Channel

variable {c d : Channel}

/-! ## Channels in use -/

/-- A channel comes to be another by its operations, and by being shown to other writes. -/
inductive Leads (c : Channel) : Channel → Prop
  | refl : c.Leads c
  | operate {d : Channel} (h : c.Leads d) (operation : Operation) : c.Leads (operation.apply d)
  | turn {d : Channel} (h : c.Leads d) (visibility : Visibility) :
      c.Leads { d with visibility := visibility }

/-- What a new channel may come to be. -/
def Reachable (c : Channel) : Prop := ∃ name visibility, (empty name visibility).Leads c

theorem reachable_empty (name : String) (visibility : Visibility) :
    (empty name visibility).Reachable :=
  ⟨name, visibility, .refl⟩

theorem Reachable.operate (h : c.Reachable) (operation : Operation) :
    (operation.apply c).Reachable := by
  obtain ⟨name, visibility, h⟩ := h
  exact ⟨name, visibility, h.operate operation⟩

theorem Reachable.turn (h : c.Reachable) (visibility : Visibility) :
    Reachable { c with visibility := visibility } := by
  obtain ⟨name, old, h⟩ := h
  exact ⟨name, old, h.turn visibility⟩

/-! ## Chunks that an operation leaves alone -/

theorem chunk_congr (h : c.chunks = d.chunks) (i : Nat) : c.chunk i = d.chunk i := by
  rw [chunk, chunk, h]

theorem chunk_appendTo_of_ne {i j : Nat} (h : j ≠ i) (text : String) :
    (c.appendTo i text).chunk j = c.chunk j := by
  simp only [chunk_eq, appendTo, Array.toList_modify, List.getElem?_modify_ne _ _ (Ne.symm h)]

theorem chunk_setChunk_of_ne {i j : Nat} (h : j ≠ i) (text : String) :
    (c.setChunk i text).chunk j = c.chunk j := by
  simp only [chunk_eq, setChunk, Array.toList_setIfInBounds, List.getElem?_set_ne (Ne.symm h)]

theorem articleForm?_eq_none {i : Nat} (h : i ∉ c.articles) (following : String) :
    c.articleForm? i following = none := by
  simp [articleForm?, h]

/-- There is nothing to print anew without an article. -/
theorem refreshArticle_of_notMem {i : Nat} (h : i ∉ c.articles) : c.refreshArticle i = c := by
  rw [refreshArticle_eq, articleForm?_eq_none h]

theorem refreshArticle_appendTo {i : Nat} (h : i ∉ c.articles) (text : String) :
    (c.appendTo i text).refreshArticle i = c.appendTo i text :=
  refreshArticle_of_notMem h

theorem chunk_refreshArticle_of_ne {i j : Nat} (h : j ≠ i - 1) :
    (c.refreshArticle i).chunk j = c.chunk j := by
  rw [refreshArticle_eq]
  split
  · exact chunk_setChunk_of_ne h _
  · rfl

/-! ## Orderly channels -/

theorem commit_articles (c : Channel) (p : PendingWrite) : (c.commit p).articles = c.articles := by
  unfold commit
  dsimp only
  split
  · rfl
  · exact refreshArticle_articles _ _

theorem writeArticle_articles (c : Channel) :
    c.writeArticle.articles = (c.chunks.size + 1) :: c.articles := by
  simp [writeArticle, pushChunk]

/-- Articles are only ever added, one at a time. -/
theorem Operation.articles_apply (operation : Operation) :
    (operation.apply c).articles = c.articles ∨ operation = .writeArticle := by
  cases operation with
  | setMode | createTarget | setMarker => exact .inl rfl
  | write text =>
    refine .inl ?_
    simp only [apply, Channel.write]
    split
    · rfl
    · exact commit_articles _ _
  | commit p => exact .inl (commit_articles c p)
  | writeTarget name value overwrite =>
    refine .inl ?_
    simp only [apply, Channel.writeTarget]
    split
    · rw [refreshArticle_articles]
      cases overwrite <;> rfl
    · rfl
  | clearTarget name =>
    refine .inl ?_
    simp only [apply, Channel.clearTarget]
    split <;> rfl
  | writeArticle => exact .inr rfl

/-- Besides what makes a channel coherent, no article is behind another. -/
structure Orderly (c : Channel) : Prop extends c.Coherent where
  distinct : ∀ i ∈ c.articles, ∀ j ∈ c.articles, i ≠ j - 1

theorem orderly_empty (name : String) (visibility : Visibility) :
    (empty name visibility).Orderly :=
  ⟨coherent_empty name visibility, nofun⟩

namespace Orderly

theorem operate (h : c.Orderly) (operation : Operation) : (operation.apply c).Orderly := by
  refine ⟨(h.toCoherent.apply operation).1, ?_⟩
  rcases operation.articles_apply (c := c) with hsame | rfl
  · rw [hsame]
    exact h.distinct
  · -- the new article has the last chunks
    simp only [Operation.apply, writeArticle_articles, List.mem_cons]
    rintro i (rfl | hi) j (rfl | hj)
    · omega
    · have := h.article j hj
      omega
    · have := h.article i hi
      omega
    · exact h.distinct i hi j hj

/-- How a channel is shown is no part of the books. -/
theorem turn (h : c.Orderly) (visibility : Visibility) :
    Orderly { c with visibility := visibility } :=
  ⟨⟨h.length_eq, h.current_eq, h.article, h.target, h.marker, h.apart⟩, h.distinct⟩

theorem leads (h : c.Orderly) (hleads : c.Leads d) : d.Orderly := by
  induction hleads with
  | refl => exact h
  | operate _ operation ih => exact ih.operate operation
  | turn _ visibility ih => exact ih.turn visibility

/-- Text at the end is no text of an article, and of no chunk behind an article but the last. -/
theorem le_current (h : c.Orderly) {i : Nat} (hi : i ∈ c.articles) : 0 < i ∧ i ≤ c.current := by
  have := h.article i hi
  have := h.current_eq
  omega

end Orderly

theorem Reachable.orderly (h : c.Reachable) : c.Orderly := by
  obtain ⟨name, visibility, h⟩ := h
  exact (orderly_empty name visibility).leads h

/-! ## The article before a chunk -/

/-- There is an article before a chunk, in a certain case, and it is the one owed to the text of the
chunk. -/
structure Owes (c : Channel) (capital : Bool) (i : Nat) : Prop where
  mem : i ∈ c.articles
  form : c.chunk (i - 1) = Article.owed capital (c.chunk i)

namespace Owes

variable {capital : Bool} {i : Nat}

theorem congr (h : c.Owes capital i) (harticles : d.articles = c.articles)
    (hbefore : d.chunk (i - 1) = c.chunk (i - 1)) (hchunk : d.chunk i = c.chunk i) :
    d.Owes capital i :=
  ⟨harticles ▸ h.mem, by rw [hbefore, hchunk, h.form]⟩

/-- The article grows by the letters of its new form. -/
theorem articleGrowth_eq (h : c.Owes capital i) {following : String}
    (hwords : words following.toList = [] → words (c.chunk i).toList = []) :
    c.articleGrowth i following =
      (Article.owed capital following).length - (c.chunk (i - 1)).length := by
  have howed := Article.inCaseOf_owed capital hwords
  rw [← h.form] at howed
  -- what a channel announces is the form that it would print
  have hform : c.articleForm? i following =
      (Article.before? following.toList).map (Article.inCaseOf (c.chunk (i - 1))) :=
    if_pos (List.contains_iff_mem.2 h.mem)
  rw [articleGrowth, hform, ← howed]
  cases Article.before? following.toList with
  | none => exact (Nat.sub_self _).symm
  | some article => rfl

/-- Behind text that has come into the chunk, the article is printed anew. -/
theorem refreshArticle (h : c.Owes capital i) (horderly : d.Orderly)
    (harticles : d.articles = c.articles) (hbefore : d.chunk (i - 1) = c.chunk (i - 1))
    (hwords : words (d.chunk i).toList = [] → words (c.chunk i).toList = []) :
    (d.refreshArticle i).Owes capital i := by
  have hmem : i ∈ d.articles := harticles ▸ h.mem
  obtain ⟨hpos, -⟩ := horderly.article i hmem
  have hne : i ≠ i - 1 := by omega
  have howed := Article.inCaseOf_owed capital hwords
  rw [← h.form, ← hbefore] at howed
  have hform : d.articleForm? i (d.chunk i) =
      (Article.before? (d.chunk i).toList).map (Article.inCaseOf (d.chunk (i - 1))) :=
    if_pos (List.contains_iff_mem.2 hmem)
  refine ⟨by rwa [refreshArticle_articles], ?_⟩
  rw [chunk_refreshArticle_of_ne hne, ← howed, refreshArticle_eq, hform]
  cases Article.before? (d.chunk i).toList with
  | none => rfl
  | some article =>
    rw [Option.map_some, Option.getD_some, chunk_setChunk (horderly.article_lt hmem), if_pos rfl]

end Owes

/-! ## Operations -/

/-- What a commit does to the chunks that are no articles. -/
theorem Orderly.chunk_commit (h : c.Orderly) (p : PendingWrite) {j : Nat}
    (hj : c.current ∈ c.articles → j + 1 ≠ c.current) :
    (c.commit p).chunk j = if j = c.current then c.chunk j ++ p.text else c.chunk j := by
  have happended : (appendTo { c with cursor := p.cursor } c.current p.text).chunk j =
      if j = c.current then c.chunk j ++ p.text else c.chunk j := by
    split
    · next heq =>
      subst heq
      rw [chunk_appendTo]
      exact if_pos h.current_lt
    · next hne => exact chunk_appendTo_of_ne hne _
  unfold commit
  dsimp only
  split
  · next hempty =>
    rw [String.isEmpty_iff.1 hempty, String.append_empty, ite_self]
    rfl
  · rw [← happended]
    by_cases hdue : c.current ∈ c.articles
    · have hpos := (h.article _ hdue).1
      have hne := hj hdue
      exact chunk_refreshArticle_of_ne (by omega)
    · rw [refreshArticle_appendTo (c := { c with cursor := p.cursor }) hdue]

/-- A write changes the text of chunks that are there, and the cursor. -/
theorem write_eq (c : Channel) (text : String) :
    ∃ chunks length, chunks.size = c.chunks.size ∧ c.write text =
      { c with chunks := chunks, length := length, cursor := (c.cursor.apply text).2 } := by
  unfold write
  split
  · next hempty =>
    rw [String.isEmpty_iff.1 hempty, CaseCursor.apply_empty]
    exact ⟨c.chunks, c.length, rfl, rfl⟩
  · unfold commit
    dsimp only
    split
    · exact ⟨c.chunks, c.length, rfl, rfl⟩
    · rw [refreshArticle_eq]
      split
      · exact ⟨_, _, by simp [appendTo], rfl⟩
      · exact ⟨_, _, by simp, rfl⟩

/-- What a write does to the chunks that are no articles. -/
theorem Orderly.chunk_write (h : c.Orderly) (text : String) {j : Nat}
    (hj : c.current ∈ c.articles → j + 1 ≠ c.current) :
    (c.write text).chunk j =
      if j = c.current then c.chunk j ++ (c.cursor.apply text).1 else c.chunk j := by
  unfold write
  split
  · next hempty =>
    rw [String.isEmpty_iff.1 hempty, CaseCursor.apply_empty, String.append_empty, ite_self]
  · exact h.chunk_commit (c.prepare text) hj

namespace Owes

variable {capital : Bool} {i : Nat}

/-- Text at the end prints the article before it anew, and leaves the others alone. -/
theorem commit (h : c.Owes capital i) (horderly : c.Orderly) (p : PendingWrite) :
    (c.commit p).Owes capital i := by
  obtain ⟨hpos, hle⟩ := horderly.le_current h.mem
  by_cases hlast : i = c.current
  · subst hlast
    unfold Channel.commit
    dsimp only
    split
    · exact h.congr rfl rfl rfl
    · have hcursor := horderly.toCoherent.withCursor p.cursor
      have happended : Orderly (appendTo { c with cursor := p.cursor } c.current p.text) :=
        ⟨hcursor.appendTo hcursor.current_lt p.text, horderly.distinct⟩
      refine h.refreshArticle happended rfl (chunk_appendTo_of_ne (by omega) _) fun hblank => ?_
      rw [chunk_appendTo, if_pos horderly.current_lt, String.toList_append] at hblank
      exact words_eq_nil_of_append hblank
  · have hbefore := horderly.chunk_commit p (j := i - 1) fun _ => by omega
    have hchunk := horderly.chunk_commit p (j := i) fun hdue => by
      have hdistinct := horderly.distinct i h.mem c.current hdue
      omega
    rw [if_neg (by omega)] at hbefore
    rw [if_neg hlast] at hchunk
    exact h.congr (commit_articles c p) hbefore hchunk

theorem write (h : c.Owes capital i) (horderly : c.Orderly) (text : String) :
    (c.write text).Owes capital i := by
  unfold Channel.write
  split
  · exact h
  · exact h.commit horderly _

/-- New chunks are behind all articles and their words. -/
theorem pushTwo (h : c.Owes capital i) (horderly : c.Orderly) (first second : String)
    (hmem : i ∈ d.articles) (hchunks : d.chunks = ((c.pushChunk first).pushChunk second).chunks) :
    d.Owes capital i := by
  obtain ⟨hpos, hlt⟩ := horderly.article i h.mem
  refine ⟨hmem, ?_⟩
  rw [chunk_congr hchunks, chunk_congr hchunks, chunk_pushTwo (by omega), chunk_pushTwo hlt, h.form]

/-- A target has no part in articles. -/
theorem writeTarget (h : c.Owes capital i) (horderly : c.Orderly) (name value : String)
    (overwrite : Bool) : (c.writeTarget name value overwrite).Owes capital i := by
  unfold Channel.writeTarget
  cases hopen : c.targets.get? name with
  | none => exact h.congr rfl rfl rfl
  | some j =>
    have hapart := (horderly.target name j hopen).2
    have hnone : j ∉ c.articles := fun hj => (hapart j hj).1 rfl
    obtain ⟨hchunk, hbefore⟩ := hapart i h.mem
    dsimp only
    cases overwrite with
    | false =>
      rw [if_neg Bool.false_ne_true, refreshArticle_appendTo hnone]
      exact h.congr rfl (chunk_appendTo_of_ne (Ne.symm hbefore) _)
        (chunk_appendTo_of_ne (Ne.symm hchunk) _)
    | true =>
      rw [if_pos rfl, refreshArticle_appendTo (c := c.clearChunk j) hnone, clearChunk_eq]
      exact h.congr rfl
        ((chunk_appendTo_of_ne (Ne.symm hbefore) _).trans
          (chunk_setChunk_of_ne (Ne.symm hbefore) _))
        ((chunk_appendTo_of_ne (Ne.symm hchunk) _).trans
          (chunk_setChunk_of_ne (Ne.symm hchunk) _))

theorem clearTarget (h : c.Owes capital i) (horderly : c.Orderly) (name : String) :
    (c.clearTarget name).Owes capital i := by
  unfold Channel.clearTarget
  cases hopen : c.targets.get? name with
  | none => exact h.congr rfl rfl rfl
  | some j =>
    obtain ⟨hchunk, hbefore⟩ := (horderly.target name j hopen).2 i h.mem
    exact h.congr rfl (chunk_setChunk_of_ne (Ne.symm hbefore) _)
      (chunk_setChunk_of_ne (Ne.symm hchunk) _)

theorem operate (h : c.Owes capital i) (horderly : c.Orderly) (operation : Operation) :
    (operation.apply c).Owes capital i := by
  cases operation with
  | setMode mode => exact h.congr rfl rfl rfl
  | write text => exact h.write horderly text
  | commit p => exact h.commit horderly p
  | writeArticle =>
    exact h.pushTwo horderly _ _ (List.mem_cons_of_mem _ h.mem) rfl
  | createTarget name => exact h.pushTwo horderly _ _ h.mem rfl
  | writeTarget name value overwrite => exact h.writeTarget horderly name value overwrite
  | clearTarget name => exact h.clearTarget horderly name
  | setMarker name => exact h.congr rfl rfl rfl

/-- An article stays owed to the text behind it. -/
theorem leads (h : c.Owes capital i) (horderly : c.Orderly) (hleads : c.Leads d) :
    d.Owes capital i := by
  induction hleads with
  | refl => exact h
  | operate hd operation ih => exact ih.operate (horderly.leads hd) operation
  | turn hd visibility ih => exact ih.congr rfl rfl rfl

end Owes

/-- What is behind an article that is printed is empty, as it was before. -/
theorem chunk_writeArticle (c : Channel) (j : Nat) :
    c.writeArticle.chunk j =
      if j = c.chunks.size then (c.cursor.apply "a").1 else c.chunk j := by
  have hchunks : c.writeArticle.chunks.toList = c.chunks.toList ++ [(c.cursor.apply "a").1, ""] := by
    simp [writeArticle, pushChunk]
  rw [chunk_eq, chunk_eq, hchunks]
  rcases Nat.lt_trichotomy j c.chunks.size with hlt | rfl | hgt
  · rw [List.getElem?_append_left (by simpa using hlt), if_neg (by omega)]
  · simp
  · obtain ⟨k, rfl⟩ := Nat.exists_eq_add_of_lt hgt
    have hold : c.chunks.toList[c.chunks.size + k + 1]? = none :=
      List.getElem?_eq_none (by rw [Array.length_toList]; omega)
    rw [if_neg (by omega), hold]
    cases k <;> simp [Nat.add_assoc]

/-- A new article is owed to the empty text behind it. -/
theorem owes_writeArticle {capital : Bool}
    (h : (c.cursor.apply "a").1 = Article.spelled capital false) :
    c.writeArticle.Owes capital (c.chunks.size + 1) := by
  refine ⟨by simp [writeArticle_articles], ?_⟩
  have hempty : c.chunk (c.chunks.size + 1) = "" := by simp [chunk_eq]
  rw [Nat.add_sub_cancel, chunk_writeArticle, chunk_writeArticle, if_pos rfl, if_neg (by omega), h,
    hempty]
  rfl

/-- Every article is owed to the text behind it. -/
theorem Reachable.owes (h : c.Reachable) {i : Nat} (hi : i ∈ c.articles) :
    ∃ capital, c.Owes capital i := by
  obtain ⟨name, visibility, h⟩ := h
  have horderly := orderly_empty name visibility
  induction h with
  | refl => cases hi
  | @operate d hd operation ih =>
    -- the article stood there before, or it has just been printed
    by_cases hold : i ∈ d.articles
    · obtain ⟨capital, howes⟩ := ih hold
      exact ⟨capital, howes.operate (horderly.leads hd) operation⟩
    · rcases operation.articles_apply (c := d) with hsame | rfl
      · exact absurd (hsame ▸ hi) hold
      · obtain ⟨capital, hprinted⟩ := d.cursor.apply_article
        simp only [Operation.apply, writeArticle_articles, List.mem_cons, hold, or_false] at hi
        exact ⟨capital, hi ▸ owes_writeArticle hprinted⟩
  | turn hd visibility ih =>
    obtain ⟨capital, howes⟩ := ih hi
    exact ⟨capital, howes.congr rfl rfl rfl⟩

/-! ## What a write adds -/

/-- The text that is written, and behind it the letters by which the article before it is to grow. -/
theorem Reachable.cost_prepare (h : c.Reachable) (text : String) :
    (c.prepare text).cost = (c.prepare text).text.length +
      if c.current ∈ c.articles then
        ((c.commit (c.prepare text)).chunk (c.current - 1)).length -
          (c.chunk (c.current - 1)).length
      else 0 := by
  rw [Channel.cost_prepare]
  congr 1
  have horderly := h.orderly
  split
  · next hdue =>
    obtain ⟨capital, howes⟩ := h.owes hdue
    have hlater := howes.commit horderly (c.prepare text)
    have hchunk := horderly.chunk_commit (c.prepare text) (j := c.current) fun _ => by omega
    rw [if_pos rfl] at hchunk
    rw [hlater.form, hchunk]
    refine howes.articleGrowth_eq fun hblank => ?_
    rw [String.toList_append] at hblank
    exact words_eq_nil_of_append hblank
  · next hnone => simp [articleGrowth, articleForm?_eq_none hnone]

/-- However a channel came to be, an article that is printed is *a* or *A*, and whatever is done
later, it is the article owed to the text of the chunk behind it, in that case of its first letter.
And the cost of a text is the characters of the formatted text and those that the article before the
end of the channel has gained once the text is written. -/
theorem articles_owed (h : c.Reachable) :
    (∃ capital, c.writeArticle.chunk c.chunks.size = (if capital then "A" else "a") ∧
      ∀ d, c.writeArticle.Leads d → c.chunks.size + 1 ∈ d.articles ∧
        d.chunk c.chunks.size = Article.owed capital (d.chunk (c.chunks.size + 1))) ∧
      ∀ text, (c.prepare text).cost = (c.prepare text).text.length +
        if c.current ∈ c.articles then
          ((c.commit (c.prepare text)).chunk (c.current - 1)).length -
            (c.chunk (c.current - 1)).length
        else 0 := by
  refine ⟨?_, h.cost_prepare⟩
  obtain ⟨capital, hprinted⟩ := c.cursor.apply_article
  refine ⟨capital, ?_, fun d hd => ?_⟩
  · rw [chunk_writeArticle, if_pos rfl, hprinted]
    cases capital <;> rfl
  · have horderly := h.orderly.operate .writeArticle
    have howes := (owes_writeArticle hprinted).leads horderly hd
    exact ⟨howes.mem, howes.form⟩

/-- At the beginning of a sentence, the word behind the article comes in two pieces: *An on* and then
*A one*. -/
theorem articles_owed_one :
    let c := (empty "main" .public).setMode .sentence
    let d := (c.writeArticle.write " on").write "e"
    c.Reachable ∧ d.chunk 1 = Article.owed true " one" ∧ d.value = "A one" ∧
      ((c.writeArticle.write " on").prepare "e").cost = 1 := by
  intro c d
  have hreached : c.Reachable := (reachable_empty "main" .public).operate (.setMode .sentence)
  have hleads : c.writeArticle.Leads d := (Leads.refl.operate (.write " on")).operate (.write "e")
  obtain ⟨⟨capital, hcapital, howed⟩, -⟩ := articles_owed hreached
  have htrue : capital = true := by
    cases capital with
    | false => exact absurd hcapital (by decide +kernel)
    | true => rfl
  have hlater : (c.writeArticle.write " on").Reachable :=
    (hreached.operate .writeArticle).operate (.write " on")
  refine ⟨hreached, ?_, by decide +kernel, ?_⟩
  · have hform := (howed d hleads).2
    rw [htrue] at hform
    exact hform.trans (congrArg (Article.owed true) (by decide +kernel))
  · rw [(articles_owed hlater).2 "e"]
    decide +kernel

end Channel

end Wordsmith
