import Wordsmith.Proofs.Cost

/-!
# What writes add to a channel at least

Formatted text is never shorter than the text it came from, so a channel is longer behind a write.
There is one exception. An article that is due is printed anew when the text behind it changes, and
it may lose a letter then. No article is ever empty, so what it can lose is bounded by what it has:
as long as no article that is due is longer than the text, the channel is longer in the end.

Main results: `Channel.lt_length_foldl_write` and `ChannelStack.Sound.size_lt_modifyActive`.
-/

namespace Wordsmith

/-! ## Formatted text -/

namespace Text

open LetterCase

theorem LetterCase.expansion?_mem {n : Nat} {codes : List Nat} {entries : List (Nat × List Nat)}
    (h : expansion? entries n = some codes) : (n, codes) ∈ entries := by
  induction entries with
  | nil => simp [expansion?] at h
  | cons e entries ih =>
    obtain ⟨code, codes'⟩ := e
    simp only [expansion?] at h
    split at h
    · cases h
    · split at h
      · next hcode =>
        cases h
        exact hcode ▸ List.mem_cons_self
      · exact List.mem_cons_of_mem _ (ih h)

theorem length_upperOf_pos (c : Char) : 1 ≤ (upperOf c).length := by
  have hexpansions : ∀ e ∈ upperExpansions, 1 ≤ e.2.length := by decide
  unfold upperOf
  split
  · next hfound =>
    rw [List.length_map]
    exact hexpansions _ (expansion?_mem hfound)
  · exact Nat.le_refl _

theorem length_lowerOf_pos (c : Char) : 1 ≤ (lowerOf c).length := by
  unfold lowerOf
  split <;> simp

theorem length_le_upper (cs : List Char) : cs.length ≤ (upper cs).length := by
  induction cs with
  | nil => exact Nat.le_refl _
  | cons c cs ih =>
    have hc := length_upperOf_pos c
    have hcons : upper (c :: cs) = upperOf c ++ upper cs := List.flatMap_cons
    rw [hcons, List.length_append, List.length_cons]
    omega

theorem length_le_lowerAfter (before cs : List Char) :
    cs.length ≤ (lowerAfter before cs).length := by
  induction cs generalizing before with
  | nil => exact Nat.le_refl _
  | cons c cs ih =>
    have hrest := ih (c :: before)
    have hc := length_lowerOf_pos c
    rw [lowerAfter, List.length_append, List.length_cons]
    split
    · rw [List.length_singleton]
      omega
    · omega

end Text

namespace Casing

open Text

theorem length_le_capitalizeFirst? {cs printed : List Char} (h : capitalizeFirst? cs = some printed) :
    cs.length ≤ printed.length := by
  induction cs generalizing printed with
  | nil => exact Nat.zero_le _
  | cons c cs ih =>
    simp only [capitalizeFirst?] at h
    split at h
    · cases h
      have hc := length_upperOf_pos c
      rw [List.length_append, List.length_cons]
      omega
    · obtain ⟨rest, hrest, rfl⟩ := Option.map_eq_some_iff.1 h
      exact Nat.succ_le_succ (ih hrest)

theorem length_le_capitalizeWords (before : Option Char) (cs : List Char) :
    cs.length ≤ (capitalizeWords before cs).length := by
  induction cs generalizing before with
  | nil => exact Nat.le_refl _
  | cons c cs ih =>
    have hrest := ih (some c)
    have hc := length_upperOf_pos c
    rw [capitalizeWords, List.length_append, List.length_cons]
    split
    · omega
    · rw [List.length_singleton]
      omega

theorem length_le_capitalizeSentences (start : Bool) (cs : List Char) :
    cs.length ≤ (capitalizeSentences start cs).1.length := by
  induction cs generalizing start with
  | nil => exact Nat.le_refl _
  | cons c cs ih =>
    have hc := length_upperOf_pos c
    simp only [capitalizeSentences, List.length_append, List.length_cons]
    split
    · have hrest := ih true
      dsimp only
      rw [List.length_singleton]
      omega
    · split
      · have hrest := ih false
        dsimp only
        omega
      · have hrest := ih (start && opensSentence c)
        dsimp only
        rw [List.length_singleton]
        omega

theorem length_le_titleWord (isFirst : Bool) (c : Char) (rest : List Char) :
    rest.length + 1 ≤ (titleWord isFirst c rest).length := by
  have hc := length_upperOf_pos c
  unfold titleWord
  split
  · rw [List.length_append]
    omega
  · exact Nat.le_refl _

theorem length_le_capitalizeTitle (before : Option Char) (cs : List Char) :
    cs.length ≤ (capitalizeTitle before cs).length := by
  induction before, cs using capitalizeTitle.induct with
  | case1 => exact Nat.zero_le _
  | case2 before c rest hletter word ih =>
    have hparts : word.length + (rest.dropWhile isAlphabetic).length = rest.length := by
      rw [← List.length_append, List.takeWhile_append_dropWhile]
    have hword := length_le_titleWord before.isNone c word
    rw [capitalizeTitle, if_pos hletter]
    simp only [List.length_append, List.length_cons]
    exact Nat.le_trans (by omega) (Nat.add_le_add hword ih)
  | case3 before c rest hletter ih =>
    rw [capitalizeTitle, if_neg hletter]
    exact Nat.succ_le_succ ih

end Casing

/-- No mode leaves out characters. -/
theorem CaseCursor.length_le_apply (k : CaseCursor) (text : String) :
    text.length ≤ (k.apply text).1.length := by
  have hconvert : text.toList.length ≤ (k.convert text.toList).1.length := by
    unfold convert
    split
    · exact Nat.le_refl _
    · exact Text.length_le_lowerAfter [] _
    · exact Text.length_le_upper _
    · split
      · next hfirst => exact Casing.length_le_capitalizeFirst? hfirst
      · exact Nat.le_refl _
    · exact Casing.length_le_capitalizeWords _ _
    · exact Casing.length_le_capitalizeSentences _ _
    · exact Casing.length_le_capitalizeTitle _ _
  rw [apply, String.length_ofList, ← String.length_toList]
  exact hconvert

/-- No article is empty, whatever its case. -/
theorem Article.length_inCaseOf_pos (printed : String) {article : String} (h : 1 ≤ article.length) :
    1 ≤ (inCaseOf printed article).length := by
  have huppered : article.length ≤ (Text.uppered article).length := by
    rw [Text.uppered, String.length_ofList, ← String.length_toList]
    exact Text.length_le_upper _
  unfold inCaseOf
  split
  · exact h
  · split
    · split
      · omega
      · split
        · next hnil =>
          rw [← String.length_toList, hnil] at h
          exact h
        · next c cs _ =>
          have hc := Text.length_upperOf_pos c
          rw [String.length_ofList, List.length_append]
          omega
    · exact h

/-! ## Channels -/

namespace Channel

variable {c : Channel}

/-- The letters of the article that is due: its form will follow what is written at the end. -/
def due (c : Channel) : Nat :=
  if c.articles.contains c.current then (c.chunk (c.current - 1)).length else 0

theorem length_articleForm_pos {i : Nat} {following form : String}
    (h : c.articleForm? i following = some form) : 1 ≤ form.length := by
  unfold articleForm? at h
  split at h
  · obtain ⟨article, harticle, rfl⟩ := Option.map_eq_some_iff.1 h
    obtain ⟨word, -, rfl⟩ := Option.map_eq_some_iff.1 harticle
    refine Article.length_inCaseOf_pos _ ?_
    split <;> decide
  · cases h

/-- Text at the end leaves the article that is due alone, at first. -/
theorem due_appendTo (h : c.Sound) (text : String) : (c.appendTo c.current text).due = c.due := by
  have hcurrent : (c.appendTo c.current text).current = c.current := rfl
  have harticles : (c.appendTo c.current text).articles = c.articles := rfl
  rw [due, due, hcurrent, harticles]
  split
  · next hdue =>
    have hpos := h c.current (List.contains_iff_mem.1 hdue)
    have hne : c.current ≠ c.current - 1 := by omega
    simp only [chunk_eq, appendTo, Array.toList_modify, List.getElem?_modify_ne _ _ hne]
  · rfl

/-- When an article is printed anew, the channel gains what the article gains. -/
theorem due_refreshArticle (c : Channel) :
    c.length + (c.refreshArticle c.current).due ≤ (c.refreshArticle c.current).length + c.due ∧
      ((c.refreshArticle c.current).due = 0 → c.due = 0) := by
  unfold refreshArticle
  split
  · next form hform =>
    have hpos := length_articleForm_pos hform
    have hdue : c.articles.contains c.current = true := by
      unfold articleForm? at hform
      split at hform
      · assumption
      · cases hform
    simp only [due, hdue, if_true]
    by_cases hbound : c.current - 1 < c.chunks.size
    · have hafter : (chunk { c with
          chunks := c.chunks.setIfInBounds (c.current - 1) form
          length := c.length + form.length - (c.chunk (c.current - 1)).length }
          (c.current - 1)) = form := by
        simp [chunk_eq, hbound]
      rw [hafter]
      exact ⟨by omega, fun hnone => by omega⟩
    · have hbefore : c.chunk (c.current - 1) = "" := by simp [chunk_eq, hbound]
      have hafter : (chunk { c with
          chunks := c.chunks.setIfInBounds (c.current - 1) form
          length := c.length + form.length - (c.chunk (c.current - 1)).length }
          (c.current - 1)) = "" := by
        simp [chunk_eq, hbound]
      rw [hafter, hbefore, String.length_empty]
      exact ⟨by omega, id⟩
  · exact ⟨Nat.le_refl _, id⟩

/-- Text is written at the end, and the article that is due is printed anew. -/
theorem due_append (h : c.Sound) (text : String) :
    c.length + text.length + ((c.appendTo c.current text).refreshArticle c.current).due ≤
        ((c.appendTo c.current text).refreshArticle c.current).length + c.due ∧
      (((c.appendTo c.current text).refreshArticle c.current).due = 0 → c.due = 0) := by
  have hrefresh := due_refreshArticle (c.appendTo c.current text)
  rwa [due_appendTo h] at hrefresh

/-- A write adds its text, but for the letters that the article that is due loses. -/
theorem due_write (h : c.Sound) (text : String) :
    c.length + text.length + (c.write text).due ≤ (c.write text).length + c.due ∧
      ((c.write text).due = 0 → c.due = 0) := by
  unfold write
  split
  · next hempty =>
    rw [String.isEmpty_iff.1 hempty]
    exact ⟨Nat.le_refl _, id⟩
  · have hprinted : text.length ≤ (c.prepare text).text.length := c.cursor.length_le_apply text
    unfold commit
    dsimp only
    split
    · next hempty =>
      have htext : text.length = 0 := by
        rw [String.isEmpty_iff.1 hempty, String.length_empty] at hprinted
        omega
      rw [htext]
      exact ⟨Nat.le_refl _, id⟩
    · obtain ⟨hle, hzero⟩ := due_append (c := { c with cursor := (c.prepare text).cursor }) h
        (c.prepare text).text
      exact ⟨Nat.le_trans (Nat.add_le_add_right (Nat.add_le_add_left hprinted _) _) hle, hzero⟩

/-- Texts that are written one after the other. -/
theorem due_foldl_write (h : c.Sound) (texts : List String) :
    c.length + total (texts.map (·.length)) + (texts.foldl write c).due ≤
        (texts.foldl write c).length + c.due ∧
      ((texts.foldl write c).due = 0 → c.due = 0) := by
  induction texts generalizing c with
  | nil => exact ⟨Nat.le_refl _, id⟩
  | cons text texts ih =>
    obtain ⟨hle, hzero⟩ := due_write h text
    obtain ⟨hle', hzero'⟩ := ih ((maintains_write text).sound c h)
    refine ⟨?_, fun hnone => hzero (hzero' hnone)⟩
    rw [List.foldl_cons, List.map_cons, total_cons]
    omega

/-- If the article that is due is no longer than the texts that are written, the channel is longer
behind them. -/
theorem lt_length_foldl_write (h : c.Sound) {texts : List String}
    (hpos : 0 < total (texts.map (·.length))) (hdue : c.due ≤ total (texts.map (·.length))) :
    c.length < (texts.foldl write c).length := by
  obtain ⟨hle, hzero⟩ := due_foldl_write h texts
  by_cases hnone : (texts.foldl write c).due = 0
  · have := hzero hnone
    omega
  · omega

theorem write_visibility (c : Channel) (text : String) :
    (c.write text).visibility = c.visibility := by
  unfold write commit refreshArticle
  split
  · rfl
  · dsimp only
    split
    · rfl
    · split <;> rfl

end Channel

/-! ## Stacks of channels -/

section Lists

variable {α : Type} {f : α → α}

/-- Items at different places are changed, each of them once. -/
theorem getElem?_foldl_modify {l : List Nat} (hl : l.Nodup) (xs : List α) (j : Nat) :
    (l.foldl (fun xs i => xs.modify i f) xs)[j]? = if j ∈ l then xs[j]?.map f else xs[j]? := by
  induction l generalizing xs with
  | nil => simp
  | cons i l ih =>
    obtain ⟨hi, hl⟩ := List.nodup_cons.1 hl
    rw [List.foldl_cons, ih hl, List.getElem?_modify]
    by_cases hij : i = j
    · subst hij
      simp [hi]
    · have hji : ¬j = i := fun h => hij h.symm
      simp [hij, hji]

theorem total_modify_lt {g : α → Nat} {i : Nat} {xs : List α} {a : α} (ha : xs[i]? = some a)
    (hlt : g a < g (f a)) : total (xs.map g) < total ((xs.modify i f).map g) := by
  induction xs generalizing i with
  | nil => simp at ha
  | cons b xs ih =>
    cases i with
    | zero =>
      cases ha
      simp only [List.modify_zero_cons, List.map_cons, total_cons]
      omega
    | succ i =>
      have := ih ha
      simp only [List.modify_succ_cons, List.map_cons, total_cons]
      omega

/-- Every item that is changed counts for more. -/
theorem total_add_length_le_foldl_modify {g : α → Nat} {l : List Nat} (hl : l.Nodup) {xs : List α}
    (h : ∀ i ∈ l, ∃ a, xs[i]? = some a ∧ g a < g (f a)) :
    total (xs.map g) + l.length ≤
      total ((l.foldl (fun xs i => xs.modify i f) xs).map g) := by
  induction l generalizing xs with
  | nil => exact Nat.le_refl _
  | cons i l ih =>
    obtain ⟨hi, hl⟩ := List.nodup_cons.1 hl
    obtain ⟨⟨a, ha, hlt⟩, hrest⟩ := List.forall_mem_cons.1 h
    have hone := total_modify_lt ha hlt
    have hothers : ∀ j ∈ l, ∃ a, (xs.modify i f)[j]? = some a ∧ g a < g (f a) := fun j hj => by
      have hij : i ≠ j := fun h => hi (h ▸ hj)
      rw [List.getElem?_modify_ne f xs hij]
      exact hrest j hj
    have hle := ih hl hothers
    rw [List.length_cons, List.foldl_cons]
    omega

end Lists

namespace ChannelStack

variable {o : ChannelStack} {f g : Channel → Channel}

theorem getElem?_modifyActive (h : o.active.Nodup) (f : Channel → Channel) (j : Nat) :
    (o.modifyActive f).channels.toList[j]? =
      if j ∈ o.active then o.channels.toList[j]?.map f else o.channels.toList[j]? := by
  rw [modifyActive]
  dsimp only
  rw [toList_foldl_modify, getElem?_foldl_modify h]

/-- Which channels a write reaches depends only on what is visited and how. -/
theorem active_congr {o' : ChannelStack} (hvisits : o'.visits = o.visits)
    (hvisible : ∀ i, o'.visibilityAt i = o.visibilityAt i) : o'.active = o.active := by
  have hreached : ∀ last visits, o'.reached last visits = o.reached last visits := by
    intro last visits
    induction visits generalizing last with
    | nil => rfl
    | cons i visits ih => simp only [reached, hvisible, ih]
  rw [active, active, hvisits, hreached]

theorem active_modifyActive (h : o.active.Nodup) (hf : ∀ c, (f c).visibility = c.visibility) :
    (o.modifyActive f).active = o.active := by
  refine active_congr rfl fun i => ?_
  have hget := getElem?_modifyActive h f i
  simp only [Array.getElem?_toList] at hget
  rw [visibilityAt, visibilityAt, hget]
  split
  · cases o.channels[i]? with
    | none => rfl
    | some c => exact hf c
  · rfl

theorem modifyActive_modifyActive (h : o.active.Nodup)
    (hf : ∀ c, (f c).visibility = c.visibility) :
    (o.modifyActive f).modifyActive g = o.modifyActive fun c => g (f c) := by
  have hactive := active_modifyActive h hf
  have hchannels : ((o.modifyActive f).modifyActive g).channels =
      (o.modifyActive fun c => g (f c)).channels := by
    refine Array.toList_inj.1 (List.ext_getElem? fun j => ?_)
    rw [getElem?_modifyActive (hactive ▸ h), getElem?_modifyActive h, getElem?_modifyActive h,
      hactive]
    split <;> simp [Function.comp_def]
  exact congrArg (ChannelStack.mk · o.visits) hchannels

/-- Nothing is done to the channels. -/
theorem modifyActive_self (h : o.active.Nodup) (hf : ∀ c, f c = c) : o.modifyActive f = o := by
  have hchannels : (o.modifyActive f).channels = o.channels := by
    refine Array.toList_inj.1 (List.ext_getElem? fun j => ?_)
    rw [getElem?_modifyActive h, funext hf (g := id)]
    simp
  exact congrArg (ChannelStack.mk · o.visits) hchannels

/-- A row of changes is made to each channel by itself. -/
theorem foldl_modifyActive {β : Type} {f : β → Channel → Channel}
    (hf : ∀ b c, (f b c).visibility = c.visibility) (h : o.active.Nodup) (l : List β) :
    l.foldl (fun o b => o.modifyActive (f b)) o =
      o.modifyActive fun c => l.foldl (fun c b => f b c) c := by
  induction l generalizing o with
  | nil => exact (modifyActive_self h fun _ => rfl).symm
  | cons b l ih =>
    rw [List.foldl_cons, ih (active_modifyActive h (hf b) ▸ h), modifyActive_modifyActive h (hf b)]
    rfl

/-- A write reaches some channel, and none that is not visited. -/
theorem Sound.exists_active (h : o.Sound) :
    o.active ≠ [] ∧ ∀ i ∈ o.active, i < o.channels.size := by
  obtain ⟨visits, hvisits⟩ := h.last
  have hnodup := h.nodup
  rw [hvisits] at hnodup
  refine ⟨?_, fun i hi => ?_⟩
  · rw [active, hvisits]
    cases visits with
    | nil =>
      simp only [List.nil_append, reached]
      split <;> simp_all
    | cons i visits =>
      simp only [List.cons_append, reached]
      split <;> simp_all
  · rw [active, hvisits] at hi
    refine h.lt i (hvisits ▸ (o.reached_nodup none hnodup).2 i hi)

/-- What makes every channel longer that a write reaches makes the output larger. -/
theorem Sound.size_lt_modifyActive (h : o.Sound)
    (hf : ∀ c ∈ o.ofActive id, c.length < (f c).length) : o.size < (o.modifyActive f).size := by
  obtain ⟨hsome, hbound⟩ := h.exists_active
  have hgrow : ∀ i ∈ o.active, ∃ c, o.channels.toList[i]? = some c ∧ c.length < (f c).length := by
    intro i hi
    obtain ⟨c, hget⟩ : ∃ c, o.channels[i]? = some c := ⟨_, Array.getElem?_eq_getElem (hbound i hi)⟩
    refine ⟨c, by rw [Array.getElem?_toList, hget], hf c (List.mem_filterMap.2 ⟨i, hi, ?_⟩)⟩
    rw [hget]
    rfl
  have hle := total_add_length_le_foldl_modify (g := Channel.length) h.active_nodup hgrow
  have hpos := List.length_pos_iff.2 hsome
  simp only [size, ChannelStack.modifyActive, toList_foldl_modify]
  exact Nat.lt_of_lt_of_le (Nat.lt_add_of_pos_right hpos) hle

end ChannelStack

end Wordsmith
