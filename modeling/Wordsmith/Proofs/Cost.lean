import Wordsmith.Channel.Stack

/-!
# What writes add to a channel

A channel holds the characters of its chunks and of the texts that wait for targets. A write is paid
for before it is made, by a cost that is read off the channel as it is then. The lemmas here say
that no write makes a channel hold more than it held before and the cost together: formatted text
counts as it is printed, and an article is paid for when it grows and not credited when it shrinks.

A chunk behind an article is never the first, so writing to it leaves the article alone until that
is printed anew.

Main results: `held_write_le`, `held_writeTarget_le`, `held_writeArticle_le`, `held_createTarget_le`
and `held_clearTarget_le`.
-/

namespace Wordsmith

/-! ## Totals -/

section Totals

variable {α : Type} {l : List α}

theorem total_modify_le {g : α → Nat} {f : α → α} {i d : Nat}
    (h : ∀ a ∈ l[i]?, g (f a) ≤ g a + d) :
    total ((l.modify i f).map g) ≤ total (l.map g) + d := by
  induction l generalizing i with
  | nil => simp
  | cons a l ih =>
    cases i with
    | zero =>
      have ha := h a rfl
      simp only [List.modify_zero_cons, List.map_cons, total_cons]
      omega
    | succ i =>
      have hl := ih fun b hb => h b hb
      simp only [List.modify_succ_cons, List.map_cons, total_cons]
      omega

theorem total_set_le {g : α → Nat} {b : α} {i d : Nat} (h : ∀ a ∈ l[i]?, g b ≤ g a + d) :
    total ((l.set i b).map g) ≤ total (l.map g) + d := by
  have : Inhabited α := ⟨b⟩
  have hset : l.modify i (fun _ => b) = l.set i b := List.modify_eq_set _ i l
  rw [← hset]
  exact total_modify_le h

end Totals

namespace Named

variable {α : Type}

theorem total_store_le {g : α → Nat} {name : String} {a : α} {d : Nat}
    {entries : List (String × α)} (h : g a ≤ ((lookup name entries).map g).getD 0 + d) :
    total ((store name a entries).map (g ·.2)) ≤ total (entries.map (g ·.2)) + d := by
  induction entries with
  | nil => simpa [store, lookup] using h
  | cons e entries ih =>
    obtain ⟨n, b⟩ := e
    by_cases hn : n = name
    · simp only [lookup, hn, if_true, Option.map_some, Option.getD_some] at h
      simp only [store, hn, if_true, List.map_cons, total_cons]
      omega
    · simp only [lookup, hn, if_false] at h
      have := ih h
      simp only [store, hn, if_false, List.map_cons, total_cons]
      omega

/-- A name that is removed takes its value along. -/
theorem total_erase_le {g : α → Nat} {name : String} {entries : List (String × α)} :
    total ((entries.filter fun e => e.1 != name).map (g ·.2)) +
      ((lookup name entries).map g).getD 0 ≤ total (entries.map (g ·.2)) := by
  induction entries with
  | nil => simp [lookup]
  | cons e entries ih =>
    obtain ⟨n, b⟩ := e
    by_cases hn : n = name
    · have hrest : total ((entries.filter fun e => e.1 != name).map (g ·.2)) ≤
          total (entries.map (g ·.2)) := Nat.le_trans (Nat.le_add_right _ _) ih
      simp only [lookup, hn, if_true, Option.map_some, Option.getD_some, bne_self_eq_false,
        Bool.false_eq_true, not_false_eq_true, List.filter_cons_of_neg, List.map_cons, total_cons]
      omega
    · have hne : (n != name) = true := by simpa using hn
      simp only [lookup, hn, if_false, List.filter_cons_of_pos, hne, List.map_cons, total_cons]
      omega

end Named

namespace Channel

variable {c : Channel}

/-! ## What a channel holds -/

/-- The characters of the chunks. -/
def printed (c : Channel) : Nat := total (c.chunks.toList.map (·.length))

/-- The characters that wait for targets. -/
def waiting (c : Channel) : Nat := total (c.queued.entries.map (·.2.length))

/-- The characters of the chunks and of the texts that wait for targets. -/
def held (c : Channel) : Nat := c.printed + c.waiting

/-- Every article has a chunk of its own. -/
def Sound (c : Channel) : Prop := ∀ i ∈ c.articles, 0 < i

theorem length_value (c : Channel) : c.value.length = c.printed := String.length_join

theorem chunk_eq (c : Channel) (i : Nat) : c.chunk i = (c.chunks.toList[i]?).getD "" := by
  simp [chunk, Array.getD_eq_getD_getElem?]

theorem printed_pushChunk (c : Channel) (text : String) :
    (c.pushChunk text).printed = c.printed + text.length := by
  simp [printed, pushChunk]

theorem held_pushChunk (c : Channel) (text : String) :
    (c.pushChunk text).held = c.held + text.length := by
  have := c.printed_pushChunk text
  simp only [held, this, show (c.pushChunk text).waiting = c.waiting from rfl]
  omega

theorem held_appendTo_le (c : Channel) (i : Nat) (text : String) :
    (c.appendTo i text).held ≤ c.held + text.length := by
  have hprinted : (c.appendTo i text).printed ≤ c.printed + text.length := by
    simp only [printed, appendTo, Array.toList_modify]
    exact total_modify_le fun s _ => by simp
  have hwaiting : (c.appendTo i text).waiting = c.waiting := rfl
  simp only [held, hwaiting]
  omega

theorem held_clearChunk_le (c : Channel) (i : Nat) : (c.clearChunk i).held ≤ c.held := by
  have hprinted : (c.clearChunk i).printed ≤ c.printed + 0 := by
    simp only [printed, clearChunk, Array.toList_setIfInBounds]
    exact total_set_le fun s _ => by simp
  have hwaiting : (c.clearChunk i).waiting = c.waiting := rfl
  simp only [held, hwaiting]
  omega

/-! ## Articles -/

theorem held_refreshArticle_le (c : Channel) (i : Nat) :
    (c.refreshArticle i).held ≤ c.held + c.articleGrowth i (c.chunk i) := by
  unfold refreshArticle articleGrowth
  split
  · next form hform =>
    have hprinted : total ((c.chunks.toList.set (i - 1) form).map (·.length)) ≤
        c.printed + (form.length - (c.chunk (i - 1)).length) := by
      refine total_set_le fun s hs => ?_
      have hchunk : c.chunk (i - 1) = s := by
        rw [chunk_eq, Option.mem_def.1 hs, Option.getD_some]
      rw [hchunk]
      omega
    simp only [held, printed, waiting, Array.toList_setIfInBounds]
    simp only [printed] at hprinted
    omega
  · exact Nat.le_add_right _ _

/-- An article never follows from no text at all. -/
theorem articleGrowth_empty (c : Channel) (i : Nat) : c.articleGrowth i "" = 0 := by
  have hnone : c.articleForm? i "" = none := by
    unfold articleForm?
    split <;> rfl
  simp [articleGrowth, hnone]

theorem chunk_appendTo (c : Channel) (i : Nat) (text : String) :
    (c.appendTo i text).chunk i = if i < c.chunks.size then c.chunk i ++ text else "" := by
  simp only [chunk_eq, appendTo, Array.toList_modify, List.getElem?_modify_eq]
  by_cases hi : i < c.chunks.size
  · simp [hi]
  · simp [hi]

/-- Behind text that is written, the article grows as was foreseen. -/
theorem articleGrowth_appendTo_le (h : c.Sound) (i : Nat) (text : String) :
    (c.appendTo i text).articleGrowth i ((c.appendTo i text).chunk i) ≤
      c.articleGrowth i (c.chunk i ++ text) := by
  rw [chunk_appendTo]
  split
  · by_cases hi : i ∈ c.articles
    · have hbefore : (c.appendTo i text).chunk (i - 1) = c.chunk (i - 1) := by
        have hne : i ≠ i - 1 := Nat.ne_of_gt (Nat.sub_one_lt (Nat.ne_of_gt (h i hi)))
        simp only [chunk_eq, appendTo, Array.toList_modify, List.getElem?_modify_ne _ _ hne]
      simp only [articleGrowth, articleForm?, hbefore]
      exact Nat.le_refl _
    · have hnone : (c.appendTo i text).articleForm? i (c.chunk i ++ text) = none := by
        simp [articleForm?, appendTo, hi]
      simp [articleGrowth, hnone]
  · rw [articleGrowth_empty]
    exact Nat.zero_le _

theorem chunk_clearChunk (c : Channel) (i : Nat) : (c.clearChunk i).chunk i = "" := by
  simp only [chunk_eq, clearChunk, Array.toList_setIfInBounds, List.getElem?_set_self']
  cases c.chunks.toList[i]? <;> rfl

/-- Emptying a chunk leaves the article before it alone. -/
theorem articleGrowth_clearChunk (h : c.Sound) (i : Nat) (following : String) :
    (c.clearChunk i).articleGrowth i following = c.articleGrowth i following := by
  by_cases hi : i ∈ c.articles
  · have hbefore : (c.clearChunk i).chunk (i - 1) = c.chunk (i - 1) := by
      have hne : i ≠ i - 1 := Nat.ne_of_gt (Nat.sub_one_lt (Nat.ne_of_gt (h i hi)))
      simp only [chunk_eq, clearChunk, Array.toList_setIfInBounds, List.getElem?_set_ne hne]
    simp only [articleGrowth, articleForm?, hbefore]
    rfl
  · simp [articleGrowth, articleForm?, clearChunk, hi]

/-- Text is written, and the article before it is printed anew. -/
theorem held_append_le (h : c.Sound) (i : Nat) (text : String) :
    ((c.appendTo i text).refreshArticle i).held ≤
      c.held + text.length + c.articleGrowth i (c.chunk i ++ text) := by
  have hrefresh := (c.appendTo i text).held_refreshArticle_le i
  have hgrowth := articleGrowth_appendTo_le h i text
  have happend := c.held_appendTo_le i text
  omega

/-! ## Writes -/

theorem cost_prepare (c : Channel) (text : String) :
    (c.prepare text).cost = (c.prepare text).text.length +
      c.articleGrowth c.current (c.chunk c.current ++ (c.prepare text).text) := by
  have hgrowth : (c.prepare text).articleGrowth =
      c.articleGrowth c.current (c.chunk c.current ++ (c.prepare text).text) := by
    unfold prepare
    dsimp only
    split
    · rfl
    · next hnone =>
      unfold articleGrowth articleForm?
      simp only [hnone]
      rfl
  rw [PendingWrite.cost, hgrowth]

theorem held_write_le (h : c.Sound) (text : String) :
    (c.write text).held ≤ c.held + (c.prepare text).cost := by
  unfold write
  split
  · exact Nat.le_add_right _ _
  · rw [cost_prepare]
    unfold commit
    dsimp only
    split
    · exact Nat.le_add_right _ _
    · have happend := held_append_le (c := { c with cursor := (c.prepare text).cursor }) h c.current
        (c.prepare text).text
      rw [← Nat.add_assoc]
      exact happend

theorem length_upperOf_a : (Text.upperOf 'a').length = 1 := rfl

/-- An article is a single letter when it is first printed, in whatever case. -/
theorem length_apply_article (k : CaseCursor) : (k.apply "a").1.length = 1 := by
  have hconvert : (k.convert ['a']).1.length = 1 := by
    unfold CaseCursor.convert
    split
    · rfl
    · rfl
    · rfl
    · by_cases hletter : Text.isAlphabetic 'a' = true
      · simp [Casing.capitalizeFirst?, hletter, length_upperOf_a]
      · simp [Casing.capitalizeFirst?, hletter]
    · simp only [Casing.capitalizeWords, List.append_nil]
      split <;> rfl
    · simp only [Casing.capitalizeSentences, List.append_nil]
      split
      · rfl
      · split <;> rfl
    · simp only [Casing.capitalizeTitle, List.takeWhile_nil, List.dropWhile_nil, List.append_nil,
        Casing.titleWord]
      split
      · split <;> rfl
      · rfl
  simpa [CaseCursor.apply] using hconvert

theorem held_writeArticle_le (c : Channel) : c.writeArticle.held ≤ c.held + 1 := by
  have hprinted := held_pushChunk { c with cursor := (c.cursor.apply "a").2 } (c.cursor.apply "a").1
  have hnext := held_pushChunk
    (pushChunk { c with cursor := (c.cursor.apply "a").2 } (c.cursor.apply "a").1) ""
  rw [length_apply_article] at hprinted
  exact Nat.le_of_eq (hnext.trans hprinted)

theorem held_writeTarget_le (h : c.Sound) (name value : String) (overwrite : Bool) :
    (c.writeTarget name value overwrite).held ≤ c.held + c.targetCost name value overwrite := by
  unfold writeTarget targetCost
  cases hopen : c.targets.get? name with
  | some i =>
    dsimp only
    cases overwrite with
    | false =>
      have happend := held_append_le h i value
      simp only [Bool.false_eq_true, if_false]
      omega
    | true =>
      have happend := held_append_le (c := c.clearChunk i) h i value
      have hclear := c.held_clearChunk_le i
      rw [chunk_clearChunk, String.empty_append, articleGrowth_clearChunk h] at happend
      simp only [if_true]
      omega
  | none =>
    dsimp only
    have hstore : total ((c.queued.insert name ((if overwrite then "" else
        (c.queued.get? name).getD "") ++ value)).entries.map (·.2.length)) ≤
          c.waiting + value.length := by
      refine Named.total_store_le (g := String.length) ?_
      cases overwrite with
      | true => simp
      | false =>
        simp only [Named.get?, Bool.false_eq_true, if_false, String.length_append]
        cases Named.lookup name c.queued.entries <;> simp
    simp only [held, printed, waiting] at hstore ⊢
    omega

theorem held_createTarget_le (c : Channel) (name : String) :
    (c.createTarget name).held ≤ c.held := by
  have hqueued : total ((c.queued.entries.filter fun e => e.1 != name).map (·.2.length)) +
      ((c.queued.get? name).map String.length).getD 0 ≤ c.waiting := Named.total_erase_le
  have htext : ((c.queued.get? name).getD "").length =
      ((c.queued.get? name).map String.length).getD 0 := by
    cases c.queued.get? name <;> rfl
  have hprinted : (c.createTarget name).printed =
      c.printed + ((c.queued.get? name).getD "").length := by
    have htarget := c.printed_pushChunk ((c.queued.get? name).getD "")
    have hnext := (c.pushChunk ((c.queued.get? name).getD "")).printed_pushChunk ""
    exact hnext.trans htarget
  have hwaiting : (c.createTarget name).waiting =
      total ((c.queued.entries.filter fun e => e.1 != name).map (·.2.length)) := rfl
  simp only [held, hprinted, hwaiting]
  omega

theorem held_clearTarget_le (c : Channel) (name : String) : (c.clearTarget name).held ≤ c.held := by
  unfold clearTarget
  split
  · exact c.held_clearChunk_le _
  · unfold Named.modify
    split
    · have hstore : total ((c.queued.insert name "").entries.map (·.2.length)) ≤ c.waiting + 0 :=
        Named.total_store_le (g := String.length) (Nat.zero_le _)
      simp only [held, printed, waiting] at hstore ⊢
      omega
    · exact Nat.le_refl _

/-! ## What operations maintain -/

/-- The operation changes neither the name of a channel nor that its articles have chunks of their
own. -/
structure Maintains (f : Channel → Channel) : Prop where
  name : ∀ c, (f c).name = c.name
  sound : ∀ c, c.Sound → (f c).Sound

theorem maintains_of_articles {f : Channel → Channel} (hname : ∀ c, (f c).name = c.name)
    (harticles : ∀ c, (f c).articles = c.articles) : Maintains f :=
  ⟨hname, fun c h => by rwa [Sound, harticles c]⟩

theorem refreshArticle_name (c : Channel) (i : Nat) : (c.refreshArticle i).name = c.name := by
  unfold refreshArticle
  split <;> rfl

theorem refreshArticle_articles (c : Channel) (i : Nat) :
    (c.refreshArticle i).articles = c.articles := by
  unfold refreshArticle
  split <;> rfl

theorem maintains_setMode (mode : CaseMode) : Maintains (·.setMode mode) :=
  maintains_of_articles (fun _ => rfl) fun _ => rfl

theorem maintains_setMarker (name : String) : Maintains (·.setMarker name) :=
  maintains_of_articles (fun _ => rfl) fun _ => rfl

theorem maintains_createTarget (name : String) : Maintains (·.createTarget name) :=
  maintains_of_articles (fun _ => rfl) fun _ => rfl

theorem maintains_clearTarget (name : String) : Maintains (·.clearTarget name) := by
  refine maintains_of_articles (fun c => ?_) fun c => ?_ <;>
  · unfold clearTarget
    split <;> rfl

theorem maintains_write (text : String) : Maintains (·.write text) := by
  refine maintains_of_articles (fun c => ?_) fun c => ?_
  · unfold write commit
    split
    · rfl
    · dsimp only
      split
      · rfl
      · exact refreshArticle_name _ _
  · unfold write commit
    split
    · rfl
    · dsimp only
      split
      · rfl
      · exact refreshArticle_articles _ _

theorem maintains_writeTarget (name value : String) (overwrite : Bool) :
    Maintains (·.writeTarget name value overwrite) := by
  refine maintains_of_articles (fun c => ?_) fun c => ?_
  · unfold writeTarget
    split
    · dsimp only
      rw [refreshArticle_name]
      cases overwrite <;> rfl
    · rfl
  · unfold writeTarget
    split
    · dsimp only
      rw [refreshArticle_articles]
      cases overwrite <;> rfl
    · rfl

/-- A new article stands before a chunk that is not the first. -/
theorem maintains_writeArticle : Maintains (·.writeArticle) := by
  refine ⟨fun _ => rfl, fun c h i hi => ?_⟩
  rcases List.mem_cons.1 hi with rfl | hi
  · simp [pushChunk]
  · exact h i hi

end Channel

/-! ## Stacks of channels -/

theorem toList_foldl_modify {α : Type} (f : α → α) (l : List Nat) (xs : Array α) :
    (l.foldl (fun xs i => xs.modify i f) xs).toList =
      l.foldl (fun xs i => xs.modify i f) xs.toList := by
  induction l generalizing xs with
  | nil => rfl
  | cons i l ih => rw [List.foldl_cons, List.foldl_cons, ih, Array.toList_modify]

theorem total_filterMap {α : Type} (f : α → Option Nat) (l : List α) :
    total (l.filterMap f) = total (l.map fun a => (f a).getD 0) := by
  induction l with
  | nil => rfl
  | cons a l ih => cases ha : f a <;> simp [ha, ih]

/-- Items at different places are changed, each at its own cost. -/
theorem total_foldl_modify_le {α : Type} {f : α → α} {g cost : α → Nat} {l : List Nat}
    (hl : l.Nodup) {xs : List α} (h : ∀ i ∈ l, ∀ a ∈ xs[i]?, g (f a) ≤ g a + cost a) :
    total ((l.foldl (fun xs i => xs.modify i f) xs).map g) ≤
      total (xs.map g) + total (l.map fun i => (xs[i]?.map cost).getD 0) := by
  induction l generalizing xs with
  | nil => exact Nat.le_add_right _ _
  | cons i l ih =>
    obtain ⟨hi, hl⟩ := List.nodup_cons.1 hl
    obtain ⟨hfirst, hrest⟩ := List.forall_mem_cons.1 h
    have hother : ∀ j ∈ l, (xs.modify i f)[j]? = xs[j]? := fun j hj =>
      List.getElem?_modify_ne f xs fun hij => hi (hij ▸ hj)
    have hcosts : (l.map fun j => ((xs.modify i f)[j]?.map cost).getD 0) =
        l.map fun j => (xs[j]?.map cost).getD 0 :=
      List.map_congr_left fun j hj => by rw [hother j hj]
    have hmodified := ih hl fun j hj a ha => hrest j hj a (hother j hj ▸ ha)
    have hone : total ((xs.modify i f).map g) ≤
        total (xs.map g) + (xs[i]?.map cost).getD 0 := by
      refine total_modify_le fun a ha => ?_
      have hcost := hfirst a ha
      rwa [Option.mem_def.1 ha, Option.map_some, Option.getD_some]
    rw [hcosts] at hmodified
    rw [List.foldl_cons, List.map_cons, total_cons]
    omega

theorem foldl_modify_keeps {α : Type} {P : α → Prop} {f : α → α} (hf : ∀ a, P a → P (f a))
    (l : List Nat) {xs : List α} (h : ∀ a ∈ xs, P a) :
    ∀ a ∈ l.foldl (fun xs i => xs.modify i f) xs, P a := by
  induction l generalizing xs with
  | nil => exact h
  | cons i l ih =>
    refine ih fun a ha => ?_
    obtain ⟨j, hj⟩ := List.mem_iff_getElem?.1 ha
    rw [List.getElem?_modify] at hj
    obtain ⟨b, hb, rfl⟩ := Option.map_eq_some_iff.1 hj
    have hPb := h b (List.mem_of_getElem? hb)
    split
    · exact hf b hPb
    · exact hPb

/-- What no change touches stays the same at every place. -/
theorem map_foldl_modify {α β : Type} {f : α → α} {g : α → β} (hf : ∀ a, g (f a) = g a)
    (l : List Nat) (xs : List α) :
    (l.foldl (fun xs i => xs.modify i f) xs).map g = xs.map g := by
  induction l generalizing xs with
  | nil => rfl
  | cons i l ih =>
    rw [List.foldl_cons, ih]
    refine List.ext_getElem? fun j => ?_
    rw [List.getElem?_map, List.getElem?_map, List.getElem?_modify]
    cases xs[j]? with
    | none => rfl
    | some a =>
      by_cases hij : i = j
      · simpa [hij] using hf a
      · simp [hij]

namespace ChannelStack

variable {s : ChannelStack}

/-- The characters that all channels hold. -/
def held (s : ChannelStack) : Nat := total (s.channels.toList.map Channel.held)

/-- The main channel is there and stays visited, below all others, and no channel is visited
twice. -/
structure Sound (s : ChannelStack) : Prop where
  channels : ∀ c ∈ s.channels.toList, c.Sound
  main : s.channels[0]?.map (·.name) = some mainName
  nodup : s.visits.Nodup
  last : ∃ visits, s.visits = visits ++ [0]
  lt : ∀ i ∈ s.visits, i < s.channels.size

/-- A write reaches no channel twice. -/
theorem reached_nodup (s : ChannelStack) (last : Option Visibility) {visits : List Nat}
    (h : (visits ++ [0]).Nodup) :
    (s.reached last (visits ++ [0])).Nodup ∧
      ∀ i ∈ s.reached last (visits ++ [0]), i ∈ visits ++ [0] := by
  induction visits generalizing last with
  | nil =>
    simp only [List.nil_append, reached]
    split <;> simp
  | cons i visits ih =>
    rw [List.cons_append, List.nodup_cons] at h
    obtain ⟨hi, hvisits⟩ := h
    have hzero : i ≠ 0 := by
      rintro rfl
      exact hi (by simp)
    have further : ∀ last, (i :: s.reached last (visits ++ [0])).Nodup ∧
        ∀ j ∈ i :: s.reached last (visits ++ [0]), j ∈ i :: (visits ++ [0]) := by
      intro last
      obtain ⟨hnodup, hmem⟩ := ih last hvisits
      refine ⟨List.nodup_cons.2 ⟨fun h => hi (hmem i h), hnodup⟩, fun j hj => ?_⟩
      rcases List.mem_cons.1 hj with rfl | hj
      · exact List.mem_cons_self
      · exact List.mem_cons_of_mem _ (hmem j hj)
    rw [List.cons_append]
    unfold reached
    split
    · rw [if_neg hzero]
      exact ⟨by simp [hzero], by simp⟩
    · exact ⟨by simp, by simp⟩
    · exact ⟨by simp, by simp⟩
    · exact further _
    · exact ⟨by simp, by simp⟩
    · exact further _

theorem Sound.active_nodup (h : s.Sound) : s.active.Nodup := by
  obtain ⟨visits, hvisits⟩ := h.last
  have hnodup := h.nodup
  rw [hvisits] at hnodup
  rw [active, hvisits]
  exact (s.reached_nodup none hnodup).1

/-- What is done to the channels that a write reaches adds at most its cost. -/
theorem Sound.held_modifyActive_le (h : s.Sound) {f : Channel → Channel} {cost : Channel → Nat}
    (hf : ∀ c, c.Sound → (f c).held ≤ c.held + cost c) :
    (s.modifyActive f).held ≤ s.held + total (s.ofActive cost) := by
  have hcosts : total (s.ofActive cost) =
      total (s.active.map fun i => (s.channels.toList[i]?.map cost).getD 0) := by
    simp only [ofActive, total_filterMap, Array.getElem?_toList]
  rw [hcosts]
  simp only [held, ChannelStack.modifyActive, toList_foldl_modify]
  refine total_foldl_modify_le h.active_nodup fun i _ c hc => hf c ?_
  exact h.channels c (List.mem_of_getElem? hc)

theorem total_ofActive_const_le (s : ChannelStack) (k : Nat) :
    total (s.ofActive fun _ => k) ≤ s.active.length * k := by
  rw [ofActive, total_filterMap]
  induction s.active with
  | nil => simp
  | cons i l ih =>
    have hone : ((s.channels[i]?).map fun _ => k).getD 0 ≤ k := by
      cases s.channels[i]? <;> simp
    rw [List.map_cons, total_cons, List.length_cons, Nat.succ_mul]
    omega

theorem names_modifyActive (s : ChannelStack) {f : Channel → Channel}
    (hf : ∀ c, (f c).name = c.name) :
    (s.modifyActive f).channels.toList.map (·.name) = s.channels.toList.map (·.name) := by
  simp only [modifyActive, toList_foldl_modify]
  exact map_foldl_modify hf s.active s.channels.toList

theorem Sound.modifyActive (h : s.Sound) {f : Channel → Channel} (hf : Channel.Maintains f) :
    (s.modifyActive f).Sound := by
  have hnames := s.names_modifyActive hf.name
  refine ⟨?_, ?_, h.nodup, h.last, ?_⟩
  · simp only [ChannelStack.modifyActive, toList_foldl_modify]
    exact foldl_modify_keeps hf.sound s.active h.channels
  · have hmain := h.main
    rw [← Array.getElem?_toList, ← List.getElem?_map] at hmain ⊢
    rwa [hnames]
  · intro i hi
    have hsize := congrArg List.length hnames
    rw [List.length_map, List.length_map, Array.length_toList, Array.length_toList] at hsize
    rw [hsize]
    exact h.lt i hi

theorem sound_initial : initial.Sound := by
  refine ⟨?_, rfl, ?_, ⟨[], rfl⟩, ?_⟩
  · intro c hc
    cases List.mem_singleton.1 hc
    exact nofun
  · simp [initial]
  · simp [initial]

theorem held_initial : initial.held = 0 := rfl

theorem place?_lt {name : String} {i : Nat} (h : s.place? name = some i) : i < s.channels.size :=
  (Array.findIdx?_eq_some_iff_getElem.1 h).1

/-- Only the main channel has its name. -/
theorem Sound.place?_ne_zero (h : s.Sound) {name : String} (hname : name ≠ mainName) {i : Nat}
    (hi : s.place? name = some i) : i ≠ 0 := by
  rintro rfl
  obtain ⟨hlt, hfound, -⟩ := Array.findIdx?_eq_some_iff_getElem.1 hi
  have hmain := h.main
  rw [Array.getElem?_eq_getElem hlt, Option.map_some, Option.some.injEq] at hmain
  exact hname ((eq_of_beq hfound).symm.trans hmain)

theorem Sound.push (h : s.Sound) (name : String) (visibility : Visibility) :
    (s.push name visibility).Sound := by
  unfold ChannelStack.push
  split
  · exact h
  · obtain ⟨visits, hvisits⟩ := h.last
    split
    · next i hi =>
      have hshown : ∀ c : Channel, c.Sound → Channel.Sound { c with visibility := visibility } :=
        fun _ hc => hc
      have hchannels := foldl_modify_keeps hshown [i] h.channels
      have hnames := map_foldl_modify (f := fun c : Channel => { c with visibility := visibility })
        (g := (·.name)) (fun _ => rfl) [i] s.channels.toList
      have hlt := place?_lt hi
      refine ⟨?_, ?_, ?_, ?_, ?_⟩
      · simpa using hchannels
      · have hmain := h.main
        rw [← Array.getElem?_toList, ← List.getElem?_map] at hmain ⊢
        rw [← hmain, ← hnames]
        simp
      · dsimp only
        split
        · exact h.nodup
        · next hnew => exact List.nodup_cons.2 ⟨by simpa using hnew, h.nodup⟩
      · dsimp only
        split
        · exact h.last
        · exact ⟨i :: visits, by rw [hvisits, List.cons_append]⟩
      · dsimp only
        rw [Array.size_modify]
        split
        · exact h.lt
        · exact List.forall_mem_cons.2 ⟨hlt, h.lt⟩
    · have hpos : 0 < s.channels.size := h.lt 0 (by simp [hvisits])
      refine ⟨?_, ?_, ?_, ⟨s.channels.size :: visits, by rw [hvisits, List.cons_append]⟩, ?_⟩
      · intro c hc
        rw [Array.toList_push] at hc
        rcases List.mem_append.1 hc with hc | hc
        · exact h.channels c hc
        · cases List.mem_singleton.1 hc
          exact nofun
      · have hmain := h.main
        rwa [Array.getElem?_push_lt hpos, ← Array.getElem?_eq_getElem hpos]
      · exact List.nodup_cons.2 ⟨fun hmem => Nat.lt_irrefl _ (h.lt _ hmem), h.nodup⟩
      · simp only [Array.size_push]
        refine List.forall_mem_cons.2 ⟨Nat.lt_succ_self _, fun j hj => ?_⟩
        exact Nat.lt_succ_of_lt (h.lt j hj)

theorem Sound.pop (h : s.Sound) (name : String) : (s.pop name).Sound := by
  unfold ChannelStack.pop
  split
  · exact h
  · next hname =>
    split
    · next i hi =>
      have hzero := h.place?_ne_zero hname hi
      obtain ⟨visits, hvisits⟩ := h.last
      refine ⟨h.channels, h.main, h.nodup.filter _, ⟨visits.filter (· != i), ?_⟩, ?_⟩
      · simp [hvisits, Ne.symm hzero]
      · exact fun j hj => h.lt j (List.mem_filter.1 hj).1
    · exact h

theorem held_push (s : ChannelStack) (name : String) (visibility : Visibility) :
    (s.push name visibility).held ≤ s.held := by
  unfold ChannelStack.push
  split
  · exact Nat.le_refl _
  · split
    · simp only [held, Array.toList_modify]
      exact total_modify_le (d := 0) fun c _ => Nat.le_refl _
    · simp only [held, Array.toList_push, List.map_append, total_append]
      exact Nat.le_refl _

theorem held_pop (s : ChannelStack) (name : String) : (s.pop name).held = s.held := by
  unfold ChannelStack.pop
  split
  · rfl
  · split <;> rfl

end ChannelStack

end Wordsmith
