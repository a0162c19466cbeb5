import Wordsmith.Proofs.Articles

/-!
# Targets

Text for a target waits in a queue until the target is opened, and is put into its chunk from then
on. Both sides keep the same text: an operation on the target does to what waits what it does to the
chunk (`targetText`). And apart from that text, a channel is what it would be without these
operations, because a target that is open has a chunk of its own that no article, no marker, no other
target and not the end of the channel is in: emptying that chunk, or dropping what waits, commutes
with all that is done elsewhere (`without`).

So what comes of a channel is told by two things that know nothing of each other: the text that the
operations on the target make, one after the other, and the channel that the rest makes, the opening
of the target among them.

Main result: `writes_interchange`.
-/

namespace Wordsmith

/-! ## Names that are removed -/

namespace Named

variable {α : Type} {name other : String}

theorem erase_erase (t : Named α) (name : String) : (t.erase name).erase name = t.erase name := by
  simp [erase]

theorem erase_comm (t : Named α) (name other : String) :
    (t.erase name).erase other = (t.erase other).erase name := by
  simp [erase, Bool.and_comm]

theorem get?_erase_self (t : Named α) (name : String) : (t.erase name).get? name = none := by
  obtain ⟨entries⟩ := t
  simp only [get?, erase]
  induction entries with
  | nil => rfl
  | cons e entries ih =>
    by_cases he : e.1 = name
    · simpa [he] using ih
    · simpa [he, lookup] using ih

theorem get?_erase_of_ne (h : other ≠ name) (t : Named α) :
    (t.erase name).get? other = t.get? other := by
  obtain ⟨entries⟩ := t
  simp only [get?, erase]
  induction entries with
  | nil => rfl
  | cons e entries ih =>
    by_cases he : e.1 = name
    · have hne : e.1 ≠ other := fun heq => h (heq.symm.trans he)
      simpa [he, lookup, h.symm] using ih
    · simp [he, lookup, ih]

/-- A value that is set does not outlive its name. -/
theorem erase_insert_self (t : Named α) (name : String) (a : α) :
    (t.insert name a).erase name = t.erase name := by
  obtain ⟨entries⟩ := t
  simp only [insert, erase, mk.injEq]
  induction entries with
  | nil => simp [store]
  | cons e entries ih =>
    by_cases he : e.1 = name <;> simp [store, he, ih]

/-- The other names keep their places. -/
theorem erase_insert_of_ne (h : other ≠ name) (t : Named α) (a : α) :
    (t.insert other a).erase name = (t.erase name).insert other a := by
  obtain ⟨entries⟩ := t
  simp only [insert, erase, mk.injEq]
  induction entries with
  | nil => simp [store, h]
  | cons e entries ih =>
    by_cases he : e.1 = other
    · simp [store, he, h]
    · by_cases hname : e.1 = name <;> simp [store, he, hname, ih, Ne.symm h]

/-- A value that is changed does not outlive its name either. -/
theorem erase_modify_self (t : Named α) (name : String) (f : α → α) :
    (t.modify name f).erase name = t.erase name := by
  unfold modify
  split
  · exact t.erase_insert_self name _
  · rfl

theorem erase_modify_of_ne (h : other ≠ name) (t : Named α) (f : α → α) :
    (t.modify other f).erase name = (t.erase name).modify other f := by
  unfold modify
  rw [get?_erase_of_ne h]
  split
  · exact erase_insert_of_ne h t _
  · rfl

theorem get?_modify (t : Named α) (name : String) (f : α → α) (other : String) :
    (t.modify name f).get? other =
      if name = other then (t.get? other).map f else t.get? other := by
  unfold modify
  split
  · next a ha =>
    rw [get?_insert]
    split
    · next heq => rw [← heq, ha, Option.map_some]
    · rfl
  · next hnone =>
    split
    · next heq => rw [← heq, hnone, Option.map_none]
    · rfl

end Named

namespace Channel

variable {c : Channel} {i j : Nat} {s t : String} {target : String}

/-! ## Chunks that change in any order -/

/-- Two chunks are no longer than all of them together. -/
theorem Coherent.length_chunk_add_le (h : c.Coherent) (hi : i < c.chunks.size) (hne : i ≠ j) :
    (c.chunk i).length + (c.chunk j).length ≤ c.length := by
  have hprinted := printed_setChunk hi ""
  have hother := (c.setChunk i "").length_chunk_le j
  rw [chunk_setChunk_of_ne hne.symm] at hother
  rw [h.length_eq, length_value]
  simp only [String.length_empty] at hprinted
  omega

theorem setChunk_comm (h : c.Coherent) (hi : i < c.chunks.size) (hne : i ≠ j) :
    (c.setChunk i s).setChunk j t = (c.setChunk j t).setChunk i s := by
  have hlength := h.length_chunk_add_le hi hne
  have hi' := chunk_setChunk_of_ne (c := c) hne t
  have hj' := chunk_setChunk_of_ne (c := c) hne.symm s
  simp only [setChunk] at hi' hj' ⊢
  simp only [mk.injEq, true_and]
  refine ⟨Array.setIfInBounds_comm _ _ hne, ?_⟩
  rw [hi', hj']
  omega

theorem setChunk_setChunk (h : c.Coherent) (hi : i < c.chunks.size) :
    (c.setChunk i s).setChunk i t = c.setChunk i t := by
  have hlength := h.length_chunk_le i
  have hchunk : (c.setChunk i s).chunk i = s := by rw [chunk_setChunk hi, if_pos rfl]
  simp only [setChunk] at hchunk ⊢
  simp only [mk.injEq, true_and]
  refine ⟨by simp, ?_⟩
  rw [hchunk]
  omega

/-! ## Chunks of targets -/

/-- A chunk that is not the end of the channel, no article and behind none. -/
structure IsAside (c : Channel) (i : Nat) : Prop where
  lt_current : i < c.current
  apart : ∀ j ∈ c.articles, i ≠ j ∧ i ≠ j - 1

theorem Coherent.isAside (h : c.Coherent) (hopen : c.targets.get? target = some i) : c.IsAside i :=
  let ⟨hlt, hapart⟩ := h.target target i hopen
  ⟨hlt, hapart⟩

namespace IsAside

theorem notMem (hi : c.IsAside i) : i ∉ c.articles := fun hmem => (hi.apart i hmem).1 rfl

theorem refreshArticle_setChunk (hi : c.IsAside i) (h : c.Coherent) (hne : i ≠ j) :
    (c.setChunk i s).refreshArticle j = (c.refreshArticle j).setChunk i s := by
  have hchunk : (c.setChunk i s).chunk j = c.chunk j := chunk_setChunk_of_ne hne.symm s
  by_cases hdue : j ∈ c.articles
  · have hbefore : i ≠ j - 1 := (hi.apart j hdue).2
    have hform : (c.setChunk i s).articleForm? j (c.chunk j) = c.articleForm? j (c.chunk j) := by
      rw [articleForm?, articleForm?, chunk_setChunk_of_ne hbefore.symm]
      rfl
    rw [refreshArticle_eq, refreshArticle_eq, hchunk, hform]
    cases c.articleForm? j (c.chunk j) with
    | none => rfl
    | some form =>
      exact setChunk_comm h (Nat.lt_trans hi.lt_current h.current_lt) hbefore
  · rw [refreshArticle_of_notMem hdue, refreshArticle_of_notMem (c := c.setChunk i s) hdue]

theorem commit_setChunk (hi : c.IsAside i) (h : c.Coherent) (p : PendingWrite) :
    (c.setChunk i s).commit p = (c.commit p).setChunk i s := by
  have hcursor := h.withCursor p.cursor
  have hsize : i < c.chunks.size := Nat.lt_trans hi.lt_current h.current_lt
  have hne : i ≠ c.current := Nat.ne_of_lt hi.lt_current
  have happend : (setChunk { c with cursor := p.cursor } i s).appendTo c.current p.text =
      (appendTo { c with cursor := p.cursor } c.current p.text).setChunk i s := by
    have hlast : c.current < (setChunk { c with cursor := p.cursor } i s).chunks.size := by
      simpa [setChunk] using h.current_lt
    rw [appendTo_eq hlast, appendTo_eq (c := { c with cursor := p.cursor }) h.current_lt,
      chunk_setChunk_of_ne hne.symm]
    exact setChunk_comm hcursor hsize hne
  have haside : (appendTo { c with cursor := p.cursor } c.current p.text).IsAside i :=
    ⟨hi.lt_current, hi.apart⟩
  have hrefresh := haside.refreshArticle_setChunk (s := s) (hcursor.appendTo h.current_lt p.text) hne
  rw [← happend] at hrefresh
  unfold commit
  dsimp only
  split
  · rfl
  · exact hrefresh

theorem write_setChunk (hi : c.IsAside i) (h : c.Coherent) (text : String) :
    (c.setChunk i s).write text = (c.write text).setChunk i s := by
  unfold write
  split
  · rfl
  · -- how much the article will grow is only announced
    exact hi.commit_setChunk h (c.prepare text)

end IsAside

theorem chunk_pushChunk_of_lt (hi : i < c.chunks.size) (text : String) :
    (c.pushChunk text).chunk i = c.chunk i := by
  simp [chunk, pushChunk, Array.getD, hi, Nat.lt_succ_of_lt hi, Array.getElem_push]

/-- A chunk changes, or a new one is put behind all others. -/
theorem pushChunk_setChunk (hi : i < c.chunks.size) (hlength : (c.chunk i).length ≤ c.length) :
    (c.setChunk i s).pushChunk t = (c.pushChunk t).setChunk i s := by
  have hchunk := chunk_pushChunk_of_lt hi t
  simp only [setChunk, pushChunk] at hchunk ⊢
  simp only [mk.injEq, true_and]
  have hrow : i < c.chunks.toList.length := by rwa [Array.length_toList]
  refine ⟨Array.toList_inj.1 ?_, by rw [hchunk]; omega⟩
  simp only [Array.toList_push, Array.toList_setIfInBounds, List.set_append_left i s hrow]

/-- What is opened at the end is behind all chunks that are there. -/
theorem pushTwo_setChunk (h : c.Coherent) (hi : i < c.chunks.size) (first second : String) :
    ((c.setChunk i s).pushChunk first).pushChunk second =
      ((c.pushChunk first).pushChunk second).setChunk i s := by
  have hlength := h.length_chunk_le i
  have hsize : i < (c.pushChunk first).chunks.size := by
    rw [pushChunk, Array.size_push]
    exact Nat.lt_succ_of_lt hi
  have hkept : ((c.pushChunk first).chunk i).length ≤ (c.pushChunk first).length := by
    rw [chunk_pushChunk_of_lt hi]
    exact Nat.le_trans hlength (Nat.le_add_right _ _)
  rw [pushChunk_setChunk hi hlength, pushChunk_setChunk hsize hkept]

/-- Behind a target that is opened comes the new end of the channel. -/
theorem createTarget_setChunk (h : c.Coherent) (hi : i < c.chunks.size) (name : String) :
    (c.setChunk i s).createTarget name = (c.createTarget name).setChunk i s := by
  have hsize : (c.setChunk i s).chunks.size = c.chunks.size := by simp [setChunk]
  have hnew := pushTwo_setChunk (s := s) h hi ((c.queued.get? name).getD "") ""
  calc (c.setChunk i s).createTarget name
      = { ((c.setChunk i s).pushChunk ((c.queued.get? name).getD "")).pushChunk "" with
          queued := c.queued.erase name
          targets := c.targets.insert name c.chunks.size
          current := c.chunks.size + 1 } := by rw [createTarget, hsize]; rfl
    _ = { ((c.pushChunk ((c.queued.get? name).getD "")).pushChunk "").setChunk i s with
          queued := c.queued.erase name
          targets := c.targets.insert name c.chunks.size
          current := c.chunks.size + 1 } := by rw [hnew]
    _ = (c.createTarget name).setChunk i s := rfl

/-- And so it does behind an article. -/
theorem writeArticle_eq (c : Channel) :
    c.writeArticle = { ({ c with cursor := (c.cursor.apply "a").2 }.pushChunk
        (c.cursor.apply "a").1).pushChunk "" with
      current := c.chunks.size + 1
      articles := (c.chunks.size + 1) :: c.articles } := by
  simp [writeArticle, pushChunk]

theorem writeArticle_setChunk (h : c.Coherent) (hi : i < c.chunks.size) :
    (c.setChunk i s).writeArticle = c.writeArticle.setChunk i s := by
  have hsize : (c.setChunk i s).chunks.size = c.chunks.size := by simp [setChunk]
  have hnew := pushTwo_setChunk (s := s) (h.withCursor (c.cursor.apply "a").2) hi
    (c.cursor.apply "a").1 ""
  rw [writeArticle_eq, writeArticle_eq, hsize]
  calc _ = { ((setChunk { c with cursor := (c.cursor.apply "a").2 } i s).pushChunk
        (c.cursor.apply "a").1).pushChunk "" with
      current := c.chunks.size + 1
      articles := (c.chunks.size + 1) :: c.articles } := rfl
    _ = { (({ c with cursor := (c.cursor.apply "a").2 }.pushChunk
        (c.cursor.apply "a").1).pushChunk "").setChunk i s with
      current := c.chunks.size + 1
      articles := (c.chunks.size + 1) :: c.articles } := by rw [hnew]
    _ = _ := rfl

/-- What is written to an open target is written to its chunk. -/
theorem Coherent.writeTarget_eq (h : c.Coherent) (hopen : c.targets.get? target = some i)
    (value : String) (overwrite : Bool) :
    c.writeTarget target value overwrite =
      c.setChunk i ((if overwrite then "" else c.chunk i) ++ value) := by
  have hsize := h.target_lt hopen
  have hnone := (h.isAside hopen).notMem
  simp only [Channel.writeTarget, hopen]
  cases overwrite with
  | false =>
    rw [if_neg Bool.false_ne_true, if_neg Bool.false_ne_true, refreshArticle_appendTo hnone,
      appendTo_eq hsize]
  | true =>
    have hcleared : i < (c.setChunk i "").chunks.size := by simpa [Channel.setChunk] using hsize
    rw [if_pos rfl, if_pos rfl, clearChunk_eq, refreshArticle_appendTo (c := c.setChunk i "") hnone,
      appendTo_eq hcleared, chunk_setChunk hsize, if_pos rfl, setChunk_setChunk h hsize]

theorem clearTarget_eq (hopen : c.targets.get? target = some i) :
    c.clearTarget target = c.setChunk i "" := by
  simp only [clearTarget, hopen]
  rfl

/-! ## Events -/

/-- What happens to a channel: an operation, or that it is shown to other writes. -/
inductive Event where
  | operate (operation : Operation)
  | turn (visibility : Visibility)

namespace Event

/-- The channel behind an event. -/
def apply (c : Channel) : Event → Channel
  | operate operation => operation.apply c
  | turn visibility => { c with visibility := visibility }

/-- Whether a text is written to a target or taken out of it. -/
def edits (target : String) : Event → Bool
  | operate (.writeTarget name _ _) => name == target
  | operate (.clearTarget name) => name == target
  | _ => false

/-- Whether a target is opened. -/
def opens (target : String) : Event → Bool
  | operate (.createTarget name) => name == target
  | _ => false

/-- What becomes of the text of a target. -/
def edit (text : String) : Event → String
  | operate (.writeTarget _ value overwrite) => (if overwrite then "" else text) ++ value
  | operate (.clearTarget _) => ""
  | _ => text

end Event

/-- A new channel behind a history. -/
def behind (name : String) (visibility : Visibility) (history : List Event) : Channel :=
  history.foldl Event.apply (.empty name visibility)

/-! ## A target and the rest of the channel -/

/-- The text of a target: that of its chunk, or what waits for it. -/
def targetText (c : Channel) (target : String) : String :=
  match c.targets.get? target with
  | some i => c.chunk i
  | none => (c.queued.get? target).getD ""

/-- The channel with other texts that wait for targets. -/
def requeue (c : Channel) (queued : Named String) : Channel := { c with queued := queued }

/-- The channel without the text of a target. -/
def without (c : Channel) (target : String) : Channel :=
  match c.targets.get? target with
  | some i => c.setChunk i ""
  | none => c.requeue (c.queued.erase target)

theorem without_of_open (h : c.targets.get? target = some i) :
    c.without target = c.setChunk i "" ∧ c.targetText target = c.chunk i := by
  simp [without, targetText, h]

theorem without_of_closed (h : c.targets.get? target = none) :
    c.without target = c.requeue (c.queued.erase target) ∧
      c.targetText target = (c.queued.get? target).getD "" := by
  simp [without, targetText, h]

/-- Besides what makes a channel coherent, no two targets have one chunk. -/
structure Separate (c : Channel) : Prop extends c.Coherent where
  distinct : ∀ name other i, c.targets.get? name = some i → c.targets.get? other = some i →
    name = other

/-! ### Targets that are open -/

/-- Only the opening of a target changes which targets are open. -/
theorem Event.targets_apply (e : Event) :
    (e.apply c).targets = c.targets ∨ ∃ name, e = .operate (.createTarget name) := by
  cases e with
  | turn visibility => exact .inl rfl
  | operate operation =>
    cases operation with
    | setMode | writeArticle | setMarker => exact .inl rfl
    | write text =>
      obtain ⟨_, _, -, hwrite⟩ := c.write_eq text
      refine .inl ?_
      rw [apply, Operation.apply, hwrite]
    | commit p =>
      refine .inl ?_
      simp only [apply, Operation.apply, Channel.commit, refreshArticle_eq]
      split
      · rfl
      · split <;> rfl
    | createTarget name => exact .inr ⟨name, rfl⟩
    | writeTarget name value overwrite =>
      refine .inl ?_
      simp only [apply, Operation.apply, Channel.writeTarget, refreshArticle_eq]
      split
      · cases overwrite <;> split <;> rfl
      · rfl
    | clearTarget name =>
      refine .inl ?_
      simp only [apply, Operation.apply, Channel.clearTarget]
      split <;> rfl

theorem get?_targets_createTarget (c : Channel) (name other : String) :
    (c.createTarget name).targets.get? other =
      if name = other then some c.chunks.size else c.targets.get? other := by
  simp [createTarget, pushChunk]

theorem Separate.apply (h : c.Separate) (e : Event) : (e.apply c).Separate := by
  have hcoherent : (e.apply c).Coherent := by
    cases e with
    | operate operation => exact (h.toCoherent.apply operation).1
    | turn visibility =>
      exact ⟨h.length_eq, h.current_eq, h.article, h.target, h.marker, h.apart⟩
  refine ⟨hcoherent, ?_⟩
  rcases e.targets_apply (c := c) with hsame | ⟨name, rfl⟩
  · rw [hsame]
    exact h.distinct
  · -- the chunk of the target is new
    intro other other' i hi hi'
    have hi := (get?_targets_createTarget c name other).symm.trans hi
    have hi' := (get?_targets_createTarget c name other').symm.trans hi'
    split at hi <;> split at hi'
    · next heq heq' => exact heq.symm.trans heq'
    · cases hi
      exact absurd (h.target_lt hi') (Nat.lt_irrefl _)
    · cases hi'
      exact absurd (h.target_lt hi) (Nat.lt_irrefl _)
    · exact h.distinct other other' i hi hi'

/-- Whatever happens elsewhere, the text in the chunk of a target may be changed before or after. -/
theorem Separate.apply_setChunk (h : c.Separate) (hopen : c.targets.get? target = some i) {e : Event}
    (hedits : e.edits target = false) : e.apply (c.setChunk i s) = (e.apply c).setChunk i s := by
  have haside := h.isAside hopen
  have hsize := h.target_lt hopen
  have hchanged : (c.setChunk i s).Coherent :=
    h.setChunk hsize (.inr fun marker m hm => (h.apart marker m hm).1 target i hopen)
  cases e with
  | turn visibility => rfl
  | operate operation =>
    cases operation with
    | setMode mode => rfl
    | write text => exact haside.write_setChunk h.toCoherent text
    | commit p => exact haside.commit_setChunk h.toCoherent p
    | writeArticle => exact writeArticle_setChunk h.toCoherent hsize
    | createTarget name => exact createTarget_setChunk h.toCoherent hsize name
    | writeTarget name value overwrite =>
      have hname : name ≠ target := ne_of_beq_false hedits
      simp only [Event.apply, Operation.apply]
      cases hother : c.targets.get? name with
      | none =>
        have hkept : (c.setChunk i s).targets.get? name = none := hother
        simp only [Channel.writeTarget, hother, hkept]
        rfl
      | some j =>
        have hne : i ≠ j := fun heq => hname (h.distinct name target i (heq ▸ hother) hopen)
        rw [hchanged.writeTarget_eq hother, h.toCoherent.writeTarget_eq hother,
          chunk_setChunk_of_ne hne.symm, setChunk_comm h.toCoherent hsize hne]
    | clearTarget name =>
      have hname : name ≠ target := ne_of_beq_false hedits
      simp only [Event.apply, Operation.apply]
      cases hother : c.targets.get? name with
      | none =>
        have hkept : (c.setChunk i s).targets.get? name = none := hother
        simp only [Channel.clearTarget, hother, hkept]
        rfl
      | some j =>
        have hne : i ≠ j := fun heq => hname (h.distinct name target i (heq ▸ hother) hopen)
        rw [clearTarget_eq (c := c.setChunk i s) hother, clearTarget_eq hother,
          setChunk_comm h.toCoherent hsize hne]
    | setMarker name =>
      have hne : c.current ≠ i := Nat.ne_of_gt haside.lt_current
      have hchunk : (c.setChunk i s).chunk c.current = c.chunk c.current :=
        chunk_setChunk_of_ne hne s
      simp only [Event.apply, Operation.apply]
      rw [Channel.setMarker, Channel.setMarker, show (c.setChunk i s).current = c.current from rfl,
        hchunk]
      rfl

/-! ### Targets that are closed -/

theorem refreshArticle_requeue (queued : Named String) :
    (c.requeue queued).refreshArticle i = (c.refreshArticle i).requeue queued := by
  have hform : (c.requeue queued).articleForm? i ((c.requeue queued).chunk i) =
      c.articleForm? i (c.chunk i) := rfl
  rw [refreshArticle_eq, refreshArticle_eq, hform]
  cases c.articleForm? i (c.chunk i) <;> rfl

theorem commit_requeue (queued : Named String) (p : PendingWrite) :
    (c.requeue queued).commit p = (c.commit p).requeue queued := by
  unfold commit
  dsimp only
  split
  · rfl
  · exact refreshArticle_requeue (c := appendTo { c with cursor := p.cursor } c.current p.text) queued

theorem write_requeue (queued : Named String) (text : String) :
    (c.requeue queued).write text = (c.write text).requeue queued := by
  unfold write
  split
  · rfl
  · exact commit_requeue queued (c.prepare text)

/-- A write at the end has nothing to do with what waits. -/
theorem queued_commit (c : Channel) (p : PendingWrite) : (c.commit p).queued = c.queued := by
  have hsame : c.commit p = (c.commit p).requeue c.queued := commit_requeue (c := c) c.queued p
  rw [hsame]
  rfl

/-- Whatever happens elsewhere, what waits for a target may be dropped before or after. -/
theorem Coherent.apply_erase (h : c.Coherent) {e : Event} (hedits : e.edits target = false)
    (hopens : e.opens target = false) :
    e.apply (c.requeue (c.queued.erase target)) =
      (e.apply c).requeue ((e.apply c).queued.erase target) := by
  cases e with
  | turn visibility => rfl
  | operate operation =>
    cases operation with
    | setMode | writeArticle | setMarker => rfl
    | write text =>
      obtain ⟨_, _, -, hwrite⟩ := c.write_eq text
      have hqueued : (c.write text).queued = c.queued := by rw [hwrite]
      simp only [Event.apply, Operation.apply]
      rw [write_requeue, hqueued]
    | commit p =>
      simp only [Event.apply, Operation.apply]
      rw [commit_requeue, queued_commit]
    | createTarget name =>
      have hne : name ≠ target := ne_of_beq_false hopens
      simp only [Event.apply, Operation.apply, Channel.createTarget, requeue, pushChunk,
        Named.get?_erase_of_ne hne, c.queued.erase_comm target name]
    | writeTarget name value overwrite =>
      have hne : name ≠ target := ne_of_beq_false hedits
      simp only [Event.apply, Operation.apply]
      cases hother : c.targets.get? name with
      | none =>
        simp only [Channel.writeTarget, requeue, hother, Named.get?_erase_of_ne hne,
          Named.erase_insert_of_ne hne]
      | some j =>
        have hdropped : (c.requeue (c.queued.erase target)).Coherent := h.withQueued _
        rw [hdropped.writeTarget_eq hother, h.writeTarget_eq hother]
        rfl
    | clearTarget name =>
      have hne : name ≠ target := ne_of_beq_false hedits
      simp only [Event.apply, Operation.apply]
      cases hother : c.targets.get? name with
      | none =>
        simp only [Channel.clearTarget, requeue, hother, Named.erase_modify_of_ne hne]
      | some j =>
        rw [clearTarget_eq (c := c.requeue (c.queued.erase target)) hother, clearTarget_eq hother]
        rfl

/-- And what waits for a target goes on waiting. -/
theorem Coherent.get?_queued_apply (h : c.Coherent) {e : Event} (hedits : e.edits target = false)
    (hopens : e.opens target = false) :
    (e.apply c).queued.get? target = c.queued.get? target := by
  cases e with
  | turn visibility => rfl
  | operate operation =>
    cases operation with
    | setMode | writeArticle | setMarker => rfl
    | write text =>
      obtain ⟨_, _, -, hwrite⟩ := c.write_eq text
      rw [Event.apply, Operation.apply, hwrite]
    | commit p => rw [Event.apply, Operation.apply, queued_commit]
    | createTarget name =>
      have hne : name ≠ target := ne_of_beq_false hopens
      exact Named.get?_erase_of_ne hne.symm c.queued
    | writeTarget name value overwrite =>
      have hne : name ≠ target := ne_of_beq_false hedits
      simp only [Event.apply, Operation.apply]
      cases hother : c.targets.get? name with
      | none => simp only [Channel.writeTarget, hother, Named.get?_insert, if_neg hne]
      | some j =>
        rw [h.writeTarget_eq hother]
        rfl
    | clearTarget name =>
      have hne : name ≠ target := ne_of_beq_false hedits
      simp only [Event.apply, Operation.apply]
      cases hother : c.targets.get? name with
      | none => simp only [Channel.clearTarget, hother, Named.get?_modify, if_neg hne]
      | some j =>
        rw [clearTarget_eq hother]
        rfl

/-! ## What an event does to both -/

/-- A chunk may be replaced by itself. -/
theorem setChunk_chunk (hi : i < c.chunks.size) : c.setChunk i (c.chunk i) = c := by
  have hchunks : c.chunks.setIfInBounds i (c.chunk i) = c.chunks := by
    refine Array.ext_getElem? fun j => ?_
    by_cases hj : i = j
    · subst hj
      simp [chunk, Array.getD, hi]
    · simp [hj]
  simp only [setChunk, hchunks, Nat.add_sub_cancel]

/-- An event elsewhere is one of the rest of the channel, and leaves the text of the target alone. -/
theorem Separate.apply_elsewhere (h : c.Separate) {e : Event} (hedits : e.edits target = false)
    (hopens : e.opens target = false) :
    (e.apply c).without target = e.apply (c.without target) ∧
      (e.apply c).targetText target = c.targetText target ∧
      (e.apply c).targets.get? target = c.targets.get? target := by
  have htargets : (e.apply c).targets.get? target = c.targets.get? target := by
    rcases e.targets_apply (c := c) with hsame | ⟨name, rfl⟩
    · rw [hsame]
    · exact (get?_targets_createTarget c name target).trans (if_neg (ne_of_beq_false hopens))
  cases hopen : c.targets.get? target with
  | none =>
    obtain ⟨hrest, htext⟩ := without_of_closed hopen
    obtain ⟨hrest', htext'⟩ := without_of_closed (htargets.trans hopen)
    refine ⟨?_, ?_, htargets.trans hopen⟩
    · rw [hrest, hrest', h.toCoherent.apply_erase hedits hopens]
    · rw [htext, htext', h.toCoherent.get?_queued_apply hedits hopens]
  | some i =>
    obtain ⟨hrest, htext⟩ := without_of_open hopen
    obtain ⟨hrest', htext'⟩ := without_of_open (htargets.trans hopen)
    refine ⟨?_, ?_, htargets.trans hopen⟩
    · rw [hrest, hrest', h.apply_setChunk hopen hedits]
    · have hsize := (h.apply e).target_lt (htargets.trans hopen)
      have hsame := h.apply_setChunk (s := c.chunk i) hopen hedits
      rw [setChunk_chunk (h.target_lt hopen)] at hsame
      rw [htext, htext', hsame, chunk_setChunk hsize, if_pos rfl]

/-- An event of the target is one of its text, and leaves the rest of the channel alone. -/
theorem Coherent.apply_edit (h : c.Coherent) {e : Event} (hedits : e.edits target = true) :
    (e.apply c).without target = c.without target ∧
      (e.apply c).targetText target = e.edit (c.targetText target) ∧
      (e.apply c).targets = c.targets := by
  -- where it is open, its chunk is replaced, and where it is not, what waits for it
  have replaced : ∀ {i : Nat} (text : String), c.targets.get? target = some i →
      (c.setChunk i text).without target = c.without target ∧
        (c.setChunk i text).targetText target = text ∧ (c.setChunk i text).targets = c.targets := by
    intro i text hopen
    have hsize := h.target_lt hopen
    have hkept : (c.setChunk i text).targets.get? target = some i := hopen
    refine ⟨?_, ?_, rfl⟩
    · rw [(without_of_open hkept).1, (without_of_open hopen).1, setChunk_setChunk h hsize]
    · rw [(without_of_open hkept).2, chunk_setChunk hsize, if_pos rfl]
  have requeued : ∀ queued : Named String, c.targets.get? target = none →
      queued.erase target = c.queued.erase target →
      (c.requeue queued).without target = c.without target ∧
        (c.requeue queued).targetText target = (queued.get? target).getD "" ∧
        (c.requeue queued).targets = c.targets := by
    intro queued hclosed herased
    have hkept : (c.requeue queued).targets.get? target = none := hclosed
    refine ⟨?_, (without_of_closed hkept).2, rfl⟩
    rw [(without_of_closed hkept).1, (without_of_closed hclosed).1, ← herased]
    rfl
  cases e with
  | turn visibility => cases hedits
  | operate operation =>
    cases operation with
    | setMode | write | commit | writeArticle | createTarget | setMarker => cases hedits
    | writeTarget name value overwrite =>
      obtain rfl : name = target := eq_of_beq hedits
      simp only [Event.apply, Operation.apply, Event.edit]
      cases hopen : c.targets.get? name with
      | none =>
        have hwrite : c.writeTarget name value overwrite = c.requeue (c.queued.insert name
            ((if overwrite then "" else (c.queued.get? name).getD "") ++ value)) := by
          simp only [Channel.writeTarget, hopen]
          rfl
        have hrequeued := requeued _ hopen (Named.erase_insert_self c.queued name
          ((if overwrite then "" else (c.queued.get? name).getD "") ++ value))
        rw [Named.get?_insert_self] at hrequeued
        rwa [hwrite, (without_of_closed hopen).2]
      | some i =>
        rw [h.writeTarget_eq hopen, (without_of_open hopen).2]
        exact replaced _ hopen
    | clearTarget name =>
      obtain rfl : name = target := eq_of_beq hedits
      simp only [Event.apply, Operation.apply, Event.edit]
      cases hopen : c.targets.get? name with
      | none =>
        have hclear : c.clearTarget name = c.requeue (c.queued.modify name fun _ => "") := by
          simp only [Channel.clearTarget, hopen]
          rfl
        have hrequeued := requeued _ hopen (c.queued.erase_modify_self name fun _ => "")
        have hempty : ((c.queued.modify name fun _ => "").get? name).getD "" = "" := by
          rw [Named.get?_modify, if_pos rfl]
          cases c.queued.get? name <;> rfl
        rw [hempty] at hrequeued
        rwa [hclear]
      | some i =>
        rw [clearTarget_eq hopen]
        exact replaced _ hopen

/-- The opening of the target is one of the rest of the channel. -/
theorem createTarget_without (hclosed : c.targets.get? target = none) :
    (c.createTarget target).without target = (c.without target).createTarget target ∧
      (c.createTarget target).targetText target = c.targetText target := by
  obtain ⟨hrest, htext⟩ := without_of_closed hclosed
  have hopen : (c.createTarget target).targets.get? target = some c.chunks.size :=
    (get?_targets_createTarget c target target).trans (if_pos rfl)
  have hchunk : (c.createTarget target).chunk c.chunks.size =
      (c.queued.get? target).getD "" := by
    simp [chunk_eq, createTarget, pushChunk]
  obtain ⟨hrest', htext'⟩ := without_of_open hopen
  refine ⟨?_, by rw [htext, htext', hchunk]⟩
  rw [hrest, hrest', setChunk, hchunk]
  simp only [createTarget, pushChunk, requeue, Named.get?_erase_self, Named.erase_erase]
  simp only [mk.injEq, true_and]
  refine ⟨Array.toList_inj.1 (by simp), ?_⟩
  exact Nat.add_sub_cancel (n := c.length) (m := ((c.queued.get? target).getD "").length)

/-! ## Histories -/

theorem Event.opens_of_edits {e : Event} (h : e.edits target = true) : e.opens target = false := by
  cases e with
  | turn visibility => rfl
  | operate operation => cases operation <;> first | rfl | cases h

theorem Event.eq_of_opens {e : Event} (h : e.opens target = true) :
    e = .operate (.createTarget target) := by
  cases e with
  | turn visibility => cases h
  | operate operation =>
    cases operation with
    | createTarget name => rw [eq_of_beq h]
    | setMode | write | commit | writeArticle | writeTarget | clearTarget | setMarker => cases h

/-- In a history without a second opening of the target, its text and the rest of the channel come to
be independently of each other. -/
theorem Separate.foldl (h : c.Separate) (history : List Event)
    (honce : (c.targets.get? target).isSome.toNat + history.countP (·.opens target) ≤ 1) :
    (history.foldl Event.apply c).without target =
        (history.filter fun e => !e.edits target).foldl Event.apply (c.without target) ∧
      (history.foldl Event.apply c).targetText target =
        (history.filter (·.edits target)).foldl Event.edit (c.targetText target) ∧
      (history.foldl Event.apply c).Separate ∧
      ((history.foldl Event.apply c).targets.get? target).isSome.toNat =
        (c.targets.get? target).isSome.toNat + history.countP (·.opens target) := by
  induction history generalizing c with
  | nil => exact ⟨rfl, rfl, h, rfl⟩
  | cons e history ih =>
    have hnext := ih (h.apply e)
    rw [List.countP_cons] at honce
    rw [List.foldl_cons, List.countP_cons]
    cases hedits : e.edits target with
    | true =>
      obtain ⟨hrest, htext, htargets⟩ := h.toCoherent.apply_edit hedits
      rw [Event.opens_of_edits hedits] at honce ⊢
      rw [hrest, htext, htargets] at hnext
      rw [List.filter_cons_of_pos hedits, List.filter_cons_of_neg (by simp [hedits]),
        List.foldl_cons]
      exact hnext honce
    | false =>
      have helsewhere : (e :: history).filter (fun e => !e.edits target) =
          e :: history.filter fun e => !e.edits target := List.filter_cons_of_pos (by simp [hedits])
      have hown : (e :: history).filter (·.edits target) = history.filter (·.edits target) :=
        List.filter_cons_of_neg (by simp [hedits])
      rw [helsewhere, hown, List.foldl_cons]
      cases hopens : e.opens target with
      | false =>
        obtain ⟨hrest, htext, htargets⟩ := h.apply_elsewhere hedits hopens
        rw [hopens] at honce
        rw [hrest, htext, htargets] at hnext
        exact hnext honce
      | true =>
        rw [hopens] at honce
        obtain rfl := Event.eq_of_opens hopens
        -- it was not open before, and will not be opened again
        have hclosed : c.targets.get? target = none := by
          cases hopen : c.targets.get? target with
          | none => rfl
          | some i =>
            simp only [hopen, if_true, Option.isSome_some, Bool.toNat_true] at honce
            omega
        obtain ⟨hrest, htext⟩ := createTarget_without hclosed
        have hopen : ((c.createTarget target).targets.get? target).isSome = true := by
          rw [get?_targets_createTarget, if_pos rfl]
          rfl
        simp only [Event.apply, Operation.apply, hrest, htext, hopen, Bool.toNat_true] at hnext ⊢
        simp only [hclosed, if_true, Option.isSome_none, Bool.toNat_false] at honce ⊢
        obtain ⟨hrest, htext, hseparate, hcount⟩ := hnext (by omega)
        exact ⟨hrest, htext, hseparate, by omega⟩

/-- A channel with an open target is told by the text of the target and by the rest. -/
theorem eq_of_without {d : Channel} (hc : c.Coherent) (hd : d.Coherent)
    (hopen : (c.targets.get? target).isSome) (hrest : c.without target = d.without target)
    (htext : c.targetText target = d.targetText target) : c = d := by
  obtain ⟨i, hi⟩ := Option.isSome_iff_exists.1 hopen
  have hsize := hc.target_lt hi
  have htargets : d.targets.get? target = some i := by
    have hd' : (d.without target).targets = d.targets := by
      unfold without
      split <;> rfl
    rw [← hd', ← hrest, (without_of_open hi).1]
    exact hi
  have hsize' := hd.target_lt htargets
  obtain ⟨hc', hctext⟩ := without_of_open hi
  obtain ⟨hd', hdtext⟩ := without_of_open htargets
  calc c = (c.setChunk i "").setChunk i (c.chunk i) := by
        rw [setChunk_setChunk hc hsize, setChunk_chunk hsize]
    _ = (d.setChunk i "").setChunk i (d.chunk i) := by
        rw [← hc', ← hd', hrest, ← hctext, ← hdtext, htext]
    _ = d := by rw [setChunk_setChunk hd hsize', setChunk_chunk hsize']

theorem separate_empty (name : String) (visibility : Visibility) :
    (empty name visibility).Separate :=
  ⟨coherent_empty name visibility, nofun⟩

/-- However the text of a target comes about, only the order of the operations on it matters: as long
as the target is opened once, it is all the same which of them came before that and which after, and
what happened elsewhere in between. -/
theorem writes_interchange (name : String) (visibility : Visibility) (target : String)
    {history history' : List Event} (honce : history.countP (·.opens target) = 1)
    (hedits : history.filter (·.edits target) = history'.filter (·.edits target))
    (hothers : history.filter (fun e => !e.edits target) =
      history'.filter fun e => !e.edits target) :
    behind name visibility history = behind name visibility history' ∧
      (behind name visibility history).targetText target =
        (history.filter (·.edits target)).foldl Event.edit "" := by
  have hempty := separate_empty name visibility
  have hopens : ∀ history : List Event, history.countP (·.opens target) =
      (history.filter fun e => !e.edits target).countP (·.opens target) := by
    intro history
    rw [List.countP_filter]
    refine List.countP_congr fun e _ => ?_
    cases hedits : e.edits target with
    | false => simp
    | true => simp [Event.opens_of_edits hedits]
  have honce' : history'.countP (·.opens target) = 1 := by
    rw [hopens, ← hothers, ← hopens, honce]
  obtain ⟨hrest, htext, hseparate, hopen⟩ :=
    hempty.foldl history (Nat.le_of_eq ((Nat.zero_add _).trans honce))
  obtain ⟨hrest', htext', hseparate', -⟩ :=
    hempty.foldl history' (Nat.le_of_eq ((Nat.zero_add _).trans honce'))
  rw [honce] at hopen
  have hsame : behind name visibility history = behind name visibility history' := by
    refine eq_of_without hseparate.toCoherent hseparate'.toCoherent (Bool.toNat_eq_one.1 hopen) ?_ ?_
    · rw [behind, behind, hrest, hrest', hothers]
    · rw [behind, behind, htext, htext', hedits]
  exact ⟨hsame, htext⟩

/-- A word is written to a target before it is opened or behind it, is overwritten and goes on, while
an article, another target and a marker come in between. -/
theorem writes_interchange_early_late :
    let history : List Event := [.operate (.writeTarget "pet" "cat" false), .operate .writeArticle,
      .operate (.write " "), .operate (.writeTarget "pet" "ow" true),
      .operate (.createTarget "pet"), .operate (.writeTarget "tail" "!" false),
      .operate (.setMarker "end"),
      .operate (.writeTarget "pet" "l" false), .operate (.createTarget "tail")]
    let history' : List Event := [.operate .writeArticle, .operate (.write " "),
      .operate (.createTarget "pet"), .operate (.writeTarget "tail" "!" false),
      .operate (.writeTarget "pet" "cat" false), .operate (.setMarker "end"),
      .operate (.createTarget "tail"),
      .operate (.writeTarget "pet" "ow" true), .operate (.writeTarget "pet" "l" false)]
    history.countP (·.opens "pet") = 1 ∧
      behind "main" .public history = behind "main" .public history' ∧
      (behind "main" .public history).value = "a owl!" := by
  intro history history'
  have honce : history.countP (·.opens "pet") = 1 := by decide
  have hedits : history.filter (·.edits "pet") = history'.filter (·.edits "pet") := by rfl
  have hothers : history.filter (fun e => !e.edits "pet") =
      history'.filter fun e => !e.edits "pet" := by rfl
  exact ⟨honce, (writes_interchange "main" .public "pet" honce hedits hothers).1, by decide +kernel⟩

end Channel

end Wordsmith
