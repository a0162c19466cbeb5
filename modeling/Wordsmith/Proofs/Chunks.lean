import Wordsmith.Proofs.Cost

/-!
# The books of a channel

A channel knows its length by adding what each operation adds and subtracting what it takes away, and
its targets, articles and markers are numbers of chunks, noted when the chunk was new. Both stay
right however a channel is used, because no chunk has two parts to play: the chunk of a target, the
chunk of an article and the chunks that were once the end of the channel are different chunks. Only
the first two kinds are ever emptied or printed anew, and a marker always stands in one of the third.

Apart from opening new chunks, all that ever happens to a text is that one chunk is replaced, and the
length gains the new characters and loses the old ones (`setChunk`). The operations are also stated
with a check there: they give up if the length is too small for what it is to lose (`setChunk?`).
They never do.

Main result: `coherent_after`.
-/

namespace Wordsmith

/-- One item of a list is replaced. -/
theorem total_set {α : Type} {g : α → Nat} {a b : α} {l : List α} {i : Nat} (h : l[i]? = some a) :
    total ((l.set i b).map g) + g a = total (l.map g) + g b := by
  induction l generalizing i with
  | nil => simp at h
  | cons x l ih =>
    cases i with
    | zero =>
      cases h
      simp only [List.set_cons_zero, List.map_cons, total_cons]
      omega
    | succ i =>
      have hl := ih h
      simp only [List.set_cons_succ, List.map_cons, total_cons]
      omega

namespace Channel

variable {c : Channel}

/-! ## Operations -/

/-- What is done to a channel. -/
inductive Operation where
  | setMode (mode : CaseMode)
  | write (text : String)
  | commit (p : PendingWrite)
  | writeArticle
  | createTarget (name : String)
  | writeTarget (name value : String) (overwrite : Bool)
  | clearTarget (name : String)
  | setMarker (name : String)

/-- The channel behind an operation. -/
def Operation.apply (c : Channel) : Operation → Channel
  | .setMode mode => c.setMode mode
  | .write text => c.write text
  | .commit p => c.commit p
  | .writeArticle => c.writeArticle
  | .createTarget name => c.createTarget name
  | .writeTarget name value overwrite => c.writeTarget name value overwrite
  | .clearTarget name => c.clearTarget name
  | .setMarker name => c.setMarker name

/-- A new channel behind some operations. -/
def after (name : String) (visibility : Visibility) (operations : List Operation) : Channel :=
  operations.foldl Operation.apply (.empty name visibility)

/-! ## Replacing a chunk -/

/-- The channel with another text in a chunk. -/
def setChunk (c : Channel) (i : Nat) (text : String) : Channel :=
  { c with
    chunks := c.chunks.setIfInBounds i text
    length := c.length + text.length - (c.chunk i).length }

theorem chunk_setChunk {i : Nat} (hi : i < c.chunks.size) (text : String) (j : Nat) :
    (c.setChunk i text).chunk j = if j = i then text else c.chunk j := by
  simp only [chunk_eq, setChunk, Array.toList_setIfInBounds]
  by_cases hj : j = i
  · subst hj
    simp [hi]
  · simp [hj, Ne.symm hj]

theorem printed_setChunk {i : Nat} (hi : i < c.chunks.size) (text : String) :
    (c.setChunk i text).printed + (c.chunk i).length = c.printed + text.length := by
  have hold : c.chunks.toList[i]? = some (c.chunk i) := by simp [chunk_eq, hi]
  simp only [printed, setChunk, Array.toList_setIfInBounds]
  exact total_set hold

/-- No chunk is longer than all of them together. -/
theorem length_chunk_le (c : Channel) (i : Nat) : (c.chunk i).length ≤ c.printed := by
  by_cases hi : i < c.chunks.size
  · have := printed_setChunk hi ""
    rw [String.length_empty] at this
    omega
  · have : c.chunk i = "" := by simp [chunk_eq, hi]
    simp [this]

/-- Text behind a chunk replaces it by a longer one. -/
theorem appendTo_eq {i : Nat} (hi : i < c.chunks.size) (text : String) :
    c.appendTo i text = c.setChunk i (c.chunk i ++ text) := by
  have hchunks : c.chunks.modify i (· ++ text) = c.chunks.setIfInBounds i (c.chunk i ++ text) := by
    refine Array.ext_getElem? fun j => ?_
    by_cases hj : i = j
    · subst hj
      simp [chunk, Array.getD, hi, Array.getElem_modify]
    · simp [Array.getElem?_modify, hj]
  have hlength : c.length + text.length =
      c.length + (c.chunk i ++ text).length - (c.chunk i).length := by
    rw [String.length_append]
    omega
  simp only [appendTo, setChunk, hchunks, hlength]

theorem clearChunk_eq (c : Channel) (i : Nat) : c.clearChunk i = c.setChunk i "" := rfl

theorem refreshArticle_eq (c : Channel) (i : Nat) :
    c.refreshArticle i = match c.articleForm? i (c.chunk i) with
      | some form => c.setChunk (i - 1) form
      | none => c := rfl

/-- New chunks are put behind all others. -/
theorem chunk_pushTwo {j : Nat} (hj : j < c.chunks.size) (first second : String) :
    ((c.pushChunk first).pushChunk second).chunk j = c.chunk j := by
  simp [chunk, pushChunk, Array.getD, hj, Nat.lt_succ_of_lt hj,
    Nat.lt_succ_of_lt (Nat.lt_succ_of_lt hj), Array.getElem_push]

/-! ## Operations with a check -/

/-- The channel with another text in a chunk, unless its length is too small for what it loses. -/
def setChunk? (c : Channel) (i : Nat) (text : String) : Option Channel :=
  if (c.chunk i).length ≤ c.length + text.length then some (c.setChunk i text) else none

/-- Prints the article before a chunk anew, with a check. -/
def refreshArticle? (c : Channel) (after : Nat) : Option Channel :=
  match c.articleForm? after (c.chunk after) with
  | some form => c.setChunk? (after - 1) form
  | none => some c

/-- Puts a formatted text at the end of the channel, with a check. -/
def commit? (c : Channel) (p : PendingWrite) : Option Channel :=
  let c := { c with cursor := p.cursor }
  if p.text.isEmpty then some c else (c.appendTo c.current p.text).refreshArticle? c.current

/-- Writes a text at the end of the channel, with a check. -/
def write? (c : Channel) (text : String) : Option Channel :=
  if text.isEmpty then some c else c.commit? (c.prepare text)

/-- Writes to a target, with checks. -/
def writeTarget? (c : Channel) (name value : String) (overwrite : Bool) : Option Channel :=
  match c.targets.get? name with
  | some i =>
    (if overwrite then c.setChunk? i "" else some c).bind fun c =>
      (c.appendTo i value).refreshArticle? i
  | none => some (c.writeTarget name value overwrite)

/-- Takes all text out of a target, with a check. -/
def clearTarget? (c : Channel) (name : String) : Option Channel :=
  match c.targets.get? name with
  | some i => c.setChunk? i ""
  | none => some (c.clearTarget name)

/-- The channel behind an operation, unless its length would fall below zero on the way. -/
def Operation.attempt? (c : Channel) : Operation → Option Channel
  | .setMode mode => some (c.setMode mode)
  | .write text => c.write? text
  | .commit p => c.commit? p
  | .writeArticle => some c.writeArticle
  | .createTarget name => some (c.createTarget name)
  | .writeTarget name value overwrite => c.writeTarget? name value overwrite
  | .clearTarget name => c.clearTarget? name
  | .setMarker name => some (c.setMarker name)

/-! ## Coherence -/

/-- The length is right, and the chunks that were noted exist and have one part to play. -/
structure Coherent (c : Channel) : Prop where
  /-- The length is the number of characters of the text. -/
  length_eq : c.length = c.value.length
  /-- The end of the channel is its last chunk. -/
  current_eq : c.current + 1 = c.chunks.size
  /-- A chunk behind an article exists, and so does the article. -/
  article : ∀ i ∈ c.articles, 0 < i ∧ i < c.chunks.size
  /-- A target has a chunk before the last, and the chunk is no article and behind none. -/
  target : ∀ name i, c.targets.get? name = some i →
    i < c.current ∧ ∀ j ∈ c.articles, i ≠ j ∧ i ≠ j - 1
  /-- A marker stands in a chunk, before its end or at it. -/
  marker : ∀ name m, c.markers.get? name = some m →
    m.chunk < c.chunks.size ∧ m.offset ≤ (c.chunk m.chunk).length
  /-- The chunk of a marker is no target and no article. -/
  apart : ∀ name m, c.markers.get? name = some m →
    (∀ other i, c.targets.get? other = some i → m.chunk ≠ i) ∧ ∀ j ∈ c.articles, m.chunk ≠ j - 1

theorem coherent_empty (name : String) (visibility : Visibility) :
    (empty name visibility).Coherent where
  length_eq := rfl
  current_eq := rfl
  article := nofun
  target := nofun
  marker := nofun
  apart := nofun

namespace Coherent

variable {i : Nat} {text : String}

/-- The letter case is no part of the books. -/
theorem withCursor (h : c.Coherent) (k : CaseCursor) : Coherent { c with cursor := k } :=
  ⟨h.length_eq, h.current_eq, h.article, h.target, h.marker, h.apart⟩

/-- Nor is the text that waits for targets. -/
theorem withQueued (h : c.Coherent) (queued : Named String) :
    Coherent { c with queued := queued } :=
  ⟨h.length_eq, h.current_eq, h.article, h.target, h.marker, h.apart⟩

theorem current_lt (h : c.Coherent) : c.current < c.chunks.size := by
  have := h.current_eq
  omega

theorem target_lt (h : c.Coherent) {name : String} (hopen : c.targets.get? name = some i) :
    i < c.chunks.size :=
  Nat.lt_trans (h.target name i hopen).1 h.current_lt

theorem article_lt (h : c.Coherent) (hi : i ∈ c.articles) : i - 1 < c.chunks.size := by
  have := h.article i hi
  omega

/-- The length covers every chunk. -/
theorem length_chunk_le (h : c.Coherent) (i : Nat) : (c.chunk i).length ≤ c.length := by
  rw [h.length_eq, length_value]
  exact c.length_chunk_le i

theorem setChunk?_eq (h : c.Coherent) (i : Nat) (text : String) :
    c.setChunk? i text = some (c.setChunk i text) :=
  if_pos (Nat.le_trans (h.length_chunk_le i) (Nat.le_add_right _ _))

/-- A chunk may be replaced by a longer one, and by any one if no marker stands in it. -/
theorem setChunk (h : c.Coherent) (hi : i < c.chunks.size)
    (hfree : (c.chunk i).length ≤ text.length ∨
      ∀ name m, c.markers.get? name = some m → m.chunk ≠ i) : (c.setChunk i text).Coherent where
  length_eq := by
    have hprinted := printed_setChunk hi text
    have hlength := h.length_eq
    rw [length_value] at hlength ⊢
    simp only [Channel.setChunk] at hprinted ⊢
    omega
  current_eq := by
    have := h.current_eq
    simpa [Channel.setChunk] using this
  article j hj := by
    have := h.article j hj
    simpa [Channel.setChunk] using this
  target := h.target
  marker name m hm := by
    obtain ⟨hlt, hle⟩ := h.marker name m hm
    refine ⟨by simpa [Channel.setChunk] using hlt, ?_⟩
    rw [chunk_setChunk hi]
    split
    · next hchunk =>
      rcases hfree with hlonger | hnone
      · exact Nat.le_trans (hchunk ▸ hle) hlonger
      · exact absurd hchunk (hnone name m hm)
    · exact hle
  apart := h.apart

/-! ### Text in chunks -/

theorem appendTo (h : c.Coherent) (hi : i < c.chunks.size) (text : String) :
    (c.appendTo i text).Coherent := by
  rw [appendTo_eq hi]
  refine h.setChunk hi (.inl ?_)
  rw [String.length_append]
  omega

/-- An article is printed anew, and no marker stands in it. -/
theorem refreshArticle (h : c.Coherent) (i : Nat) :
    (c.refreshArticle i).Coherent ∧ c.refreshArticle? i = some (c.refreshArticle i) := by
  unfold refreshArticle?
  rw [refreshArticle_eq]
  split
  · next form hform =>
    have hi : i ∈ c.articles := by
      unfold articleForm? at hform
      split at hform
      · next hmem => exact List.contains_iff_mem.1 hmem
      · cases hform
    exact ⟨h.setChunk (h.article_lt hi) (.inr fun name m hm => (h.apart name m hm).2 i hi),
      h.setChunk?_eq _ _⟩
  · exact ⟨h, rfl⟩

theorem commit (h : c.Coherent) (p : PendingWrite) :
    (c.commit p).Coherent ∧ c.commit? p = some (c.commit p) := by
  have hcursor := h.withCursor p.cursor
  unfold Channel.commit commit?
  dsimp only
  split
  · exact ⟨hcursor, rfl⟩
  · exact (hcursor.appendTo hcursor.current_lt p.text).refreshArticle _

theorem write (h : c.Coherent) (text : String) :
    (c.write text).Coherent ∧ c.write? text = some (c.write text) := by
  unfold Channel.write write?
  split
  · exact ⟨h, rfl⟩
  · exact h.commit _

/-- A target is emptied, and no marker stands in it. -/
theorem clearOpen (h : c.Coherent) {name : String} (hopen : c.targets.get? name = some i) :
    (c.clearChunk i).Coherent := by
  rw [clearChunk_eq]
  exact h.setChunk (h.target_lt hopen)
    (.inr fun marker m hm => (h.apart marker m hm).1 name i hopen)

theorem writeTarget (h : c.Coherent) (name value : String) (overwrite : Bool) :
    (c.writeTarget name value overwrite).Coherent ∧
      c.writeTarget? name value overwrite = some (c.writeTarget name value overwrite) := by
  cases hopen : c.targets.get? name with
  | none =>
    simp only [Channel.writeTarget, writeTarget?, hopen, and_true]
    exact h.withQueued _
  | some i =>
    have hi := h.target_lt hopen
    simp only [Channel.writeTarget, writeTarget?, hopen]
    cases overwrite with
    | false => exact (h.appendTo hi value).refreshArticle i
    | true =>
      have hsize : i < (c.clearChunk i).chunks.size := by simpa [clearChunk] using hi
      simp only [if_true, h.setChunk?_eq, Option.bind_some, ← clearChunk_eq]
      exact ((h.clearOpen hopen).appendTo hsize value).refreshArticle i

theorem clearTarget (h : c.Coherent) (name : String) :
    (c.clearTarget name).Coherent ∧ c.clearTarget? name = some (c.clearTarget name) := by
  cases hopen : c.targets.get? name with
  | none =>
    simp only [Channel.clearTarget, clearTarget?, hopen, and_true]
    exact h.withQueued _
  | some i =>
    simp only [Channel.clearTarget, clearTarget?, hopen]
    exact ⟨h.clearOpen hopen, h.setChunk?_eq _ _⟩

/-! ### New chunks -/

theorem setMarker (h : c.Coherent) (name : String) : (c.setMarker name).Coherent where
  length_eq := h.length_eq
  current_eq := h.current_eq
  article := h.article
  target := h.target
  marker other m hm := by
    simp only [Channel.setMarker, Named.get?_insert] at hm
    split at hm
    · cases hm
      exact ⟨h.current_lt, Nat.le_refl _⟩
    · exact h.marker other m hm
  apart other m hm := by
    simp only [Channel.setMarker, Named.get?_insert] at hm
    split at hm
    · -- the end of the channel is behind all targets and articles
      cases hm
      refine ⟨fun target i hi => Nat.ne_of_gt (h.target target i hi).1, fun j hj => ?_⟩
      have := h.article j hj
      have := h.current_eq
      dsimp only
      omega
    · exact h.apart other m hm

/-- Two chunks are opened, the latter of them empty and the new end of the channel. -/
theorem length_pushTwo (h : c.Coherent) (text : String) :
    ((c.pushChunk text).pushChunk "").length = ((c.pushChunk text).pushChunk "").value.length := by
  have hlength := h.length_eq
  rw [length_value] at hlength ⊢
  rw [printed_pushChunk, printed_pushChunk, ← hlength]
  rfl

theorem writeArticle (h : c.Coherent) : c.writeArticle.Coherent where
  length_eq := (h.withCursor (c.cursor.apply "a").2).length_pushTwo (c.cursor.apply "a").1
  current_eq := by simp [Channel.writeArticle, pushChunk]
  article j hj := by
    simp only [Channel.writeArticle, pushChunk, Array.size_push, List.mem_cons] at hj ⊢
    rcases hj with rfl | hj
    · omega
    · have := h.article j hj
      omega
  target name i hopen := by
    have hcurrent := h.current_eq
    obtain ⟨hlt, hapart⟩ := h.target name i hopen
    simp only [Channel.writeArticle, pushChunk, Array.size_push, List.mem_cons]
    refine ⟨by omega, ?_⟩
    rintro j (rfl | hj)
    · omega
    · exact hapart j hj
  marker name m hm := by
    obtain ⟨hlt, hle⟩ := h.marker name m hm
    have hkept : c.writeArticle.chunk m.chunk = c.chunk m.chunk :=
      chunk_pushTwo (c := { c with cursor := (c.cursor.apply "a").2 }) hlt _ _
    rw [hkept]
    simp only [Channel.writeArticle, pushChunk, Array.size_push]
    exact ⟨by omega, hle⟩
  apart name m hm := by
    obtain ⟨htarget, harticle⟩ := h.apart name m hm
    have hlt := (h.marker name m hm).1
    simp only [Channel.writeArticle, pushChunk, Array.size_push, List.mem_cons]
    refine ⟨htarget, ?_⟩
    rintro j (rfl | hj)
    · omega
    · exact harticle j hj

theorem createTarget (h : c.Coherent) (name : String) : (c.createTarget name).Coherent where
  length_eq := h.length_pushTwo ((c.queued.get? name).getD "")
  current_eq := by simp [Channel.createTarget, pushChunk]
  article j hj := by
    have := h.article j hj
    simp only [Channel.createTarget, pushChunk, Array.size_push]
    omega
  target other i hopen := by
    have hcurrent := h.current_eq
    simp only [Channel.createTarget, pushChunk, Named.get?_insert] at hopen ⊢
    split at hopen
    · cases hopen
      refine ⟨Nat.lt_succ_self _, fun j hj => ?_⟩
      have := h.article j hj
      omega
    · obtain ⟨hlt, hapart⟩ := h.target other i hopen
      exact ⟨by omega, hapart⟩
  marker other m hm := by
    obtain ⟨hlt, hle⟩ := h.marker other m hm
    have hkept : (c.createTarget name).chunk m.chunk = c.chunk m.chunk := chunk_pushTwo hlt _ _
    rw [hkept]
    simp only [Channel.createTarget, pushChunk, Array.size_push]
    exact ⟨by omega, hle⟩
  apart other m hm := by
    obtain ⟨htarget, harticle⟩ := h.apart other m hm
    have hlt := (h.marker other m hm).1
    refine ⟨fun target i hopen => ?_, harticle⟩
    simp only [Channel.createTarget, pushChunk, Named.get?_insert] at hopen
    split at hopen
    · cases hopen
      omega
    · exact htarget target i hopen

/-! ### Sequences of operations -/

theorem apply (h : c.Coherent) (operation : Operation) :
    (operation.apply c).Coherent ∧ operation.attempt? c = some (operation.apply c) := by
  cases operation with
  | setMode mode => exact ⟨h.withCursor _, rfl⟩
  | write text => exact h.write text
  | commit p => exact h.commit p
  | writeArticle => exact ⟨h.writeArticle, rfl⟩
  | createTarget name => exact ⟨h.createTarget name, rfl⟩
  | writeTarget name value overwrite => exact h.writeTarget name value overwrite
  | clearTarget name => exact h.clearTarget name
  | setMarker name => exact ⟨h.setMarker name, rfl⟩

theorem foldl (h : c.Coherent) (operations : List Operation) :
    (operations.foldl Operation.apply c).Coherent ∧
      operations.foldlM Operation.attempt? c = some (operations.foldl Operation.apply c) := by
  induction operations generalizing c with
  | nil => exact ⟨h, rfl⟩
  | cons operation operations ih =>
    obtain ⟨hnext, hattempt⟩ := h.apply operation
    rw [List.foldl_cons, List.foldlM_cons, hattempt]
    exact ih hnext

end Coherent

/-- However a new channel is used, its length is the number of characters of its text, its end is
its last chunk, all chunks that its targets, articles and markers refer to exist, no target is an
article or the chunk behind one, and no marker is behind the end of its chunk. And the length never
falls below zero on the way: the operations that check this all go through, and do the same. -/
theorem coherent_after (name : String) (visibility : Visibility) (operations : List Operation) :
    let c := after name visibility operations
    c.length = c.value.length ∧
      c.current + 1 = c.chunks.size ∧
      (∀ target i, c.targets.get? target = some i → i < c.chunks.size) ∧
      (∀ i ∈ c.articles, 0 < i ∧ i < c.chunks.size) ∧
      (∀ target i, c.targets.get? target = some i → ∀ j ∈ c.articles, i ≠ j ∧ i ≠ j - 1) ∧
      (∀ marker m, c.markers.get? marker = some m →
        m.chunk < c.chunks.size ∧ m.offset ≤ (c.chunk m.chunk).length) ∧
      operations.foldlM Operation.attempt? (empty name visibility) = some c := by
  intro c
  obtain ⟨h, hchecked⟩ := (coherent_empty name visibility).foldl operations
  exact ⟨h.length_eq, h.current_eq, fun _ _ => h.target_lt, h.article,
    fun target i hopen => (h.target target i hopen).2, h.marker, hchecked⟩

/-- The article has grown, and the target is written where it was opened. -/
example :
    let c := after "main" .public [.writeArticle, .write " apple", .createTarget "ending",
      .write " pie", .writeTarget "ending" "s," true]
    c.value = "an apples, pie" ∧ c.length = 14 := by decide +kernel

end Channel

end Wordsmith
