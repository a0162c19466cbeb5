import Wordsmith.Proofs.Articles
import Wordsmith.Proofs.Growth
import Wordsmith.Proofs.Solvency

/-!
# What is written is charged

A text is written to several channels at once, out of one budget. It is formatted for every channel
first, the costs are charged together, and only then is anything put into a channel. So a writing that
the budget does not allow leaves no trace.

To say that of calls that change a stack and a budget where they are, the three kinds of writing are
stated once more in this way (`InPlace.write`): what such a call has changed stays changed when it
fails. It comes to the same as the functions that give back a new stack (`InPlace.write_eq`). What was
formatted for a channel is still right when its turn comes, because no channel is reached
twice.

The charge covers what a channel grows by, the text that waits for a target included. A text at the
end of a channel is charged exactly, except that nothing is paid back for an article that becomes
shorter. The count itself stops at a ceiling.

Main result: `writes_charged`.
-/

namespace Wordsmith

open Text

/-! ## Budgets -/

namespace Budget

variable {b b' : Budget}

/-- Budgets that come from an unspent one by spending. -/
inductive Reachable : Budget → Prop
  | ofLimit (limit : Option Nat) : Reachable (ofLimit limit)
  | spend {b b' : Budget} (h : Reachable b) (count : Nat) (hspend : b.spend count = .ok b') :
      Reachable b'

theorem Reachable.used_le (h : b.Reachable) :
    b.used ≤ ceiling ∧ ∀ n, b.limit = some n → b.used ≤ n := by
  induction h with
  | ofLimit limit => exact ⟨Nat.zero_le _, fun _ _ => Nat.zero_le _⟩
  | @spend b b' _ count hspend _ =>
    have hb' := spend_eq hspend
    refine ⟨?_, fun n hn => spend_used_le hspend ?_⟩
    · rw [hb']
      exact Nat.min_le_right _ _
    · rw [← hn, hb']

/-- Nothing costs nothing. -/
theorem Reachable.spend_zero (h : b.Reachable) : b.spend 0 = .ok b := by
  obtain ⟨hceiling, hlimit⟩ := h.used_le
  obtain ⟨limit, used⟩ := b
  have hused : min (used + 0) ceiling = used := Nat.min_eq_left hceiling
  simp only [Budget.spend, hused]
  cases limit with
  | none => rfl
  | some n => exact if_neg (Nat.not_lt.2 (hlimit n rfl))

end Budget

/-! ## Writing to one channel -/

namespace Channel

variable {c : Channel}

/-- What is written. -/
inductive Writing where
  | text (text : String)
  | article
  | target (name value : String) (overwrite : Bool)

namespace Writing

/-- What is announced as the cost of a writing. -/
def cost (c : Channel) : Writing → Nat
  | text s => (c.prepare s).cost
  | article => 1
  | target name value overwrite => c.targetCost name value overwrite

/-- The operation that is carried out on each channel. -/
def operation : Writing → Operation
  | text s => .write s
  | article => .writeArticle
  | target name value overwrite => .writeTarget name value overwrite

/-- The channel with what is written. -/
def put (w : Writing) (c : Channel) : Channel := w.operation.apply c

end Writing

theorem Orderly.held_eq (h : c.Orderly) : c.held = c.length + c.waiting := by
  rw [held, h.length_eq, length_value]

/-- The cost covers the growth. -/
theorem Reachable.length_put_le (h : c.Reachable) (w : Writing) :
    (w.put c).length + (w.put c).waiting ≤ c.length + c.waiting + w.cost c := by
  have hsound : c.Sound := fun i hi => (h.orderly.article i hi).1
  have hnext : (w.put c).Orderly := h.orderly.operate w.operation
  rw [← hnext.held_eq, ← h.orderly.held_eq]
  cases w with
  | text s => exact held_write_le hsound s
  | article => exact held_writeArticle_le c
  | target name value overwrite => exact held_writeTarget_le hsound name value overwrite

/-- A commit adds its text and changes the article before it. -/
theorem Orderly.length_commit (h : c.Orderly) (p : PendingWrite) :
    (c.commit p).length +
        (if c.current ∈ c.articles then (c.chunk (c.current - 1)).length else 0) =
      c.length + p.text.length +
        if c.current ∈ c.articles then ((c.commit p).chunk (c.current - 1)).length else 0 := by
  unfold commit
  dsimp only
  split
  · next hempty =>
    rw [String.isEmpty_iff.1 hempty, String.length_empty]
    rfl
  · split
    · next hdue =>
      have hpos := (h.article _ hdue).1
      have hlt := h.article_lt hdue
      have hbefore : (appendTo { c with cursor := p.cursor } c.current p.text).chunk
          (c.current - 1) = c.chunk (c.current - 1) := chunk_appendTo_of_ne (by omega) _
      have hle := h.length_chunk_le (c.current - 1)
      rw [refreshArticle_eq]
      split
      · next form hform =>
        rw [chunk_setChunk (by simpa [appendTo] using hlt), if_pos rfl]
        simp only [setChunk, hbefore]
        simp only [appendTo]
        omega
      · rw [hbefore]
        rfl
    · next hnone =>
      rw [refreshArticle_appendTo (c := { c with cursor := p.cursor }) hnone]
      rfl

theorem Reachable.cost_empty (h : c.Reachable) : (c.prepare "").cost = 0 := by
  have htext : (c.prepare "").text = "" := congrArg Prod.fst c.cursor.apply_empty
  have hcommit : (c.commit (c.prepare "")).chunk (c.current - 1) = c.chunk (c.current - 1) := by
    rw [commit, htext]
    rfl
  rw [h.cost_prepare, htext, hcommit, Nat.sub_self, ite_self]
  rfl

/-- The cost of a text is the growth, unless the article before it becomes shorter. -/
theorem Reachable.length_write (h : c.Reachable) (text : String) :
    (c.write text).length = c.length + (c.prepare text).cost ∨
      ∃ i ∈ c.articles, ((c.write text).chunk (i - 1)).length < (c.chunk (i - 1)).length := by
  by_cases hempty : text.isEmpty
  · rw [String.isEmpty_iff.1 hempty, h.cost_empty]
    exact .inl rfl
  · have hwrite : c.write text = c.commit (c.prepare text) := if_neg hempty
    have hlength := h.orderly.length_commit (c.prepare text)
    rw [hwrite, h.cost_prepare]
    by_cases hdue : c.current ∈ c.articles
    · by_cases hshorter : ((c.commit (c.prepare text)).chunk (c.current - 1)).length <
          (c.chunk (c.current - 1)).length
      · exact .inr ⟨c.current, hdue, hshorter⟩
      · simp only [hdue, if_true] at hlength ⊢
        exact .inl (by omega)
    · simp only [hdue, if_false] at hlength ⊢
      exact .inl (by omega)

end Channel

/-! ## Writing to a stack -/

namespace ChannelStack

open Channel (Writing)

variable {s s' : ChannelStack} {b b' : Budget}

/-- Writes to the channels that a write reaches. -/
def perform (s : ChannelStack) (b : Budget) :
    Writing → Except LimitExceeded (ChannelStack × Budget)
  | .text text => s.write text b
  | .article => s.writeArticle b
  | .target name value overwrite => s.writeTarget name value overwrite b

/-- Stacks that come from a new one by its operations, out of whatever budgets. -/
inductive Reachable : ChannelStack → Prop
  | initial : Reachable initial
  | push {s : ChannelStack} (h : Reachable s) (name : String) (visibility : Visibility) :
      Reachable (s.push name visibility)
  | pop {s : ChannelStack} (h : Reachable s) (name : String) : Reachable (s.pop name)
  | setMode {s : ChannelStack} (h : Reachable s) (mode : CaseMode) : Reachable (s.setMode mode)
  | createTarget {s : ChannelStack} (h : Reachable s) (name : String) :
      Reachable (s.createTarget name)
  | clearTarget {s : ChannelStack} (h : Reachable s) (name : String) :
      Reachable (s.clearTarget name)
  | setMarker {s : ChannelStack} (h : Reachable s) (name : String) : Reachable (s.setMarker name)
  | perform {s s' : ChannelStack} {b b' : Budget} (h : Reachable s) (w : Writing)
      (hperform : s.perform b w = .ok (s', b')) : Reachable s'

theorem eq_of_charge {r : Except LimitExceeded Budget} {t : ChannelStack}
    (h : (match r with
      | .error e => .error e
      | .ok b => .ok (t, b)) = Except.ok (s', b')) : s' = t := by
  cases r with
  | error e => cases h
  | ok b =>
    cases h
    rfl

/-- A writing that succeeds is put into the channels, unless there is nothing to write. -/
theorem eq_of_perform {w : Writing} (h : s.perform b w = .ok (s', b')) :
    s' = s ∨ s' = s.modifyActive w.put := by
  cases w with
  | text text =>
    simp only [perform, write] at h
    split at h
    · exact .inl (congrArg Prod.fst (Except.ok.inj h)).symm
    · exact .inr (eq_of_charge h)
  | article => exact .inr (eq_of_charge h)
  | target name value overwrite => exact .inr (eq_of_charge h)

theorem sound_of_reachable (h : s.Reachable) : s.Sound := by
  induction h with
  | initial => exact sound_initial
  | push _ name visibility ih => exact ih.push name visibility
  | pop _ name ih => exact ih.pop name
  | setMode _ mode ih => exact ih.modifyActive (Channel.maintains_setMode mode)
  | createTarget _ name ih => exact ih.modifyActive (Channel.maintains_createTarget name)
  | clearTarget _ name ih => exact ih.modifyActive (Channel.maintains_clearTarget name)
  | setMarker _ name ih => exact ih.modifyActive (Channel.maintains_setMarker name)
  | perform _ w hperform ih =>
    rcases eq_of_perform hperform with rfl | rfl
    · exact ih
    · cases w with
      | text text => exact ih.modifyActive (Channel.maintains_write text)
      | article => exact ih.modifyActive Channel.maintains_writeArticle
      | target name value overwrite =>
        exact ih.modifyActive (Channel.maintains_writeTarget name value overwrite)

/-- Operations on the reached channels are operations on channels. -/
theorem forall_modifyActive {P : Channel → Prop} (h : ∀ c ∈ s.channels.toList, P c)
    {f : Channel → Channel} (hf : ∀ c, P c → P (f c)) :
    ∀ c ∈ (s.modifyActive f).channels.toList, P c := by
  rw [modifyActive, toList_foldl_modify]
  exact foldl_modify_keeps hf s.active h

theorem forall_push {P : Channel → Prop} (h : ∀ c ∈ s.channels.toList, P c)
    (hempty : ∀ name visibility, P (.empty name visibility))
    (hturn : ∀ c visibility, P c → P { c with visibility := visibility })
    (name : String) (visibility : Visibility) :
    ∀ c ∈ (s.push name visibility).channels.toList, P c := by
  unfold push
  split
  · exact h
  · split
    · next i _ =>
      have hchannels := foldl_modify_keeps (fun c => hturn c visibility) [i] h
      simpa using hchannels
    · intro c hc
      rw [Array.toList_push, List.mem_append, List.mem_singleton] at hc
      rcases hc with hc | rfl
      · exact h c hc
      · exact hempty name visibility

theorem pop_channels (s : ChannelStack) (name : String) : (s.pop name).channels = s.channels := by
  unfold pop
  split
  · rfl
  · split <;> rfl

/-- The channels of a stack are channels in use. -/
theorem reachable_channel (h : s.Reachable) : ∀ c ∈ s.channels.toList, c.Reachable := by
  have hoperate : ∀ (operation : Channel.Operation) (c : Channel), c.Reachable →
      (operation.apply c).Reachable := fun operation _ hc => hc.operate operation
  induction h with
  | initial =>
    intro c hc
    cases List.mem_singleton.1 hc
    exact Channel.reachable_empty _ _
  | push _ name visibility ih =>
    exact forall_push ih Channel.reachable_empty (fun _ v hc => hc.turn v) name visibility
  | pop _ name ih =>
    rw [pop_channels]
    exact ih
  | setMode _ mode ih => exact forall_modifyActive ih (hoperate (.setMode mode))
  | createTarget _ name ih => exact forall_modifyActive ih (hoperate (.createTarget name))
  | clearTarget _ name ih => exact forall_modifyActive ih (hoperate (.clearTarget name))
  | setMarker _ name ih => exact forall_modifyActive ih (hoperate (.setMarker name))
  | perform _ w hperform ih =>
    rcases eq_of_perform hperform with rfl | rfl
    · exact ih
    · exact forall_modifyActive ih (hoperate w.operation)

/-! ## One charge for all channels -/

theorem total_ofActive {f : Channel → Nat} {n : Nat} (hs : s.Sound)
    (h : ∀ c ∈ s.channels.toList, f c = n) : total (s.ofActive f) = s.active.length * n := by
  have hbound := hs.exists_active.2
  rw [ofActive, total_filterMap]
  generalize s.active = l at hbound ⊢
  induction l with
  | nil => simp
  | cons i l ih =>
    rw [List.forall_mem_cons] at hbound
    obtain ⟨hi, hl⟩ := hbound
    have hc := h _ (Array.mem_toList_iff.2 (Array.getElem_mem hi))
    rw [List.map_cons, total_cons, ih hl, Array.getElem?_eq_getElem hi, Option.map_some,
      Option.getD_some, hc, List.length_cons, Nat.succ_mul, Nat.add_comm]

/-- Every writing charges its costs together and then puts what is written. -/
theorem perform_eq (hs : s.Reachable) (hb : b.Reachable) (w : Writing) :
    s.perform b w = match b.spend (total (s.ofActive w.cost)) with
      | .error e => .error e
      | .ok b' => .ok (s.modifyActive w.put, b') := by
  have hsound := sound_of_reachable hs
  cases w with
  | text text =>
    by_cases hempty : text.isEmpty
    · have hnone : text = "" := String.isEmpty_iff.1 hempty
      have hcost : total (s.ofActive (Writing.text text).cost) = 0 := by
        rw [hnone]
        exact (total_ofActive hsound fun c hc => (reachable_channel hs c hc).cost_empty).trans
          (Nat.mul_zero _)
      have hput : s.modifyActive (Writing.text text).put = s := by
        rw [hnone]
        exact modifyActive_self hsound.active_nodup fun _ => rfl
      rw [hcost, hb.spend_zero, hput]
      exact if_pos hempty
    · exact if_neg hempty
  | article =>
    have hcost : total (s.ofActive Writing.article.cost) = s.active.length :=
      (total_ofActive hsound fun c _ => rfl).trans (Nat.mul_one _)
    rw [hcost]
    rfl
  | target name value overwrite => rfl

/-! ## Calls that change a stack where it is -/

/-- A call that changes a stack and a budget. What it has changed stays changed when it fails. -/
abbrev InPlace := EStateM LimitExceeded (ChannelStack × Budget)

namespace InPlace

/-- Spends characters. -/
def spend (count : Nat) : InPlace Unit := do
  let (s, b) ← get
  match b.spend count with
  | .error e => throw e
  | .ok b => set (s, b)

/-- Changes a channel. -/
def change (i : Nat) (f : Channel → Channel) : InPlace Unit :=
  modify fun (s, b) => ({ s with channels := s.channels.modify i f }, b)

/-- What a text comes to in each of the channels that it reaches. -/
def pending (s : ChannelStack) (text : String) : List (Nat × PendingWrite) :=
  s.active.filterMap fun i => (s.channels[i]?).map fun c => (i, c.prepare text)

/-- Writes, one channel after the other. -/
def write : Writing → InPlace Unit
  | .text text => do
    if text.isEmpty then
      return
    let (s, _) ← get
    spend (total ((pending s text).map fun (_, p) => p.cost))
    (pending s text).forM fun (i, p) => change i (·.commit p)
  | .article => do
    let (s, _) ← get
    spend s.active.length
    s.active.forM fun i => change i (·.writeArticle)
  | .target name value overwrite => do
    let (s, _) ← get
    spend (total (s.ofActive (·.targetCost name value overwrite)))
    s.active.forM fun i => change i (·.writeTarget name value overwrite)

theorem forM_change {α : Type} (l : List α) (place : α → Nat) (f : α → Channel → Channel) :
    (l.forM fun a => change (place a) (f a)) (s, b) =
      .ok () ({ s with
        channels := l.foldl (fun channels a => channels.modify (place a) (f a)) s.channels }, b) := by
  induction l generalizing s with
  | nil => rfl
  | cons a l ih => exact ih

/-- What was formatted for each channel beforehand is what is formatted when its turn comes, as no
channel has two turns. -/
theorem foldl_pending {α β : Type} (f : β → α → α) (g : α → β) {l : List Nat}
    (hl : l.Nodup) {xs ys : Array α} (hlt : ∀ i ∈ l, i < ys.size) (h : ∀ i ∈ l, xs[i]? = ys[i]?) :
    (l.filterMap fun i => (ys[i]?).map fun a => (i, g a)).foldl
        (fun xs p => xs.modify p.1 (f p.2)) xs =
      l.foldl (fun xs i => xs.modify i fun a => f (g a) a) xs := by
  induction l generalizing xs with
  | nil => rfl
  | cons i l ih =>
    rw [List.forall_mem_cons] at hlt h
    obtain ⟨hi, hl⟩ := List.nodup_cons.1 hl
    have hget : ys[i]? = some ys[i] := Array.getElem?_eq_getElem hlt.1
    -- no turn before this one has touched the item
    have hturn : xs.modify i (f (g ys[i])) = xs.modify i fun a => f (g a) a := by
      refine Array.ext_getElem? fun j => ?_
      rw [Array.getElem?_modify, Array.getElem?_modify]
      split
      · next hij => rw [← hij, h.1, hget, Option.map_some, Option.map_some]
      · rfl
    have hothers : ∀ j ∈ l, (xs.modify i fun a => f (g a) a)[j]? = ys[j]? := by
      intro j hj
      have hij : i ≠ j := fun heq => hi (heq ▸ hj)
      rw [Array.getElem?_modify, if_neg hij, h.2 j hj]
    rw [List.filterMap_cons, hget]
    simp only [Option.map_some, List.foldl_cons]
    rw [hturn, ih hl hlt.2 hothers]

/-- A text costs what it comes to in each channel. -/
theorem total_pending (s : ChannelStack) (text : String) :
    total ((pending s text).map fun (_, p) => p.cost) =
      total (s.ofActive (Writing.text text).cost) := by
  simp only [pending, ofActive, List.map_filterMap, Option.map_map, Function.comp_def, Writing.cost]

/-- To commit what a text comes to in each channel is to write it to each. -/
theorem foldl_commit (hs : s.Sound) {text : String} (h : ¬text.isEmpty) :
    (pending s text).foldl (fun channels a => channels.modify a.1 (·.commit a.2)) s.channels =
      (s.modifyActive (·.write text)).channels := by
  have hwrite : (fun c : Channel => c.write text) = fun c => c.commit (c.prepare text) :=
    funext fun c => if_neg h
  rw [hwrite]
  exact foldl_pending (fun p c => c.commit p) (fun c => c.prepare text) hs.active_nodup
    hs.exists_active.2 fun _ _ => rfl

/-- Channels are changed once all is paid. -/
theorem spend_forM {α : Type} (count : Nat) (l : List α) (place : α → Nat)
    (f : α → Channel → Channel) :
    (spend count >>= fun _ => l.forM fun a => change (place a) (f a)) (s, b) =
      match b.spend count with
      | .error e => .error e (s, b)
      | .ok b' => .ok () ({ s with
          channels := l.foldl (fun channels a => channels.modify (place a) (f a)) s.channels },
        b') := by
  have hspend : spend count (s, b) = match b.spend count with
      | .error e => .error e (s, b)
      | .ok b' => .ok () (s, b') := by
    have hget : spend count (s, b) = (match b.spend count with
        | .error e => throw e
        | .ok b' => set (s, b') : InPlace Unit) (s, b) := rfl
    rw [hget]
    cases b.spend count <;> rfl
  simp only [bind, EStateM.bind, hspend]
  cases b.spend count with
  | error e => rfl
  | ok b' => exact forM_change l place f

/-- Changed where they are, a stack and a budget come to the same, and if there is too little to spend,
they are as they were. -/
theorem write_eq (hs : s.Reachable) (w : Writing) :
    write w (s, b) = match s.perform b w with
      | .error e => .error e (s, b)
      | .ok (s', b') => .ok () (s', b') := by
  have hsound := sound_of_reachable hs
  cases w with
  | text text =>
    by_cases hempty : text.isEmpty
    · have hperform : s.perform b (.text text) = .ok (s, b) := if_pos hempty
      rw [hperform, write, if_pos hempty]
      rfl
    · have hperform : s.perform b (.text text) =
          match b.spend (total (s.ofActive (Writing.text text).cost)) with
          | .error e => .error e
          | .ok b' => .ok (s.modifyActive (·.write text), b') := if_neg hempty
      have hwrite : write (.text text) (s, b) =
          (spend (total ((pending s text).map fun (_, p) => p.cost)) >>= fun _ =>
            (pending s text).forM fun a => change a.1 (·.commit a.2)) (s, b) := by
        rw [write, if_neg hempty]
        rfl
      rw [hperform, hwrite, spend_forM, total_pending, foldl_commit hsound hempty]
      cases b.spend _ <;> rfl
  | article =>
    have hwrite := spend_forM (s := s) (b := b) s.active.length s.active id
      fun _ => (·.writeArticle)
    refine (Eq.trans rfl hwrite).trans ?_
    simp only [perform, writeArticle]
    cases b.spend _ <;> rfl
  | target name value overwrite =>
    have hwrite := spend_forM (s := s) (b := b)
      (total (s.ofActive (·.targetCost name value overwrite))) s.active id
      fun _ => (·.writeTarget name value overwrite)
    refine (Eq.trans rfl hwrite).trans ?_
    simp only [perform, writeTarget]
    cases b.spend _ <;> rfl

end InPlace

/-! ## All or nothing -/

/-- Whatever stack and budget were come to, a writing that fails leaves both as they were. One that
succeeds has used the sum of the costs announced for the channels that a write reaches, up to the
ceiling, and changed no other channels. Each cost covers what the length of the channel and the text
that waits for its targets have grown by; that of a text is the growth of the length, unless
an article has become shorter. -/
theorem writes_charged (hs : s.Reachable) (hb : b.Reachable) (w : Writing) :
    (∀ e, s.perform b w = .error e → InPlace.write w (s, b) = .error e (s, b)) ∧
      ∀ s' b', s.perform b w = .ok (s', b') →
        InPlace.write w (s, b) = .ok () (s', b') ∧
        b' = { b with used := min (b.used + total (s.ofActive w.cost)) Budget.ceiling } ∧
        (∀ i, i ∉ s.active → s'.channels[i]? = s.channels[i]?) ∧
        ∀ i ∈ s.active, ∃ c c', s.channels[i]? = some c ∧ s'.channels[i]? = some c' ∧
          c'.length + c'.waiting ≤ c.length + c.waiting + w.cost c ∧
          ∀ text, w = .text text → c'.length = c.length + w.cost c ∨
            ∃ j ∈ c.articles, (c'.chunk (j - 1)).length < (c.chunk (j - 1)).length := by
  have hsound := sound_of_reachable hs
  have hperform := perform_eq hs hb w
  refine ⟨fun e he => by rw [InPlace.write_eq hs, he], fun s' b' hok => ⟨?_, ?_⟩⟩
  · rw [InPlace.write_eq hs, hok]
  · rw [hok] at hperform
    cases hspend : b.spend (total (s.ofActive w.cost)) with
    | error e =>
      rw [hspend] at hperform
      cases hperform
    | ok b₁ =>
      rw [hspend] at hperform
      cases hperform
      have hget : ∀ i, (s.modifyActive w.put).channels[i]? =
          if i ∈ s.active then s.channels[i]?.map w.put else s.channels[i]? := fun i => by
        rw [← Array.getElem?_toList, getElem?_modifyActive hsound.active_nodup,
          Array.getElem?_toList]
      refine ⟨Budget.spend_eq hspend, fun i hi => by rw [hget, if_neg hi], fun i hi => ?_⟩
      have hlt := hsound.exists_active.2 i hi
      have hc := reachable_channel hs _ (Array.mem_toList_iff.2 (Array.getElem_mem hlt))
      refine ⟨s.channels[i], w.put s.channels[i], Array.getElem?_eq_getElem hlt, ?_,
        hc.length_put_le w, ?_⟩
      · rw [hget, if_pos hi, Array.getElem?_eq_getElem hlt, Option.map_some]
      · rintro text rfl
        exact hc.length_write text

/-- Two channels and a limit of nine: four letters are charged twice, and two more are refused. -/
theorem writes_charged_twice :
    let s := initial.push "side" .public
    let b := Budget.ofLimit (some 9)
    s.Reachable ∧ b.Reachable ∧ ∃ s' b', s.perform b (.text "abcd") = .ok (s', b') ∧
      InPlace.write (.text "abcd") (s, b) = .ok () (s', b') ∧ b'.used = 8 ∧
      InPlace.write (.text "ab") (s', b') = .error ⟨.characters, 9⟩ (s', b') := by
  intro s b
  have hs : s.Reachable := .push .initial "side" .public
  have hb : b.Reachable := .ofLimit (some 9)
  let s' := s.modifyActive (Writing.text "abcd").put
  have hcosts : total (s.ofActive (Writing.text "abcd").cost) = 8 := by decide +kernel
  have hspend : b.spend 8 = .ok ⟨some 9, 8⟩ := rfl
  have hfirst : s.perform b (.text "abcd") = .ok (s', ⟨some 9, 8⟩) := by
    rw [perform_eq hs hb, hcosts, hspend]
  have hmore : total (s'.ofActive (Writing.text "ab").cost) = 4 := by decide +kernel
  have hrefused : Budget.spend ⟨some 9, 8⟩ 4 = .error ⟨.characters, 9⟩ := rfl
  have hs' : s'.Reachable := hs.perform _ hfirst
  have hb' : Budget.Reachable ⟨some 9, 8⟩ := .spend hb 8 hspend
  have hsecond : s'.perform ⟨some 9, 8⟩ (.text "ab") = .error ⟨.characters, 9⟩ := by
    rw [perform_eq hs' hb', hmore, hrefused]
  exact ⟨hs, hb, s', _, hfirst, ((writes_charged hs hb (.text "abcd")).2 _ _ hfirst).1, rfl,
    (writes_charged hs' hb' (.text "ab")).1 _ hsecond⟩

/-- A count that stands at the ceiling stays there. -/
theorem write_at_ceiling :
    let b : Budget := ⟨none, Budget.ceiling⟩
    (Budget.ofLimit none).spend Budget.ceiling = .ok b ∧
      ∃ s', initial.perform b (.text "a") = .ok (s', b) ∧
        b.used ≠ b.used + total (initial.ofActive (Writing.text "a").cost) := by
  intro b
  have hspend : ∀ count, b.spend count = .ok b := fun count => by
    have hused : min (Budget.ceiling + count) Budget.ceiling = Budget.ceiling :=
      Nat.min_eq_right (Nat.le_add_right _ _)
    simp only [b, Budget.spend, hused]
  have hreached : (Budget.ofLimit none).spend Budget.ceiling = .ok b := by
    simp only [Budget.spend, Budget.ofLimit, Nat.zero_add, Nat.min_self, b]
  have hcost : total (initial.ofActive (Writing.text "a").cost) = 1 := by decide +kernel
  refine ⟨hreached, initial.modifyActive (Writing.text "a").put, ?_, ?_⟩
  · rw [perform_eq .initial (.spend (.ofLimit none) _ hreached), hspend]
  · rw [hcost]
    exact Nat.ne_of_lt (Nat.lt_succ_self _)

end ChannelStack

end Wordsmith
