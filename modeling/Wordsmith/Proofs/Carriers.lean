import Mathlib.Data.List.Basic
import Wordsmith.Vocabulary.Basic

/-!
# What carriers keep

Queries are asked one after the other, and all that goes from one to the next is the generator and
the memory of the carriers. The memory is exactly what the queries so far have been answered with
(`Recalls`). All laws of carriers follow from that: a query with a `=` carrier gets the entry that is
noted under its id, which an earlier query with the id was answered with, and a query with `!`
carriers gets an entry that is noted under none of their ids, which no earlier query with one of the
ids was answered with.

A query with carriers of both kinds, or with two `=` carriers, breaks the laws: it gets the entry of
the one carrier and the others are noted with it unasked. So the laws are about queries without such
carriers (`Query.Plain`).

Main result: `Vocabulary.history_obeys`.
-/

namespace Wordsmith

/-! ## Queries -/

namespace Query

variable {q : Query}

/-- The query has no more than one `=` carrier, and none if it has `!` carriers. -/
def Plain (q : Query) : Prop :=
  (q.ids .same).length ≤ 1 ∧ (q.ids .same = [] ∨ q.ids .unique = [])

instance (q : Query) : Decidable q.Plain := inferInstanceAs (Decidable (_ ∧ _))

/-- An entry with the classes passes the filters: of each group one rule holds, and if the query is
exclusive, every class is one that some rule asks for. -/
def Admits (q : Query) (classes : List String) : Prop :=
  (∀ group ∈ q.filters, ∃ rule ∈ group, rule.className ∈ classes ↔ rule.negated = false) ∧
    (q.exclusive = true → ∀ c ∈ classes, ∃ group ∈ q.filters, ∃ rule ∈ group,
      rule.negated = false ∧ rule.className = c)

theorem accepts_iff (q : Query) (classes : List String) :
    q.accepts classes = true ↔ q.Admits classes := by
  have hrule (rule : ClassRule) : (classes.contains rule.className != rule.negated) = true ↔
      (rule.className ∈ classes ↔ rule.negated = false) := by
    cases rule.negated <;> simp
  simp only [accepts, Admits, Bool.and_eq_true, Bool.or_eq_true, Bool.not_eq_true', List.all_eq_true,
    List.any_eq_true, hrule, beq_iff_eq]
  cases q.exclusive <;> simp

theorem mem_ids {kind : CarrierKind} {id : String} :
    id ∈ q.ids kind ↔ (⟨kind, id⟩ : Carrier) ∈ q.carriers := by
  simp only [ids, List.mem_map, List.mem_filter, beq_iff_eq]
  constructor
  · rintro ⟨c, ⟨hc, rfl⟩, rfl⟩
    exact hc
  · exact fun h => ⟨_, ⟨h, rfl⟩, rfl⟩

end Query

/-! ## The memory -/

deriving instance DecidableEq for CarrierMemory

namespace CarrierMemory

variable {m : CarrierMemory} {name table id : String} {entry i : Nat} {carriers : List Carrier}

theorem matched?_note (c : Carrier) : (m.note name entry c).matched? table id =
    if table = name ∧ c = ⟨.same, id⟩ then some entry else m.matched? table id := by
  obtain ⟨_ | _, other⟩ := c
  · by_cases h : table = name ∧ other = id
    · obtain ⟨rfl, rfl⟩ := h
      simp [note, matched?]
    · have hne : ((name, other) == (table, id)) = false := by
        rw [beq_eq_false_iff_ne, ne_eq, Prod.mk.injEq]
        exact fun ⟨hname, hid⟩ => h ⟨hname.symm, hid⟩
      simp [note, matched?, hne, h]
  · simp [note, matched?]

theorem isUsed_note (c : Carrier) : (m.note name entry c).isUsed table id i = true ↔
    (table = name ∧ c = ⟨.unique, id⟩ ∧ entry = i) ∨ m.isUsed table id i = true := by
  obtain ⟨_ | _, other⟩ := c
  · simp [note, isUsed]
  · simp only [note, isUsed, List.contains_cons, Bool.or_eq_true, beq_iff_eq, Prod.mk.injEq,
      Carrier.mk.injEq, true_and]
    grind

theorem matched?_foldl_note : (carriers.foldl (note name entry) m).matched? table id =
    if table = name ∧ (⟨.same, id⟩ : Carrier) ∈ carriers then some entry
    else m.matched? table id := by
  induction carriers generalizing m with
  | nil => simp
  | cons c carriers ih =>
    rw [List.foldl_cons, ih, matched?_note]
    grind

theorem isUsed_foldl_note : (carriers.foldl (note name entry) m).isUsed table id i = true ↔
    (table = name ∧ (⟨.unique, id⟩ : Carrier) ∈ carriers ∧ entry = i) ∨
      m.isUsed table id i = true := by
  induction carriers generalizing m with
  | nil => simp
  | cons c carriers ih =>
    rw [List.foldl_cons, ih, isUsed_note]
    grind

end CarrierMemory

/-! ## Tables -/

namespace Table

variable {t : Table} {q : Query} {g g' : Generator} {m : CarrierMemory} {i : Nat}

theorem exists_form_iff (t : Table) (q : Query) :
    (∃ form, t.form? q = .ok form) ↔ ∀ subtype, q.subtype = some subtype → subtype ∈ t.subtypes := by
  unfold form?
  cases q.subtype with
  | none => simp
  | some subtype =>
    have hnone : t.subtypes.idxOf? subtype = none ↔ subtype ∉ t.subtypes := List.idxOf?_eq_none_iff
    cases hindex : t.subtypes.idxOf? subtype with
    | none => simpa [hindex] using hnone.1 hindex
    | some n =>
      have hmem : subtype ∈ t.subtypes :=
        Decidable.not_not.1 fun hnot => nomatch hindex.symm.trans (hnone.2 hnot)
      simpa [hindex] using hmem

/-- A plain query is tied to an entry if that is noted for its `=` carrier. -/
theorem remembered?_eq_some (hq : q.Plain) : t.remembered? q m = some i ↔
    ∃ id ∈ q.ids .same, m.matched? q.name id = some i ∧ i < t.entries.size := by
  unfold remembered?
  match hids : q.ids .same, hq.1 with
  | [], _ => simp
  | [id], _ => simp [Option.filter_eq_some_iff]
  | _ :: _ :: _, hlength => simp at hlength

theorem mem_candidates : i ∈ t.candidates q m ↔
    (∃ entry, t.entries[i]? = some entry ∧ q.Admits entry.classes) ∧
      ∀ id ∈ q.ids .unique, m.isUsed q.name id i = false := by
  simp only [candidates, List.mem_filter, List.mem_range, Bool.and_eq_true, List.all_eq_true,
    Bool.not_eq_true', Query.accepts_iff]
  constructor
  · rintro ⟨hi, hadmits, hunused⟩
    rw [Array.getElem?_eq_getElem hi] at hadmits ⊢
    exact ⟨⟨_, rfl, hadmits⟩, hunused⟩
  · rintro ⟨⟨entry, hentry, hadmits⟩, hunused⟩
    obtain ⟨hi, -⟩ := Array.getElem?_eq_some_iff.1 hentry
    rw [hentry]
    exact ⟨hi, hadmits, hunused⟩

theorem candidates_eq_nil_iff : t.candidates q m = [] ↔
    ∀ i entry, t.entries[i]? = some entry → q.Admits entry.classes →
      ∃ id ∈ q.ids .unique, m.isUsed q.name id i = true := by
  simp only [List.eq_nil_iff_forall_not_mem, mem_candidates, not_and,
    Classical.not_forall, Bool.not_eq_false, exists_prop]
  constructor
  · exact fun h i entry hentry hadmits => h i ⟨entry, hentry, hadmits⟩
  · rintro h i ⟨entry, hentry, hadmits⟩
    exact h i entry hentry hadmits

/-- What is picked is remembered and costs no draw, or it is a candidate and costs one. -/
theorem pick_ok (h : t.pick q g m = .ok (i, g')) : t.remembered? q m = some i ∧ g' = g ∨
    t.remembered? q m = none ∧ i ∈ t.candidates q m ∧ g' = g.next.2 := by
  unfold pick at h
  cases hold : t.remembered? q m with
  | some entry =>
    rw [hold] at h
    cases h
    exact .inl ⟨rfl, rfl⟩
  | none =>
    rw [hold] at h
    cases hcandidates : t.candidates q m with
    | nil =>
      rw [hcandidates] at h
      cases h
    | cons first rest =>
      rw [hcandidates] at h
      simp only [Except.ok.injEq, Prod.mk.injEq] at h
      obtain ⟨rfl, rfl⟩ := h
      have hlt : (g.lessThan (first :: rest).length).1 < (first :: rest).length :=
        g.lessThan_lt (Nat.succ_pos _)
      refine .inr ⟨rfl, ?_, ?_⟩
      · rw [List.getD_eq_getElem?_getD, List.getElem?_eq_getElem hlt, Option.getD_some]
        exact List.getElem_mem _
      · simp only [Generator.lessThan, Generator.nextSmall]

theorem pick_lt (h : t.pick q g m = .ok (i, g')) : i < t.entries.size := by
  rcases pick_ok h with ⟨hold, -⟩ | ⟨-, hcandidate, -⟩
  · exact of_decide_eq_true (Option.filter_eq_some_iff.1 hold).2
  · obtain ⟨⟨_, hentry, -⟩, -⟩ := mem_candidates.1 hcandidate
    exact (Array.getElem?_eq_some_iff.1 hentry).1

theorem pick_error {err : QueryError} (h : t.pick q g m = .error err) :
    t.remembered? q m = none ∧ t.candidates q m = [] ∧ err = .noMatch q.name := by
  unfold pick at h
  cases hold : t.remembered? q m with
  | some entry =>
    rw [hold] at h
    cases h
  | none =>
    rw [hold] at h
    cases hcandidates : t.candidates q m with
    | nil =>
      rw [hcandidates] at h
      cases h
      exact ⟨rfl, rfl, rfl⟩
    | cons first rest =>
      rw [hcandidates] at h
      cases h

end Table

namespace Vocabulary

variable {v : Vocabulary} {t : Table} {q : Query}

/-! ## Asking -/

/-- What may fail and, whether it does or not, change the generator and the memory. -/
abbrev Asking : Type → Type := ExceptT QueryError (StateM (Generator × CarrierMemory))

/-- Draws a number below a bound. -/
def drawBelow (bound : Nat) : Asking Nat :=
  modifyGet fun s => ((s.1.lessThan bound).1, (s.1.lessThan bound).2, s.2)

/-- Notes the entry for a carrier. -/
def noteCarrier (name : String) (entry : Nat) (c : Carrier) : Asking Unit :=
  modify fun s => (s.1, s.2.note name entry c)

/-- Chooses the entry for a query. -/
def chooseEntry (t : Table) (q : Query) : Asking Nat := do
  let (_, m) ← get
  match t.remembered? q m with
  | some entry => return entry
  | none =>
    let candidates := t.candidates q m
    if candidates = [] then throw (.noMatch q.name)
    let n ← drawBelow candidates.length
    return candidates.getD n 0

/-- Answers a query step by step. What a step has changed stays so even if a later one fails. -/
def ask (v : Vocabulary) (q : Query) : Asking String := do
  let some t := v.get? q.name | throw (.unknownTable q.name)
  let form ← liftExcept (t.form? q)
  let entry ← chooseEntry t q
  q.carriers.forM (noteCarrier q.name entry)
  return t.word entry form

/-- A query with the generator and the memory that it meets. -/
structure Event where
  query : Query
  draws : Generator
  memory : CarrierMemory
deriving DecidableEq

/-- What comes of a query: the word or the error, and the generator and the memory behind it. -/
def outcome (v : Vocabulary) (e : Event) :
    Except QueryError String × Generator × CarrierMemory :=
  v.ask e.query (e.draws, e.memory)

theorem bind_apply {α β : Type} (a : Asking α) (f : α → Asking β) (s : Generator × CarrierMemory) :
    (a >>= f) s =
      match a s with
      | (.ok x, s) => f x s
      | (.error err, s) => (.error err, s) := by
  simp only [Bind.bind, ExceptT.bind, ExceptT.mk, ExceptT.bindCont, StateT.bind]
  rcases a s with ⟨_ | x, s⟩ <;> rfl

theorem forM_noteCarrier (name : String) (entry : Nat) (carriers : List Carrier) (g : Generator)
    (m : CarrierMemory) :
    carriers.forM (noteCarrier name entry) (g, m) =
      (.ok (), g, carriers.foldl (CarrierMemory.note name entry) m) := by
  induction carriers generalizing m with
  | nil => rfl
  | cons c carriers ih => exact ih _

theorem chooseEntry_eq (t : Table) (q : Query) (g : Generator) (m : CarrierMemory) :
    chooseEntry t q (g, m) =
      match t.pick q g m with
      | .ok (entry, g) => (.ok entry, g, m)
      | .error err => (.error err, g, m) := by
  have hget : (get : Asking (Generator × CarrierMemory)) (g, m) = (.ok (g, m), g, m) := rfl
  rw [chooseEntry, bind_apply, hget, Table.pick]
  dsimp only
  cases t.remembered? q m with
  | some entry => rfl
  | none =>
    cases t.candidates q m with
    | nil => rfl
    | cons i candidates => rfl

/-- A query that is answered step by step does what it does at once: if it succeeds, and also if it
fails. -/
theorem outcome_eq (v : Vocabulary) (e : Event) : v.outcome e =
    match v.find e.query e.draws e.memory with
    | .ok (word, g, m) => (.ok word, g, m)
    | .error err => (.error err, e.draws, e.memory) := by
  obtain ⟨q, g, m⟩ := e
  unfold outcome ask find
  cases v.get? q.name with
  | none => rfl
  | some t =>
    dsimp only
    cases t.form? q with
    | error err => rfl
    | ok form =>
      have hform : (liftExcept (Except.ok form : Except QueryError Nat) : Asking Nat) (g, m) =
          (.ok form, g, m) := rfl
      rw [bind_apply, hform]
      dsimp only
      rw [bind_apply, chooseEntry_eq]
      cases t.pick q g m with
      | error err => rfl
      | ok p =>
        dsimp only
        rw [bind_apply, forM_noteCarrier]
        rfl

/-! ## What a query is answered with -/

variable {v : Vocabulary} {t : Table} {e e' : Event} {earlier : List Event} {m : CarrierMemory}
  {id : String} {i j : Nat}

/-- The query is answered with a form of the entry. -/
def Gets (v : Vocabulary) (e : Event) (i : Nat) : Prop :=
  ∃ t form g, v.get? e.query.name = some t ∧ t.form? e.query = .ok form ∧
    t.pick e.query e.draws e.memory = .ok (i, g)

/-- An entry of the table is noted for a `=` carrier of the query. -/
def Remembers (v : Vocabulary) (e : Event) : Prop :=
  ∃ t, v.get? e.query.name = some t ∧ ∃ id ∈ e.query.ids .same, ∃ i,
    e.memory.matched? e.query.name id = some i ∧ i < t.entries.size

/-- All that a query does if it succeeds, and if it fails. -/
theorem outcome_cases (v : Vocabulary) (e : Event) :
    (∃ t form i g, v.get? e.query.name = some t ∧ t.form? e.query = .ok form ∧
      t.pick e.query e.draws e.memory = .ok (i, g) ∧ v.outcome e =
        (.ok (t.word i form), g, e.query.carriers.foldl (.note e.query.name i) e.memory)) ∨
    (∃ err, v.outcome e = (.error err, e.draws, e.memory) ∧ (∀ i, ¬ v.Gets e i) ∧
      ∀ t form, v.get? e.query.name = some t → t.form? e.query = .ok form →
        t.pick e.query e.draws e.memory = .error err) := by
  rw [outcome_eq, find]
  unfold Gets
  cases ht : v.get? e.query.name with
  | none => exact .inr ⟨_, rfl, nofun, nofun⟩
  | some t =>
    dsimp only
    cases hform : t.form? e.query with
    | error err =>
      refine .inr ⟨err, rfl, ?_, ?_⟩
      · rintro i ⟨_, _, _, ⟨⟩, hok, -⟩
        cases hform.symm.trans hok
      · rintro _ _ ⟨⟩ hok
        cases hform.symm.trans hok
    | ok form =>
      dsimp only
      cases hpick : t.pick e.query e.draws e.memory with
      | error err =>
        refine .inr ⟨err, rfl, ?_, ?_⟩
        · rintro i ⟨_, _, _, ⟨⟩, -, hok⟩
          cases hpick.symm.trans hok
        · rintro _ _ ⟨⟩ -
          exact hpick
      | ok p => exact .inl ⟨t, form, p.1, p.2, rfl, hform, hpick, rfl⟩

theorem Gets.unique (hi : v.Gets e i) (hj : v.Gets e j) : i = j := by
  obtain ⟨t, _, _, ht, -, hpick⟩ := hi
  obtain ⟨t', _, _, ht', -, hpick'⟩ := hj
  cases ht.symm.trans ht'
  cases hpick.symm.trans hpick'
  rfl

theorem remembers_iff (hq : e.query.Plain) (ht : v.get? e.query.name = some t) :
    v.Remembers e ↔ ∃ i, t.remembered? e.query e.memory = some i := by
  simp only [t.remembered?_eq_some hq]
  constructor
  · rintro ⟨t', ht', id, hid, i, hi⟩
    cases ht.symm.trans ht'
    exact ⟨i, id, hid, hi⟩
  · rintro ⟨i, id, hid, hi⟩
    exact ⟨t, ht, id, hid, i, hi⟩

/-! ## What the memory holds -/

/-- Both queries have the carrier, and they are about the same table. -/
def Shares (kind : CarrierKind) (id : String) (e e' : Event) : Prop :=
  e.query.name = e'.query.name ∧ id ∈ e.query.ids kind ∧ id ∈ e'.query.ids kind

/-- The memory is what the queries have made of the one that the first of them met: the entries that
they were answered with are noted for their carriers, and nothing else has changed. -/
structure Recalls (v : Vocabulary) (m : CarrierMemory) (earlier : List Event)
    (memory : CarrierMemory) : Prop where
  used : ∀ table id i, memory.isUsed table id i = true ↔ m.isUsed table id i = true ∨
    ∃ e ∈ earlier, e.query.name = table ∧ id ∈ e.query.ids .unique ∧ v.Gets e i
  matched : ∀ e ∈ earlier, ∀ id ∈ e.query.ids .same, ∀ i, v.Gets e i →
    memory.matched? e.query.name id = some i
  unmatched : ∀ table id,
    (∀ e ∈ earlier, e.query.name = table → id ∈ e.query.ids .same → ∀ i, ¬ v.Gets e i) →
      memory.matched? table id = m.matched? table id

theorem recalls_nil (v : Vocabulary) (m : CarrierMemory) : v.Recalls m [] m :=
  ⟨fun _ _ _ => by simp, nofun, fun _ _ _ => rfl⟩

namespace Recalls

/-- A query gets the entry that an earlier one with the same `=` carrier got. -/
theorem same (h : v.Recalls m earlier e.memory) (hq : e.query.Plain) (he' : e' ∈ earlier)
    (hshares : Shares .same id e' e) (hi : v.Gets e' i) (hj : v.Gets e j) : i = j := by
  obtain ⟨hname, hid', hid⟩ := hshares
  have hnoted := hname ▸ h.matched e' he' id hid' i hi
  obtain ⟨t, _, _, ht', -, hpick'⟩ := hi
  obtain ⟨t', _, _, ht, -, hpick⟩ := hj
  rw [hname, ht] at ht'
  cases ht'
  -- Tables do not change, so an entry that was there for the earlier query is still there.
  have hold : t.remembered? e.query e.memory = some i :=
    (Table.remembered?_eq_some hq).2 ⟨id, hid, hnoted, Table.pick_lt hpick'⟩
  rcases Table.pick_ok hpick with ⟨hold', -⟩ | ⟨hnone, -⟩
  · cases hold.symm.trans hold'
    rfl
  · cases hold.symm.trans hnone

/-- A query gets no entry that an earlier one with the same `!` carrier got. -/
theorem unique (h : v.Recalls m earlier e.memory) (hq : e.query.Plain) (he' : e' ∈ earlier)
    (hshares : Shares .unique id e' e) (hi : v.Gets e' i) (hj : v.Gets e j) : i ≠ j := by
  obtain ⟨hname, hid', hid⟩ := hshares
  have hused := (h.used _ id i).2 (.inr ⟨e', he', hname, hid', hi⟩)
  obtain ⟨t, _, _, -, -, hpick⟩ := hj
  rcases Table.pick_ok hpick with ⟨hold, -⟩ | ⟨-, hcandidate, -⟩
  · -- A plain query that remembers an entry has no `!` carrier.
    obtain ⟨other, hother, -⟩ := (Table.remembered?_eq_some hq).1 hold
    rcases hq.2 with hnone | hnone
    · rw [hnone] at hother
      cases hother
    · rw [hnone] at hid
      cases hid
  · rintro rfl
    rw [(Table.mem_candidates.1 hcandidate).2 id hid] at hused
    cases hused

/-- Behind a query that fails the memory recalls what it recalled. -/
theorem failed (h : v.Recalls m earlier e.memory) (hgets : ∀ i, ¬ v.Gets e i) :
    v.Recalls m (earlier ++ [e]) e.memory := by
  have hmem {e' : Event} {i : Nat} (he' : e' ∈ earlier ++ [e]) (hi : v.Gets e' i) : e' ∈ earlier := by
    rcases List.mem_append.1 he' with he' | he'
    · exact he'
    · cases List.mem_singleton.1 he'
      exact absurd hi (hgets _)
  refine ⟨fun table id i => (h.used table id i).trans (or_congr_right ?_), ?_, ?_⟩
  · constructor
    · rintro ⟨e', he', hrest⟩
      exact ⟨e', List.mem_append_left _ he', hrest⟩
    · rintro ⟨e', he', hname, hid, hi⟩
      exact ⟨e', hmem he' hi, hname, hid, hi⟩
  · exact fun e' he' id hid i hi => h.matched e' (hmem he' hi) id hid i hi
  · exact fun table id hno => h.unmatched table id fun e' he' => hno e' (List.mem_append_left _ he')

/-- Behind a query that succeeds the memory recalls its entry, too. -/
theorem succeeded (h : v.Recalls m earlier e.memory) (hq : e.query.Plain) (hi : v.Gets e i) :
    v.Recalls m (earlier ++ [e])
      (e.query.carriers.foldl (.note e.query.name i) e.memory) := by
  refine ⟨fun table id j => ?_, fun e' he' id hid j hj => ?_, fun table id hno => ?_⟩
  · rw [CarrierMemory.isUsed_foldl_note, h.used]
    constructor
    · rintro (⟨rfl, hc, rfl⟩ | hold | ⟨e', he', hrest⟩)
      · exact .inr ⟨e, by simp, rfl, Query.mem_ids.2 hc, hi⟩
      · exact .inl hold
      · exact .inr ⟨e', List.mem_append_left _ he', hrest⟩
    · rintro (hold | ⟨e', he', hname, hid, hj⟩)
      · exact .inr (.inl hold)
      · rcases List.mem_append.1 he' with he' | he'
        · exact .inr (.inr ⟨e', he', hname, hid, hj⟩)
        · cases List.mem_singleton.1 he'
          exact .inl ⟨hname.symm, Query.mem_ids.1 hid, hi.unique hj⟩
  · rw [CarrierMemory.matched?_foldl_note]
    rcases List.mem_append.1 he' with he' | he'
    · split
      -- The id is noted again, with the entry that is noted already.
      · next hc => rw [h.same hq he' ⟨hc.1, hid, Query.mem_ids.2 hc.2⟩ hj hi]
      · exact h.matched e' he' id hid j hj
    · cases List.mem_singleton.1 he'
      rw [if_pos ⟨rfl, Query.mem_ids.1 hid⟩, hi.unique hj]
  · rw [CarrierMemory.matched?_foldl_note, if_neg]
    · exact h.unmatched table id fun e' he' => hno e' (List.mem_append_left _ he')
    · rintro ⟨rfl, hc⟩
      exact hno e (by simp) rfl (Query.mem_ids.2 hc) i hi

theorem outcome (h : v.Recalls m earlier e.memory) (hq : e.query.Plain) :
    v.Recalls m (earlier ++ [e]) (v.outcome e).2.2 := by
  rcases v.outcome_cases e with ⟨t, form, i, g, ht, hform, hpick, hout⟩ | ⟨err, hout, hgets, -⟩
  · rw [hout]
    exact h.succeeded hq ⟨t, form, g, ht, hform, hpick⟩
  · rw [hout]
    exact h.failed hgets

end Recalls

/-! ## Laws of carriers -/

/-- Queries asked one after the other, each with the generator and the memory that the one before it
has left. -/
def history (v : Vocabulary) : Generator × CarrierMemory → List Query → List Event
  | _, [] => []
  | s, q :: queries => ⟨q, s.1, s.2⟩ :: v.history (v.outcome ⟨q, s.1, s.2⟩).2 queries

/-- The laws that a query obeys, given the ones asked before it and the memory that the first of them
met. -/
structure Obeys (v : Vocabulary) (m : CarrierMemory) (earlier : List Event) (e : Event) : Prop where
  /-- Step by step the query does what it does at once. -/
  found : v.find e.query e.draws e.memory =
    match v.outcome e with
    | (.ok word, g, m) => .ok (word, g, m)
    | (.error err, _) => .error err
  /-- The word of a query that succeeds is a form of its entry. -/
  word : ∀ text, (v.outcome e).1 = .ok text ↔ ∃ t form i, v.get? e.query.name = some t ∧
    t.form? e.query = .ok form ∧ v.Gets e i ∧ t.word i form = text
  /-- The memory that the query meets is what the queries before it were answered with. -/
  recalls : v.Recalls m earlier e.memory
  same : ∀ e' ∈ earlier, ∀ id i j, Shares .same id e' e → v.Gets e' i → v.Gets e j → i = j
  unique : ∀ e' ∈ earlier, ∀ id i j, Shares .unique id e' e → v.Gets e' i → v.Gets e j → i ≠ j
  admitted : ∀ i, v.Gets e i → ¬ v.Remembers e → ∃ t entry, v.get? e.query.name = some t ∧
    t.entries[i]? = some entry ∧ e.query.Admits entry.classes
  /-- If nothing is remembered, a query for a form that exists fails if no entry is left. -/
  exhausted : ∀ t, v.get? e.query.name = some t →
    (∀ subtype, e.query.subtype = some subtype → subtype ∈ t.subtypes) → ¬ v.Remembers e →
      ((∃ err, (v.outcome e).1 = .error err) ↔
        ∀ i entry, t.entries[i]? = some entry → e.query.Admits entry.classes →
          ∃ id ∈ e.query.ids .unique, e.memory.isUsed e.query.name id i = true) ∧
      ∀ err, (v.outcome e).1 = .error err → err = .noMatch e.query.name
  failed : ∀ err, (v.outcome e).1 = .error err → (v.outcome e).2 = (e.draws, e.memory)
  remembered : ∀ text, (v.outcome e).1 = .ok text → v.Remembers e → (v.outcome e).2.1 = e.draws
  drawn : ∀ text, (v.outcome e).1 = .ok text → ¬ v.Remembers e →
    (v.outcome e).2.1 = e.draws.next.2

theorem found (v : Vocabulary) (e : Event) : v.find e.query e.draws e.memory =
    match v.outcome e with
    | (.ok word, g, m) => .ok (word, g, m)
    | (.error err, _) => .error err := by
  rw [outcome_eq]
  rcases v.find e.query e.draws e.memory with _ | ⟨_, _, _⟩ <;> rfl

theorem outcome_ok_iff (v : Vocabulary) (e : Event) (text : String) :
    (v.outcome e).1 = .ok text ↔ ∃ t form i, v.get? e.query.name = some t ∧
      t.form? e.query = .ok form ∧ v.Gets e i ∧ t.word i form = text := by
  rcases v.outcome_cases e with ⟨t, form, i, g, ht, hform, hpick, hout⟩ | ⟨err, hout, hgets, -⟩
  · rw [hout, Except.ok.injEq]
    have hi : v.Gets e i := ⟨t, form, g, ht, hform, hpick⟩
    constructor
    · exact fun htext => ⟨t, form, i, ht, hform, hi, htext⟩
    · rintro ⟨t', form', j, ht', hform', hj, htext⟩
      cases ht.symm.trans ht'
      cases hform.symm.trans hform'
      rwa [hi.unique hj]
  · rw [hout]
    constructor
    · nofun
    · rintro ⟨_, _, i, -, -, hi, -⟩
      exact absurd hi (hgets i)

/-- An entry that a query gets without remembering it is one of the candidates. -/
theorem Gets.candidate (hi : v.Gets e i) (hq : e.query.Plain) (hno : ¬ v.Remembers e) :
    ∃ t, v.get? e.query.name = some t ∧ i ∈ t.candidates e.query e.memory := by
  obtain ⟨t, form, g, ht, hform, hpick⟩ := hi
  rcases Table.pick_ok hpick with ⟨hold, -⟩ | ⟨-, hcandidate, -⟩
  · exact absurd ((remembers_iff hq ht).2 ⟨i, hold⟩) hno
  · exact ⟨t, ht, hcandidate⟩

theorem exhausted_iff (hq : e.query.Plain) (ht : v.get? e.query.name = some t)
    (hsubtype : ∀ subtype, e.query.subtype = some subtype → subtype ∈ t.subtypes)
    (hno : ¬ v.Remembers e) :
    ((∃ err, (v.outcome e).1 = .error err) ↔ t.candidates e.query e.memory = []) ∧
      ∀ err, (v.outcome e).1 = .error err → err = .noMatch e.query.name := by
  obtain ⟨form, hform⟩ := (t.exists_form_iff e.query).2 hsubtype
  rcases v.outcome_cases e with ⟨t', form', i, g, ht', hform', hpick, hout⟩ | ⟨err, hout, -, hpick⟩
  · rw [hout]
    obtain ⟨t'', ht'', hcandidate⟩ := Gets.candidate ⟨t', form', g, ht', hform', hpick⟩ hq hno
    cases ht.symm.trans ht''
    refine ⟨⟨nofun, fun hnil => ?_⟩, nofun⟩
    rw [hnil] at hcandidate
    cases hcandidate
  · rw [hout]
    obtain ⟨-, hnil, herr⟩ := Table.pick_error (hpick t form ht hform)
    exact ⟨⟨fun _ => hnil, fun _ => ⟨err, rfl⟩⟩, fun err' herr' => by cases herr'; exact herr⟩

theorem draws_outcome (hq : e.query.Plain) {text : String} (hok : (v.outcome e).1 = .ok text) :
    v.Remembers e ∧ (v.outcome e).2.1 = e.draws ∨
      ¬ v.Remembers e ∧ (v.outcome e).2.1 = e.draws.next.2 := by
  rcases v.outcome_cases e with ⟨t, form, i, g, ht, hform, hpick, hout⟩ | ⟨err, hout, -, -⟩
  · rw [hout, remembers_iff hq ht]
    rcases Table.pick_ok hpick with ⟨hold, hdraws⟩ | ⟨hnone, -, hdraws⟩
    · exact .inl ⟨⟨i, hold⟩, hdraws⟩
    · refine .inr ⟨?_, hdraws⟩
      rintro ⟨j, hold⟩
      cases hnone.symm.trans hold
  · rw [hout] at hok
    cases hok

theorem Recalls.obeys (h : v.Recalls m earlier e.memory) (hq : e.query.Plain) :
    v.Obeys m earlier e where
  found := v.found e
  word := v.outcome_ok_iff e
  recalls := h
  same e' he' id i j := h.same hq he'
  unique e' he' id i j := h.unique hq he'
  admitted i hi hno := by
    obtain ⟨t, ht, hcandidate⟩ := hi.candidate hq hno
    obtain ⟨⟨entry, hentry, hadmits⟩, -⟩ := Table.mem_candidates.1 hcandidate
    exact ⟨t, entry, ht, hentry, hadmits⟩
  exhausted t ht hsubtype hno := by
    obtain ⟨hfails, herr⟩ := exhausted_iff hq ht hsubtype hno
    exact ⟨hfails.trans Table.candidates_eq_nil_iff, herr⟩
  failed err herr := by
    rcases v.outcome_cases e with ⟨t, form, i, g, -, -, -, hout⟩ | ⟨err, hout, -, -⟩
    · rw [hout] at herr
      cases herr
    · rw [hout]
  remembered text hok hold := by
    rcases draws_outcome hq hok with ⟨-, hdraws⟩ | ⟨hno, -⟩
    · exact hdraws
    · exact absurd hold hno
  drawn text hok hno := by
    rcases draws_outcome hq hok with ⟨hold, -⟩ | ⟨-, hdraws⟩
    · exact absurd hold hno
    · exact hdraws

/-- By induction on the queries that are still to be asked: `before` holds those that have been. -/
theorem history_recalls (v : Vocabulary) {m : CarrierMemory} {before : List Event}
    {s : Generator × CarrierMemory} (h : v.Recalls m before s.2) (queries : List Query)
    (hq : ∀ q ∈ queries, q.Plain) {earlier later : List Event} {e : Event}
    (hsplit : v.history s queries = earlier ++ e :: later) :
    v.Recalls m (before ++ earlier) e.memory ∧ e.query.Plain := by
  induction queries generalizing s before earlier with
  | nil => cases earlier <;> cases hsplit
  | cons q queries ih =>
    obtain ⟨hplain, hrest⟩ := List.forall_mem_cons.1 hq
    rw [history] at hsplit
    cases earlier with
    | nil =>
      obtain ⟨rfl, -⟩ := List.cons.inj hsplit
      rw [List.append_nil]
      exact ⟨h, hplain⟩
    | cons first earlier =>
      obtain ⟨rfl, htail⟩ := List.cons.inj hsplit
      have hnext : v.Recalls m (before ++ [⟨q, s.1, s.2⟩]) (v.outcome ⟨q, s.1, s.2⟩).2.2 :=
        Recalls.outcome h hplain
      rw [List.append_cons]
      exact ih hnext hrest htail

/-- Whatever a vocabulary is asked, each query obeys the laws of carriers, given all queries that were
asked before it. -/
theorem history_obeys (v : Vocabulary) (g : Generator) (m : CarrierMemory) (queries : List Query)
    (hq : ∀ q ∈ queries, q.Plain) (earlier later : List Event) (e : Event)
    (hsplit : v.history (g, m) queries = earlier ++ e :: later) : v.Obeys m earlier e := by
  obtain ⟨hrecalls, hplain⟩ := v.history_recalls (v.recalls_nil m) queries hq hsplit
  exact hrecalls.obeys hplain

/-- The only pet has been had when one is asked for again. -/
theorem history_obeys_pet :
    let v : Vocabulary := ⟨[("noun", ⟨["singular", "plural"],
      #[⟨["cat", "cats"], ["animal", "pet"]⟩, ⟨["wolf", "wolves"], ["animal"]⟩]⟩)]⟩
    let tied : Query := ⟨"noun", some "plural", [[⟨"pet", true⟩]], false, [⟨.same, "x"⟩]⟩
    let pet : Query := ⟨"noun", none, [[⟨"pet", false⟩]], false, [⟨.unique, "u"⟩]⟩
    let g := Generator.ofSeed 4
    let first : Event := ⟨tied, g, .empty⟩
    let second : Event := ⟨pet, g.next.2, ⟨[(("noun", "x"), 1)], []⟩⟩
    let third : Event := ⟨pet, g.next.2.next.2, ⟨[(("noun", "x"), 1)], [(("noun", "u"), 0)]⟩⟩
    (∀ q ∈ [tied, pet, pet], q.Plain) ∧
      v.history (g, .empty) [tied, pet, pet] = [first, second] ++ third :: [] ∧
      (v.outcome third).1 = .error (.noMatch "noun") ∧ v.Obeys .empty [first, second] third := by
  intro v tied pet g first second third
  have hq : ∀ q ∈ [tied, pet, pet], q.Plain := by decide
  have hsplit : v.history (g, .empty) [tied, pet, pet] = [first, second] ++ third :: [] := by
    decide +kernel
  have hfails : (v.outcome third).1 = .error (.noMatch "noun") := by decide +kernel
  exact ⟨hq, hsplit, hfails, v.history_obeys g .empty _ hq _ _ _ hsplit⟩

end Vocabulary

end Wordsmith
