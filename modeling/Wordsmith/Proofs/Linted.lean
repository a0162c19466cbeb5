import Wordsmith.Lint
import Wordsmith.Proofs.Likeness.Runs
import Wordsmith.Proofs.Passages

/-!
# Patterns without findings

The check of a pattern goes through it as a reader would, into every passage, whether it is ever run
or not. If it finds nothing, and if no code is made by the pattern, then all code that a run of the
pattern can come to has been checked: what stands in a construct is checked with it, and the item of
a block is, without its weight, what the check has left behind the weight. So nothing of what the
check looks for can go wrong in the run.

Main result: `Engine.linted_run`.
-/

namespace Wordsmith

/-! ## Clean code -/

/-- Square brackets stand in what a reader has left, at any depth. -/
inductive Reader.Holds : Reader → Bracket → Prop
  | here {r r₁ r₂ : Reader} {t : Token} {b : Bracket} (hread : r.read? = some (t, r₁))
    (ht : t.kind = .leftSquare) (hb : Bracket.read Bracket.readCall r₁ = (.ok b, r₂)) : Holds r b
  | within {r r₁ r₂ : Reader} {t : Token} {found : List Diagnostic} {ps : List Passage}
    {p : Passage} {b : Bracket} (hread : r.read? = some (t, r₁))
    (hconstruct : Lint.readConstruct t r₁ = (.ok (found, ps), r₂)) (hp : p ∈ ps)
    (h : Holds (.ofPassage p) b) : Holds r b
  | behind {r r₁ r₂ : Reader} {t : Token} {found : List Diagnostic} {ps : List Passage}
    {b : Bracket} (hread : r.read? = some (t, r₁))
    (hconstruct : Lint.readConstruct t r₁ = (.ok (found, ps), r₂)) (h : Holds r₂ b) : Holds r b

/-- In what a reader has left, and in all passages in it, there is nothing to be found, and nothing
that makes code. -/
inductive Reader.Clean : Reader → Prop
  | done {r : Reader} (hread : r.read? = none) : Clean r
  | construct {r r₁ r₂ : Reader} {t : Token} {ps : List Passage} (hread : r.read? = some (t, r₁))
    (hconstruct : Lint.readConstruct t r₁ = (.ok ([], ps), r₂))
    (hbracket : t.kind = .leftSquare → ∀ b r₂, Bracket.read Bracket.readCall r₁ = (.ok b, r₂) →
      ¬b.MakesCode)
    (hps : ∀ p ∈ ps, Clean (.ofPassage p)) (hrest : Clean r₂) : Clean r

/-- The first reader comes to the second construct by construct. -/
inductive Reader.LeadsTo : Reader → Reader → Prop
  | refl (r : Reader) : LeadsTo r r
  | behind {r r₁ r₂ r' : Reader} {t : Token} {found : List Diagnostic} {ps : List Passage}
    (hread : r.read? = some (t, r₁))
    (hconstruct : Lint.readConstruct t r₁ = (.ok (found, ps), r₂)) (h : LeadsTo r₂ r') :
    LeadsTo r r'

namespace Lint

/-! ## The check -/

/-- Checks passages one after the other. -/
def checkAll (ps : List Passage) : Check Unit := ps.forM fun p => check (.ofPassage p)

theorem checkAll_cons (p : Passage) (ps : List Passage) :
    checkAll (p :: ps) = check (.ofPassage p) >>= fun _ => checkAll ps := rfl

theorem check_eq {r r₁ r₂ : Reader} {t : Token} {diagnostics : List Diagnostic}
    {ps : List Passage} (hread : r.read? = some (t, r₁))
    (hconstruct : readConstruct t r₁ = (.ok (diagnostics, ps), r₂)) :
    check r = (modify (· ++ diagnostics) : Check Unit) >>= fun _ =>
      checkAll ps >>= fun _ => check r₂ := by
  have hall : (ps.attach.forM fun p => check (.ofPassage p.1)) = checkAll ps := by
    rw [checkAll]
    conv => rhs; rw [← List.attach_map_subtype_val ps]
    rw [List.forM_eq_forM, List.forM_eq_forM, List.forM_map]
  rw [check]
  split
  · next h => cases hread.symm.trans h
  · next h =>
    cases hread.symm.trans h
    split
    · next h => cases hconstruct.symm.trans h
    · next h =>
      cases hconstruct.symm.trans h
      rw [← hall]

theorem check_of_error {r r₁ r₂ : Reader} {t : Token} {e : ScopeError}
    (hread : r.read? = some (t, r₁)) (hconstruct : readConstruct t r₁ = (.error e, r₂)) :
    check r = throw e := by
  rw [check]
  split
  · next h => cases hread.symm.trans h
  · next h =>
    cases hread.symm.trans h
    split
    · next h =>
      cases hconstruct.symm.trans h
      rfl
    · next h => cases hconstruct.symm.trans h

theorem check_done {r : Reader} (hread : r.read? = none) : check r = pure () := by
  rw [check]
  split
  · rfl
  · next h => cases hread.symm.trans h

/-- A check takes no finding back, and what it finds in addition fulfils a condition. -/
def Adds {α : Type} (P : Diagnostic → Prop) (c : Check α) : Prop :=
  ∀ found x found', c found = (x, found') → ∃ more, found' = found ++ more ∧ ∀ d ∈ more, P d

variable {P : Diagnostic → Prop}

theorem Adds.length_le {α : Type} {c : Check α} (hc : Adds P c) {x : Except ScopeError α}
    {found found' : List Diagnostic} (h : c found = (x, found')) :
    found.length ≤ found'.length := by
  obtain ⟨more, rfl, -⟩ := hc _ _ _ h
  exact List.length_append ▸ Nat.le_add_right ..

theorem Adds.bind {α β : Type} {a : Check α} {f : α → Check β} (ha : Adds P a)
    (hf : ∀ x, Adds P (f x)) : Adds P (a >>= f) := by
  intro found y found' h
  rcases hfirst : a found with ⟨e | x, found₁⟩
  · rw [bind_of_error hfirst] at h
    cases h
    exact ha _ _ _ hfirst
  · rw [bind_of_ok hfirst] at h
    obtain ⟨more₁, rfl, h₁⟩ := ha _ _ _ hfirst
    obtain ⟨more₂, rfl, h₂⟩ := hf _ _ _ _ h
    exact ⟨more₁ ++ more₂, List.append_assoc .., List.forall_mem_append.2 ⟨h₁, h₂⟩⟩

theorem Adds.pure {α : Type} (x : α) : Adds P (Pure.pure x : Check α) := by
  intro found _ _ h
  cases h
  exact ⟨[], (List.append_nil found).symm, List.forall_mem_nil P⟩

theorem Adds.throw {α : Type} (e : ScopeError) : Adds P (MonadExcept.throw e : Check α) := by
  intro found _ _ h
  cases h
  exact ⟨[], (List.append_nil found).symm, List.forall_mem_nil P⟩

theorem Adds.modify {found : List Diagnostic} (hfound : ∀ d ∈ found, P d) :
    Adds P (modify (· ++ found) : Check Unit) := by
  intro _ _ _ h
  cases h
  exact ⟨found, rfl, hfound⟩

theorem adds_checkAll {ps : List Passage} (h : ∀ p ∈ ps, Adds P (check (.ofPassage p))) :
    Adds P (checkAll ps) := by
  induction ps with
  | nil => exact .pure ()
  | cons p ps ih =>
    obtain ⟨hp, hps⟩ := List.forall_mem_cons.1 h
    exact hp.bind fun _ => ih hps

/-- The passages and the reader that a construct leaves have fewer tokens. -/
theorem remaining_lt {r r₁ r₂ : Reader} {t : Token} {found : List Diagnostic} {ps : List Passage}
    (hread : r.read? = some (t, r₁)) (hconstruct : readConstruct t r₁ = (.ok (found, ps), r₂)) :
    (∀ p ∈ ps, (Reader.ofPassage p).remaining < r.remaining) ∧ r₂.remaining < r.remaining := by
  have hlt := Reader.read?_remaining_lt hread
  have hle := (yields_readConstruct t).from_reader r₁ r₂ _ (Nat.le_refl _) hconstruct
  exact ⟨fun p hp => Nat.lt_of_le_of_lt (hle.2 p hp) hlt, Nat.lt_of_le_of_lt hle.1 hlt⟩

/-- What the check finds is what it finds in constructs. -/
theorem adds_check (hP : ∀ {t r found ps r'}, readConstruct t r = (.ok (found, ps), r') →
    ∀ d ∈ found, P d) (r : Reader) : Adds P (check r) := by
  induction hk : r.remaining using Nat.strongRecOn generalizing r with
  | ind k ih =>
    subst hk
    rcases hread : r.read? with _ | ⟨t, r₁⟩
    · rw [check_done hread]
      exact .pure ()
    · rcases hconstruct : readConstruct t r₁ with ⟨e | ⟨found, ps⟩, r₂⟩
      · rw [check_of_error hread hconstruct]
        exact .throw e
      · obtain ⟨hps, hrest⟩ := remaining_lt hread hconstruct
        rw [check_eq hread hconstruct]
        exact (Adds.modify (hP hconstruct)).bind fun _ =>
          (adds_checkAll fun p hp => ih _ (hps p hp) _ rfl).bind fun _ => ih _ hrest _ rfl

theorem adds_any (r : Reader) : Adds (fun _ => True) (check r) :=
  adds_check (fun _ _ _ => trivial) r

/-- Passages that are checked without a finding are each checked without one. -/
theorem forall_of_checkAll {P : Passage → Prop} {ps : List Passage}
    (h : ∀ p ∈ ps, ∀ found found', check (.ofPassage p) found = (.ok (), found') →
      found'.length ≤ found.length → P p) {found found' : List Diagnostic}
    (hall : checkAll ps found = (.ok (), found')) (hlength : found'.length ≤ found.length) :
    ∀ p ∈ ps, P p := by
  induction ps generalizing found with
  | nil => exact nofun
  | cons p ps ih =>
    obtain ⟨hp, hps⟩ := List.forall_mem_cons.1 h
    obtain ⟨_, found₁, h₁, h₂⟩ := bind_eq_ok (checkAll_cons p ps ▸ hall)
    have hle₁ := (adds_any _).length_le h₁
    have hle₂ := (adds_checkAll fun p _ => adds_any (.ofPassage p)).length_le h₂
    exact List.forall_mem_cons.2 ⟨hp _ _ h₁ (by omega), ih hps h₂ (by omega)⟩

/-- Where the check finds nothing and nothing makes code, the code is clean. -/
theorem clean_of_check {r : Reader} (hmakes : ∀ b, r.Holds b → ¬b.MakesCode)
    {found found' : List Diagnostic} (h : check r found = (.ok (), found'))
    (hlength : found'.length ≤ found.length) : r.Clean := by
  induction hk : r.remaining using Nat.strongRecOn generalizing r found found' with
  | ind k ih =>
    subst hk
    rcases hread : r.read? with _ | ⟨t, r₁⟩
    · exact .done hread
    · rcases hconstruct : readConstruct t r₁ with ⟨e | ⟨diagnostics, ps⟩, r₂⟩
      · rw [check_of_error hread hconstruct] at h
        cases h
      · obtain ⟨hps, hrest⟩ := remaining_lt hread hconstruct
        rw [check_eq hread hconstruct] at h
        obtain ⟨_, found₁, h₁, h⟩ := bind_eq_ok h
        obtain ⟨_, found₂, h₂, h₃⟩ := bind_eq_ok h
        obtain rfl : found ++ diagnostics = found₁ := by cases h₁; rfl
        have hle₂ := (adds_checkAll fun p _ => adds_any (.ofPassage p)).length_le h₂
        have hle₃ := (adds_any _).length_le h₃
        rw [List.length_append] at hle₂
        obtain rfl : diagnostics = [] := List.length_eq_zero_iff.1 (by omega)
        rw [List.append_nil] at h₂
        refine .construct hread hconstruct (fun ht b _ hb => hmakes b (.here hread ht hb)) ?_ ?_
        · exact forall_of_checkAll (fun p hp _ _ hcheck hle => ih _ (hps p hp)
            (fun b hb => hmakes b (.within hread hconstruct hp hb)) hcheck hle rfl) h₂ (by omega)
        · exact ih _ hrest (fun b hb => hmakes b (.behind hread hconstruct hb)) h₃ (by omega) rfl

/-- A pattern without findings that makes no code is clean. -/
theorem clean_of_diagnose {p : Pattern} (h : diagnose p = [])
    (hmakes : ∀ b, (Reader.ofPassage p.passage).Holds b → ¬b.MakesCode) :
    (Reader.ofPassage p.passage).Clean := by
  unfold diagnose at h
  split at h
  · next found hcheck =>
    subst h
    exact clean_of_check hmakes hcheck (Nat.le_refl _)
  · simp at h

/-! ## What is clean stays clean -/

/-- Readers that are alike find the same in a construct. -/
theorem agrees_readConstruct (t : Token) :
    Scan.Agrees (fun x y => x.1 = y.1 ∧ Scan.AllAlike x.2 y.2) (readConstruct t)
      (readConstruct t) := by
  unfold readConstruct
  split
  · exact Block.agrees_readItems.bind fun _ _ h => .pure ⟨rfl, h⟩
  · exact Scan.agrees_expression.bind fun _ _ h => .pure ⟨rfl, .cons h.2 .nil⟩
  · refine Scan.agrees_query.bind fun p q h => .pure ⟨?_, .nil⟩
    rw [ofQuery, ofQuery, h.text]
  · refine (Bracket.agrees_read Bracket.agrees_readCall).bind fun b b' h => .pure ⟨?_, h.passages⟩
    cases h with
    | definition _ _ _ h | metapattern h => simp only [ofBracket, ofBody, h.isEmpty]
    | call => rfl
    | replacer _ h => simp only [ofBracket, ofReplacer, h.length_eq]
    | tag _ h => simp only [ofBracket, ofTag, h.length_eq]
  iterate 4 exact .throw _
  · exact .pure ⟨rfl, .nil⟩

end Lint

/-- Brackets that are alike make code or do not. -/
theorem Bracket.Alike.makesCode {b b' : Bracket} (h : b.Alike b') (hb : b.MakesCode) :
    b'.MakesCode := by
  cases h with
  | definition => exact hb
  | metapattern => trivial
  | call | replacer | tag => exact hb.elim

namespace Reader.Clean

variable {r r' r₁ : Reader} {t : Token}

theorem alike (h : r.Clean) (hr : r.Alike r') : r'.Clean := by
  induction h generalizing r' with
  | done hread =>
    have hread' := hr.read?
    rw [hread] at hread'
    rcases hx : r'.read? with _ | x
    · exact .done hx
    · rw [hx] at hread'
      cases hread'
  | @construct r r₁ r₂ t ps hread hconstruct hbracket _ _ ihps ihrest =>
    obtain ⟨r₁', hread', hr₁⟩ := hr.exists_read? hread
    obtain ⟨found, r₂', hconstruct', hfound, hr₂⟩ :=
      (Lint.agrees_readConstruct t).exists_ok hr₁ hconstruct
    obtain ⟨found, ps'⟩ := found
    obtain ⟨rfl, hps⟩ : [] = found ∧ Scan.AllAlike ps ps' := hfound
    refine .construct hread' hconstruct' (fun ht b' r₃ hb' hmakes => ?_) ?_ (ihrest hr₂)
    · obtain ⟨b, _, hb, halike, -⟩ :=
        (Bracket.agrees_read Bracket.agrees_readCall).exists_ok hr₁.symm hb'
      exact hbracket ht _ _ hb (halike.makesCode hmakes)
    · intro q hq
      obtain ⟨p, hp, hpq⟩ := hps.exists_left hq
      exact ihps p hp (.ofPassage hpq)

/-- What a construct at the next token leaves is clean. -/
theorem exists_construct (h : r.Clean) (hread : r.read? = some (t, r₁)) : ∃ ps r₂,
    Lint.readConstruct t r₁ = (.ok ([], ps), r₂) ∧ (t.kind = .leftSquare →
      ∀ b r₂, Bracket.read Bracket.readCall r₁ = (.ok b, r₂) → ¬b.MakesCode) ∧
      (∀ p ∈ ps, (Reader.ofPassage p).Clean) ∧ r₂.Clean := by
  cases h with
  | done hnone => cases hread.symm.trans hnone
  | construct hread' hconstruct hbracket hps hrest =>
    cases hread.symm.trans hread'
    exact ⟨_, _, hconstruct, hbracket, hps, hrest⟩

/-- What stands behind clean code is clean. -/
theorem of_leadsTo (h : r.Clean) (hlead : r.LeadsTo r') : r'.Clean := by
  induction hlead with
  | refl => exact h
  | behind hread hconstruct _ ih =>
    obtain ⟨ps, r₂, hconstruct', -, -, hclean⟩ := h.exists_construct hread
    cases hconstruct.symm.trans hconstruct'
    exact ih hclean

end Reader.Clean

/-- Blanks are constructs of their own. -/
theorem Reader.leadsTo_blanks {r : Reader} (hstart : r.passage.start ≤ r.index)
    {lead more : List Token} (hrest : r.rest = lead ++ more)
    (hlead : ∀ t ∈ lead, Passage.isSpace t = true) :
    r.LeadsTo { r with index := r.index + lead.length } := by
  induction lead generalizing r with
  | nil => exact .refl r
  | cons t lead ih =>
    obtain ⟨hread, hnext⟩ := Reader.read?_of_rest hstart hrest
    obtain ⟨ht, hlead⟩ := List.forall_mem_cons.1 hlead
    have hkind : t.kind = .whitespace := by simpa [Passage.isSpace] using ht
    have hplain : Lint.readConstruct t r.next = (.ok ([], []), r.next) := by
      simp only [Lint.readConstruct, hkind]
      rfl
    have hbehind := ih (Nat.le_succ_of_le hstart) hnext hlead
    refine .behind hread hplain ?_
    simpa only [Reader.next, List.length_cons, Nat.add_assoc, Nat.add_comm 1] using hbehind

namespace BlockItem

/-- A number in parentheses is read as an expression of one token. -/
theorem expression_number {r : Reader} {number closer : Token} {l : List Token}
    (hstart : r.passage.start ≤ r.index) (hrest : r.rest = number :: closer :: l)
    (hnumber : number.kind = .text) (hcloser : closer.kind = .rightParen) :
    ∃ e, Scan.expression r = (.ok e, { r with index := r.index + 2 }) := by
  obtain ⟨hread, -⟩ := Reader.read?_of_rest hstart hrest
  have hpeek : r.peek? = some number := by
    obtain ⟨_, hpeek, heq⟩ := Option.map_eq_some_iff.1 hread
    cases heq
    exact hpeek
  have htake : r.take? .at = none := by simp [Reader.take?, Reader.peekKind?, hpeek, hnumber]
  have hcut : ∀ start, Scope.cut ⟨.leftParen, .rightParen, .all⟩ none start [] r.index r.rest =
      ⟨.ok .closed, r.index + 1⟩ := by
    intro start
    simp [hrest, Scope.cut, Scope.feed, Scope.opens, Scope.closes, BracketTable.opens,
      BracketTable.closes, BracketTable.pairs, hnumber, hcloser]
  refine ⟨(false, (r.passage.range r.index (r.index + 1)).trim), ?_⟩
  simp only [Scan.expression, Scan.take, Scan.body, Bind.bind, ExceptT.bind, ExceptT.mk,
    ExceptT.bindCont, StateT.bind, htake, hcut]
  rfl

/-- A reader comes to what stands behind a number in parentheses. -/
theorem leadsTo_behind {p : Passage} (hfits : p.Fits) (htrim : p.IsTrimmed)
    {opener number closer : Token} {others : List Token}
    (htokens : p.tokens = opener :: number :: closer :: others) (hopener : opener.kind = .leftParen)
    (hnumber : number.kind = .text) (hcloser : closer.kind = .rightParen) :
    ∃ r', (Reader.ofPassage p).LeadsTo r' ∧
      r'.Alike (.ofPassage (p.range (p.start + 3) p.stop).trim) := by
  have hstart : p.start ≤ p.start := Nat.le_refl _
  have hsplit : p.tokens = [opener, number, closer] ++ others := htokens
  obtain ⟨hrange, hbehind, hothers⟩ := Passage.range_behind (n := 3) hfits hsplit rfl
  obtain ⟨hread, hrest⟩ :=
    Reader.read?_of_rest (r := .ofPassage p) hstart ((Reader.rest_ofPassage p).trans htokens)
  obtain ⟨e, he⟩ := expression_number (Nat.le_succ_of_le hstart) hrest hnumber hcloser
  have hconstruct : Lint.readConstruct opener (Reader.ofPassage p).next =
      (.ok ([], [e.2]), ⟨p, p.start + 3⟩) := by
    simp only [Lint.readConstruct, hopener, Bind.bind, ExceptT.bind, ExceptT.mk, ExceptT.bindCont,
      StateT.bind, he]
    rfl
  obtain ⟨lead, trail, hparts, hlead, htrail, heq, -⟩ := Passage.trim_tokens hbehind
  obtain rfl : trail = [] := by
    -- The blanks at the end would be at the end of the whole passage.
    by_contra hne
    have hlast : trail.getLast hne ∈ p.tokens.getLast? := by
      rw [htokens, ← hothers, hparts]
      simp [List.getLast?_cons, List.getLast?_append, List.getLast?_eq_some_getLast hne]
    exact Bool.noConfusion ((htrim.last _ hlast).symm.trans (htrail _ (List.getLast_mem hne)))
  have hbegin : p.start ≤ p.start + 3 := Nat.le_add_right _ _
  have hleft : Reader.rest ⟨p, p.start + 3⟩ = lead ++ Passage.tokens _ :=
    (Reader.rest_eq hbegin).trans (hparts.trans (List.append_nil _))
  refine ⟨_, .behind hread hconstruct (Reader.leadsTo_blanks hbegin hleft hlead), ?_⟩
  rw [hrange, heq]
  exact ⟨rfl, rfl, rfl, Nat.le_trans hbegin (Nat.le_add_right _ _), Nat.le_refl _⟩

/-- A reader of an item of a block comes to its code, with or without a weight. -/
theorem leadsTo_code {p : Passage} (hfits : p.Fits) (htrim : p.IsTrimmed) :
    ∃ r', (Reader.ofPassage p).LeadsTo r' ∧ r'.Alike (.ofPassage (ofPassage p).code) := by
  have hwhole : ∃ r', (Reader.ofPassage p).LeadsTo r' ∧ r'.Alike (.ofPassage p) :=
    ⟨_, .refl _, .refl (Nat.le_refl _)⟩
  unfold ofPassage
  split
  · next opener number closer others htokens =>
    split
    · next hkinds =>
      obtain ⟨hopener, hnumber, hcloser⟩ := hkinds
      split
      · exact leadsTo_behind hfits htrim htokens hopener hnumber hcloser
      · exact hwhole
    · exact hwhole
  · exact hwhole

end BlockItem

/-- The readers of the passages of a block come to the code of its items. -/
theorem Block.leadsTo_code {r r₁ : Reader} {ps : List Passage}
    (hstart : r.passage.start ≤ r.index) (hitems : readItems r = (.ok ps, r₁)) : ∀ p ∈ ps,
      ∃ r', (Reader.ofPassage p).LeadsTo r' ∧ r'.Alike (.ofPassage (BlockItem.ofPassage p).code) := by
  intro p hp
  obtain ⟨q, hfits, rfl⟩ := (finds_readItems hitems).exists_trim hstart p hp
  obtain ⟨_, _, -, -, -, -, hfits', htrimmed⟩ := Passage.trim_tokens hfits
  exact BlockItem.leadsTo_code hfits' htrimmed

/-! ## The standard -/

namespace Bracket

variable {r r' : Reader}

theorem expect_of_take? {kind : TokenKind} (h : r.take? kind = some r') (expected : String) :
    ∃ t, Scan.expect kind expected r = (.ok t, r') := by
  unfold Reader.take? at h
  split at h
  · next hkind =>
    cases h
    obtain ⟨t, hpeek, ht⟩ := Option.map_eq_some_iff.1 hkind
    exact ⟨t, by simp [Scan.expect, hpeek, ht]⟩
  · cases h

theorem take_of_expect {kind : TokenKind} {expected : String} {t : Token}
    (h : Scan.expect kind expected r = (.ok t, r')) : Scan.take kind r = (.ok true, r') := by
  unfold Scan.expect at h
  split at h
  · cases h
  · next t hpeek =>
    split at h
    · next hkind =>
      cases h
      simp [Scan.take, Reader.take?, Reader.peekKind?, hpeek, hkind]
    · cases h

theorem readReplacement_of_readCall {arguments : List Passage}
    (h : readCall r = (.ok arguments, r')) (hne : arguments ≠ []) :
    readReplacement r = (.ok arguments, r') := by
  obtain ⟨_, r₁, hspace, h⟩ := bind_eq_ok h
  obtain ⟨colon, r₂, htake, h⟩ := bind_eq_ok h
  unfold Scan.take at htake
  split at htake
  · next htaken =>
    cases htake
    obtain ⟨t, hexpect⟩ := expect_of_take? htaken "':' after a regex"
    rw [readReplacement, bind_of_ok hspace, bind_of_ok hexpect]
    exact h
  · cases htake
    obtain ⟨_, r₃, -, h⟩ := bind_eq_ok h
    cases h
    exact absurd rfl hne

theorem readCall_of_readReplacement {arguments : List Passage}
    (h : readReplacement r = (.ok arguments, r')) : readCall r = (.ok arguments, r') := by
  obtain ⟨_, r₁, hspace, h⟩ := bind_eq_ok h
  obtain ⟨t, r₂, hexpect, h⟩ := bind_eq_ok h
  have htake := take_of_expect hexpect
  rw [readCall, bind_of_ok hspace, bind_of_ok htake]
  exact h

/-- What stands behind a regular expression alone tells how square brackets are read. -/
theorem read_congr {readReplaced readReplaced' : Scan (List Passage)} {b : Bracket}
    (h : read readReplaced r = (.ok b, r'))
    (hreplaced : ∀ literal arguments, b = .replacer literal arguments → ∀ r₁,
      readReplaced r₁ = (.ok arguments, r') → readReplaced' r₁ = (.ok arguments, r')) :
    read readReplaced' r = (.ok b, r') := by
  obtain ⟨_, r₁, hspace, h⟩ := bind_eq_ok h
  obtain ⟨dollar, r₂, hdollar, h⟩ := bind_eq_ok h
  rw [read, bind_of_ok hspace, bind_of_ok hdollar]
  cases dollar with
  | true => exact h
  | false =>
    obtain ⟨question, r₃, hquestion, h⟩ := bind_eq_ok h
    refine (bind_of_ok hquestion _).trans ?_
    cases question with
    | true => exact h
    | false =>
      obtain ⟨kind, r₄, hkind, h⟩ := bind_eq_ok h
      refine (bind_of_ok hkind _).trans ?_
      split at h
      · next hregex =>
        rw [if_pos hregex]
        obtain ⟨literal, r₅, hliteral, h⟩ := bind_eq_ok h
        obtain ⟨arguments, r₆, harguments, h⟩ := bind_eq_ok h
        cases h
        refine (bind_of_ok hliteral _).trans (bind_of_ok ?_ _)
        exact hreplaced _ _ rfl _ harguments
      · next hregex =>
        rw [if_neg hregex]
        exact h

/-- A replacer with arguments is read in the check as it is in a run, and so is anything else. -/
theorem read_readReplacement {b : Bracket} (h : read readCall r = (.ok b, r'))
    (hne : ∀ literal arguments, b = .replacer literal arguments → arguments ≠ []) :
    read readReplacement r = (.ok b, r') :=
  read_congr h fun _ _ hb _ harguments => readReplacement_of_readCall harguments (hne _ _ hb)

/-- What a run reads is read in the check as well. -/
theorem read_readCall {b : Bracket} (h : read readReplacement r = (.ok b, r')) :
    read readCall r = (.ok b, r') :=
  read_congr h fun _ _ _ _ => readCall_of_readReplacement

end Bracket

namespace Lint

variable {r r' : Reader} {t : Token} {found : List Diagnostic} {ps : List Passage}

theorem readConstruct_curly (ht : t.kind = .leftCurly)
    (h : readConstruct t r = (.ok (found, ps), r')) : Block.readItems r = (.ok ps, r') := by
  simp only [readConstruct, ht] at h
  obtain ⟨_, _, hitems, h⟩ := bind_eq_ok h
  cases h
  exact hitems

theorem readConstruct_paren (ht : t.kind = .leftParen)
    (h : readConstruct t r = (.ok (found, ps), r')) :
    ∃ e, Scan.expression r = (.ok e, r') ∧ ps = [e.2] := by
  simp only [readConstruct, ht] at h
  obtain ⟨e, _, he, h⟩ := bind_eq_ok h
  cases h
  exact ⟨e, he, rfl⟩

theorem readConstruct_angle (ht : t.kind = .leftAngle)
    (h : readConstruct t r = (.ok (found, ps), r')) :
    ∃ p, Scan.query r = (.ok p, r') ∧ found = placed t.position (ofQuery p) := by
  simp only [readConstruct, ht] at h
  obtain ⟨p, _, hp, h⟩ := bind_eq_ok h
  obtain ⟨hok, rfl⟩ := Prod.mk.inj h
  obtain ⟨rfl, rfl⟩ := Prod.mk.inj (Except.ok.inj hok)
  exact ⟨p, hp, rfl⟩

theorem readConstruct_square (ht : t.kind = .leftSquare)
    (h : readConstruct t r = (.ok (found, ps), r')) :
    ∃ b, Bracket.read Bracket.readCall r = (.ok b, r') ∧ found = ofBracket t.position b ∧
      ps = b.passages := by
  simp only [readConstruct, ht] at h
  obtain ⟨b, _, hb, h⟩ := bind_eq_ok h
  cases h
  exact ⟨b, hb, rfl, rfl⟩

theorem readConstruct_plain (ht : t.kind ∉ [.leftCurly, .leftSquare, .leftParen, .leftAngle])
    (ht' : t.kind ∉ [.rightCurly, .rightSquare, .rightParen, .rightAngle]) (r : Reader) :
    readConstruct t r = (.ok ([], []), r) := by
  simp only [List.mem_cons, List.not_mem_nil, or_false, not_or] at ht ht'
  obtain ⟨hcurly, hsquare, hparen, hangle⟩ := ht
  obtain ⟨hcurly', hsquare', hparen', hangle'⟩ := ht'
  cases hkind : t.kind <;> simp only [readConstruct, hkind] <;> first | contradiction | rfl

theorem not_closer (ht : t.kind ∈ [.rightCurly, .rightSquare, .rightParen, .rightAngle])
    (h : readConstruct t r = (.ok (found, ps), r')) : False := by
  simp only [List.mem_cons, List.not_mem_nil, or_false] at ht
  rcases ht with ht | ht | ht | ht <;> simp only [readConstruct, ht] at h <;> cases h

/-- Square brackets in which nothing is found are sound. -/
theorem isSound_of_ofBracket {p : Position} {b : Bracket} (h : ofBracket p b = []) :
    b.IsSound := by
  cases b with
  | definition | call | metapattern => trivial
  | replacer literal arguments =>
    replace h : ofReplacer literal arguments = [] := List.map_eq_nil_iff.1 h
    unfold ofReplacer at h
    split at h
    · cases h
    · next regex hregex =>
      split at h
      · next hlength => exact ⟨⟨regex, hregex⟩, hlength⟩
      · cases h
  | tag name arguments =>
    replace h : ofTag name arguments = [] := List.map_eq_nil_iff.1 h
    unfold ofTag at h
    split at h
    · cases h
    · next entry hfind =>
      split at h
      · next hsome =>
        obtain ⟨signature, hsignature⟩ := Option.isSome_iff_exists.1 hsome
        exact ⟨entry, signature, hfind, hsignature⟩
      · cases h

end Lint

/-- Code in which the check finds nothing and that makes no code, as a standard. It is not lax: all
of it can be read. -/
def Standard.clean : Standard where
  reader r := r.passage.start ≤ r.index ∧ r.Clean
  fails _ := False
  isLax := False
  makesCode := False
  lax_of_fails := id
  lax_of_makesCode := id
  alike h hr := ⟨hr.start_le', h.2.alike hr⟩
  compiled := False.elim
  block {r t r₁} h hread ht := by
    obtain ⟨ps, r₂, hconstruct, -, hps, hrest⟩ := h.2.exists_construct hread
    have hitems := Lint.readConstruct_curly ht hconstruct
    have hstart := Reader.start_le_of_read? h.1 hread
    rw [Scan.Passes, hitems]
    refine ⟨fun p hp => ⟨Nat.le_refl _, ?_⟩, Block.agrees_readItems.start_le hitems hstart, hrest⟩
    obtain ⟨r', hlead, halike⟩ := Block.leadsTo_code hstart hitems p hp
    exact ((hps p hp).of_leadsTo hlead).alike halike
  bracket {r t r₁} h hread ht := by
    obtain ⟨ps, r₂, hconstruct, hmakes, hps, hrest⟩ := h.2.exists_construct hread
    obtain ⟨b, hb, hfound, rfl⟩ := Lint.readConstruct_square ht hconstruct
    have hstart := Reader.start_le_of_read? h.1 hread
    have hsound := Lint.isSound_of_ofBracket hfound.symm
    have hread' : Bracket.read Bracket.readReplacement r₁ = (.ok b, r₂) := by
      refine Bracket.read_readReplacement hb ?_
      rintro literal arguments rfl rfl
      exact nomatch hsound.2
    rw [Scan.Passes, hread']
    exact ⟨.inr hsound, .inr (hmakes ht b r₂ hb), fun p hp => ⟨Nat.le_refl _, hps p hp⟩,
      (Bracket.agrees_read Bracket.agrees_readCall).start_le hb hstart, hrest⟩
  expression {r t r₁} h hread ht := by
    obtain ⟨ps, r₂, hconstruct, -, hps, hrest⟩ := h.2.exists_construct hread
    obtain ⟨e, he, rfl⟩ := Lint.readConstruct_paren ht hconstruct
    have hstart := Reader.start_le_of_read? h.1 hread
    rw [Scan.Passes, he]
    exact ⟨⟨Nat.le_refl _, hps _ (List.mem_singleton_self _)⟩,
      Scan.agrees_expression.start_le he hstart, hrest⟩
  query {r t r₁} h hread ht := by
    obtain ⟨ps, r₂, hconstruct, -, -, hrest⟩ := h.2.exists_construct hread
    obtain ⟨p, hp, hfound⟩ := Lint.readConstruct_angle ht hconstruct
    have hstart := Reader.start_le_of_read? h.1 hread
    rw [Scan.Passes, hp]
    refine ⟨.inr ?_, Scan.agrees_query.start_le hp hstart, hrest⟩
    have hnone := List.map_eq_nil_iff.1 hfound.symm
    unfold Lint.ofQuery at hnone
    split at hnone
    · next q hq => exact ⟨q, hq⟩
    · cases hnone
  closer {r t r₁} h hread ht := by
    obtain ⟨ps, r₂, hconstruct, -⟩ := h.2.exists_construct hread
    exact Lint.not_closer ht hconstruct
  plain {r t r₁} h hread ht ht' := by
    obtain ⟨ps, r₂, hconstruct, -, -, hrest⟩ := h.2.exists_construct hread
    have hstart := Reader.start_le_of_read? h.1 hread
    cases (Lint.readConstruct_plain ht ht' r₁).symm.trans hconstruct
    exact ⟨hstart, hrest⟩
  recalls h hread ht _ _ _ _ := by
    obtain ⟨ps, r₂, hconstruct, -⟩ := h.2.exists_construct hread
    exact ⟨ps, r₂, Lint.readConstruct_curly ht hconstruct⟩

/-! ## Runs of clean patterns -/

namespace Engine

/-- A run of a pattern in which the check finds nothing and nothing makes code, by an engine without
subroutines, fails with a fault if it fails. The fault is no unknown tag, and no query or regular
expression that cannot be read; and if something takes another number of arguments, then it is a
subroutine that was about to be called. -/
theorem linted_run (e : Engine) (p : Pattern) (g : Generator) (hfresh : e.subroutines = .empty)
    (hlint : Lint.diagnose p = [])
    (hmakes : ∀ b, (Reader.ofPassage p.passage).Holds b → ¬b.MakesCode) {error : RunError}
    (h : (e.run p g).1 = .error error) : ∃ pattern position f,
      error = .fault pattern position f ∧ (∀ name, f ≠ .unknownName .tag name) ∧
      (∀ complaint, f ≠ .invalidArgument "query" complaint ∧
        f ≠ .invalidArgument "regex" complaint) ∧
      ∀ name count, f = .arity name count →
        ∃ m, e.Reaches p g m ∧ m.Ends (.error error) ∧ m.Miscalls name count := by
  have hsubroutines : e.Fulfils .clean := by
    rw [Fulfils, hfresh]
    exact .empty
  have hmild := isMild_of_run_error hsubroutines
    ⟨Nat.le_refl _, Lint.clean_of_diagnose hlint hmakes⟩ h
  cases hmild.resolve_left id with
  | fault pattern position hf =>
    refine ⟨pattern, position, _, rfl, ?_, fun complaint => ⟨?_, ?_⟩, ?_⟩
    · rintro name rfl
      exact hf rfl
    · rintro rfl
      exact hf.1 rfl
    · rintro rfl
      exact hf.2 rfl
    · rintro name count rfl
      exact hf.elim
  | arity pattern position hwrong =>
    refine ⟨pattern, position, _, rfl, fun _ => nofun, fun _ => ⟨nofun, nofun⟩, ?_⟩
    rintro name count hf
    cases hf
    exact hwrong

/-- A pattern that calls a subroutine. -/
def calling : Pattern where
  name := "calling"
  code := "[$f]"
  tokens := #[⟨.leftSquare, "[", ⟨1, 1, 0⟩⟩, ⟨.dollar, "$", ⟨1, 2, 1⟩⟩, ⟨.text, "f", ⟨1, 3, 2⟩⟩,
    ⟨.rightSquare, "]", ⟨1, 4, 3⟩⟩]
  tokenize_code := by with_unfolding_all rfl

/-- The check finds nothing in the call of a subroutine, and the run fails as there is none. -/
theorem linted_run_calling : ∃ (e : Engine) (g : Generator) (error : RunError),
    e.subroutines = .empty ∧ Lint.diagnose calling = [] ∧
      (∀ b, (Reader.ofPassage calling.passage).Holds b → ¬b.MakesCode) ∧
      (e.run calling g).1 = .error error ∧
      ∃ pattern position f, error = .fault pattern position f ∧
        ∀ name, f ≠ .unknownName .tag name := by
  let e : Engine := .build .standard .empty .empty
  have hread : (Reader.ofPassage calling.passage).read? =
      some (⟨.leftSquare, "[", ⟨1, 1, 0⟩⟩, ⟨calling.passage, 1⟩) := rfl
  have hconstruct : Lint.readConstruct ⟨.leftSquare, "[", ⟨1, 1, 0⟩⟩ ⟨calling.passage, 1⟩ =
      (.ok ([], []), ⟨calling.passage, 4⟩) := by with_unfolding_all rfl
  have hbracket : Bracket.read Bracket.readCall ⟨calling.passage, 1⟩ =
      (.ok (.call ⟨.text, "f", ⟨1, 3, 2⟩⟩ []), ⟨calling.passage, 4⟩) := by with_unfolding_all rfl
  have hend : (⟨calling.passage, 4⟩ : Reader).read? = none := rfl
  have hlint : Lint.diagnose calling = [] := by
    rw [Lint.diagnose, Lint.check_eq hread hconstruct, Lint.check_done hend]
    rfl
  have hmakes : ∀ b, (Reader.ofPassage calling.passage).Holds b → ¬b.MakesCode := by
    have hnone : ∀ b, ¬(⟨calling.passage, 4⟩ : Reader).Holds b := by
      intro b h
      cases h with
      | here h | within h | behind h => cases hend.symm.trans h
    intro b h
    cases h with
    | here h _ hb =>
      obtain ⟨rfl, rfl⟩ := Prod.mk.inj (Option.some.inj (hread.symm.trans h))
      obtain ⟨hcall, -⟩ := Prod.mk.inj (hbracket.symm.trans hb)
      exact Except.ok.inj hcall ▸ id
    | within h h' hp =>
      obtain ⟨rfl, rfl⟩ := Prod.mk.inj (Option.some.inj (hread.symm.trans h))
      obtain ⟨hok, -⟩ := Prod.mk.inj (hconstruct.symm.trans h')
      obtain ⟨-, rfl⟩ := Prod.mk.inj (Except.ok.inj hok)
      cases hp
    | behind h h' hb =>
      obtain ⟨rfl, rfl⟩ := Prod.mk.inj (Option.some.inj (hread.symm.trans h))
      obtain ⟨-, rfl⟩ := Prod.mk.inj (hconstruct.symm.trans h')
      exact (hnone b hb).elim
  have hafter : ((e.start calling (.ofSeed 0)).bind (Machine.after 0)).toOption.map (fun m =>
      (m.frames.isEmpty, m.step.toOption.isNone)) = some (false, true) := by decide +kernel
  obtain ⟨m, hm, hseen⟩ := exists_reaches_of_after hafter
  obtain ⟨hframes, hfails⟩ := Prod.mk.inj hseen
  cases hstep : m.step with
  | ok => simp [hstep, Except.toOption] at hfails
  | error error =>
    have hfailed : (e.run calling (.ofSeed 0)).1 = .error error :=
      run_eq_of_ends hm (.inr ⟨error, by simpa using hframes, hstep, rfl⟩)
    obtain ⟨pattern, position, f, herror, htag, -⟩ :=
      linted_run e calling (.ofSeed 0) rfl hlint hmakes hfailed
    exact ⟨e, .ofSeed 0, error, rfl, hlint, hmakes, hfailed, pattern, position, f, herror, htag⟩

end Engine

end Wordsmith
