import Wordsmith.Proofs.Linted
import Wordsmith.Proofs.Metapatterns
import Wordsmith.Proofs.Unclosed

/-!
# Where unterminated scopes are located

The check of a pattern and its run come upon a scope without a closer in one way: they read a
construct whose tokens end too early. What is cut off from a pattern has its brackets nested, so this
can be only in a passage that reaches to the end of its pattern. As long as no code is made, that is
the pattern that is run, or one in which a subroutine that is known already has its body. So the
place is that of an opener in this pattern that has no closer, or of the sign that stands for it.

A sign stands for an opener where a scan has begun behind it: behind a colon, or a blank behind that,
behind the question mark of a metapattern, and behind the at sign of a silent expression. Then the
token at the place is not of the kind of the opener.

Main result: `Engine.unterminated_located`.
-/

namespace Wordsmith

variable {r r₁ r₂ : Reader} {t : Token} {b : Bracket} {p : Pattern} {sources : List Pattern}

/-! ## Patterns with an opener that has no closer -/

/-- An opener of the pattern has no closer, and it is named by the place: there stands the opener
itself, or else a sign that a square bracket or a parenthesis has in front of its contents. -/
structure Pattern.LacksCloser (p : Pattern) (k c : TokenKind) (q : Position) : Prop where
  unclosed : Unclosed p.tokens.toList k c q
  token : ∃! t, t ∈ p.tokens.toList ∧ t.position = q
  kind : ∀ t ∈ p.tokens.toList, t.position = q → t.kind = k ∨
    k = .leftSquare ∧ t.kind ∈ [.colon, .question, .whitespace] ∨ k = .leftParen ∧ t.kind = .at

theorem Pattern.LacksCloser.of_unclosed {k c : TokenKind} {q : Position}
    (h : Unclosed p.tokens.toList k c q) : p.LacksCloser k c q := by
  obtain ⟨t, ht, rfl, hkind⟩ := h.exists_token
  have hunique : ∀ t' ∈ p.tokens.toList, t'.position = t.position → t' = t :=
    fun t' ht' heq => Lexer.eq_of_offset_eq p.tokenize_code ht' ht (congrArg Position.offset heq)
  exact ⟨h, ⟨t, ⟨ht, rfl⟩, fun t' ht' => hunique t' ht'.1 ht'.2⟩,
    fun t' ht' heq => hunique t' ht' heq ▸ hkind⟩

/-- If the error is about an opener without a closer, then that is in one of the patterns. -/
def Locates (sources : List Pattern) (e : ScopeError) : Prop :=
  ∀ k c q, e = .unterminated k c q → ∃ p ∈ sources, p.LacksCloser k c q

/-- Only a passage that reaches to the end of its pattern lacks a closer. -/
theorem Reader.IsWhole.locates (h : r.IsWhole []) (hp : p ∈ sources)
    (hcode : r.passage.pattern.code = p.code) {e : ScopeError} (he : r.Explains e) :
    Locates sources e := by
  intro k c q hunterminated
  have hunclosed := he k c q hunterminated
  rcases h.nested with hend | hnested
  · refine ⟨p, hp, .of_unclosed ?_⟩
    have hrest : r.rest = p.tokens.toList.drop r.index := by
      rw [Reader.rest_eq_take h.start_le, Pattern.tokens_eq hcode]
      refine List.take_of_length_le ?_
      rw [Pattern.tokens_eq hcode] at hend
      rw [List.length_drop, Array.length_toList]
      omega
    rw [hrest] at hunclosed
    rw [← List.take_append_drop r.index p.tokens.toList]
    exact hunclosed.append_left _
  · exact absurd hunclosed hnested.not_unclosed

/-- What is found is not that brackets do not fit. -/
def Diagnostic.IsOther (d : Diagnostic) : Prop := ∀ e, d.finding ≠ .badScope e

/-! ## The check -/

namespace Lint

variable {found found' : List Diagnostic} {ps : List Passage}

/-- A construct that cannot be read to its end has an opener without a closer. -/
theorem explains_readConstruct (hstart : r.passage.start ≤ r.index)
    (hread : r.read? = some (t, r₁)) :
    Scan.Passes r.Explains (fun c r' => r.Keeps c.2 r') (readConstruct t) r₁ := by
  have hopened := Reader.Opened.of_read? hstart hread
  unfold readConstruct
  split
  · next ht => exact (Scan.explains_readItems hopened ht).bind fun _ _ h => .pure h
  · next ht => exact (Scan.explains_expression hopened ht).bind fun _ _ h => .pure h
  · next ht => exact (Scan.explains_query hopened ht).bind fun _ _ h => .pure ⟨h.passage, nofun⟩
  · next ht =>
    exact (Bracket.explains_read (Bracket.explains_readCall ht) ht hopened).bind
      fun _ _ h => .pure h
  iterate 4 rintro _ _ _ ⟨⟩
  · exact .pure ⟨hopened.passage, nofun⟩

/-- Brackets nest in the passages of a construct and behind it. -/
theorem isWhole_readConstruct (h : r.IsWhole []) (hread : r.read? = some (t, r₁)) :
    Scan.Passes (fun _ => True) (fun c r' => (∀ q ∈ c.2, q.IsWhole) ∧ r'.IsWhole [])
      (readConstruct t) r₁ := by
  have hopens : ∀ {c}, t.kind.closer? = some c → r₁.IsWhole [c] := h.readOpener hread
  unfold readConstruct
  split
  · next ht =>
    exact (Block.closes_readItems.passes (hopens (by rw [ht]; rfl)) fun _ _ hps hr =>
      ⟨hps, hr⟩).bind fun _ _ h => .pure h
  · next ht =>
    exact (Scan.closes_expression.passes (hopens (by rw [ht]; rfl)) fun _ _ he hr =>
      ⟨List.forall_mem_singleton.2 he, hr⟩).bind fun _ _ h => .pure h
  · next ht =>
    exact (Scan.closes_query.passes (hopens (by rw [ht]; rfl)) fun _ _ _ hr => hr).bind
      fun _ _ hr => .pure ⟨List.forall_mem_nil _, hr⟩
  · next ht =>
    exact ((Bracket.closes_read Bracket.closes_readCall).passes (hopens (by rw [ht]; rfl))
      fun _ _ hb hr => ⟨hb, hr⟩).bind fun _ _ h => .pure h
  iterate 4 exact trivial
  · next hcurly hparen hangle hsquare hcurly' hsquare' hparen' hangle' =>
    refine .pure ⟨List.forall_mem_nil _, Standard.whole.plain h hread ?_ ?_⟩ <;>
      simp only [List.mem_cons, List.not_mem_nil, or_false, not_or]
    · exact ⟨hcurly, hsquare, hparen, hangle⟩
    · exact ⟨hcurly', hsquare', hparen', hangle'⟩

theorem exists_of_checkAll_error {e : ScopeError} (h : checkAll ps found = (.error e, found')) :
    ∃ q ∈ ps, ∃ found₁ found₂, check (.ofPassage q) found₁ = (.error e, found₂) := by
  induction ps generalizing found with
  | nil => cases h
  | cons q ps ih =>
    rw [checkAll_cons] at h
    rcases bind_eq_error h with hfirst | ⟨_, found₁, -, hothers⟩
    · exact ⟨q, List.mem_cons_self, _, _, hfirst⟩
    · obtain ⟨q', hq', hcheck⟩ := ih hothers
      exact ⟨q', List.mem_cons_of_mem _ hq', hcheck⟩

/-- The check ends early only where a construct cannot be read. -/
theorem locates_of_check (h : r.IsWhole []) (hp : p ∈ sources)
    (hcode : r.passage.pattern.code = p.code) {e : ScopeError}
    (hcheck : check r found = (.error e, found')) : Locates sources e := by
  induction hk : r.remaining using Nat.strongRecOn generalizing r found found' with
  | ind k ih =>
    subst hk
    rcases hread : r.read? with _ | ⟨t, r₁⟩
    · rw [check_done hread] at hcheck
      cases hcheck
    · have hexplains := explains_readConstruct h.start_le hread
      have hwhole := isWhole_readConstruct h hread
      unfold Scan.Passes at hexplains hwhole
      rcases hconstruct : readConstruct t r₁ with ⟨e' | ⟨diagnostics, ps⟩, r₂⟩ <;>
        rw [hconstruct] at hexplains hwhole
      · rw [check_of_error hread hconstruct] at hcheck
        cases hcheck
        exact h.locates hp hcode hexplains
      · obtain ⟨hps, hr₂⟩ := hwhole
        obtain ⟨hless, hless₂⟩ := remaining_lt hread hconstruct
        rw [check_eq hread hconstruct] at hcheck
        rcases bind_eq_error hcheck with hmodify | ⟨_, _, -, hcheck⟩
        · cases hmodify
        rcases bind_eq_error hcheck with hall | ⟨_, _, -, hbehind⟩
        · obtain ⟨q, hq, _, _, hinside⟩ := exists_of_checkAll_error hall
          refine ih _ (hless q hq) (Reader.isWhole_ofPassage (hps q hq)) ?_ hinside rfl
          exact (congrArg Pattern.code (hexplains.pattern q hq)).trans hcode
        · refine ih _ hless₂ hr₂ ?_ hbehind rfl
          rw [hexplains.passage]
          exact hcode

/-! ## Findings on the way -/

theorem isOther_of_placed {findings : List Finding} (h : ∀ e, .badScope e ∉ findings)
    (q : Position) : ∀ d ∈ placed q findings, d.IsOther := by
  intro d hd e heq
  obtain ⟨f, hf, rfl⟩ := List.mem_map.1 hd
  cases heq
  exact h e hf

theorem isOther_of_ofBracket (q : Position) (b : Bracket) : ∀ d ∈ ofBracket q b, d.IsOther := by
  cases b with
  | definition | metapattern =>
    refine isOther_of_placed (fun e => ?_) q
    unfold ofBody
    split <;> simp
  | call => exact List.forall_mem_nil _
  | replacer literal =>
    refine isOther_of_placed (fun e => ?_) literal.position
    unfold ofReplacer
    split
    · simp
    · split <;> simp
  | tag name =>
    refine isOther_of_placed (fun e => ?_) name.position
    unfold ofTag
    split
    · simp
    · split <;> simp

theorem passes_readConstruct (t : Token) (r : Reader) : Scan.Passes (fun _ => True)
    (fun c _ => ∀ d ∈ c.1, d.IsOther) (readConstruct t) r := by
  have any : ∀ {α : Type} (x : Scan α) (r : Reader),
      x.Passes (fun _ => True) (fun _ _ => True) r := fun x r => by
    unfold Scan.Passes
    split <;> trivial
  unfold readConstruct
  split
  · exact (any _ _).bind fun _ _ _ => .pure (List.forall_mem_nil _)
  · exact (any _ _).bind fun _ _ _ => .pure (List.forall_mem_nil _)
  · refine (any _ _).bind fun a _ _ => .pure (isOther_of_placed (fun e => ?_) t.position)
    unfold ofQuery
    split <;> simp
  · exact (any _ _).bind fun b _ _ => .pure (isOther_of_ofBracket t.position b)
  iterate 4 exact trivial
  · exact .pure (List.forall_mem_nil _)

theorem isOther_of_readConstruct (h : readConstruct t r = (.ok (found, ps), r₁)) :
    ∀ d ∈ found, d.IsOther := by
  have hpasses := passes_readConstruct t r
  rwa [Scan.Passes, h] at hpasses

/-- An unterminated scope that the check finds is that of an opener without a closer. -/
theorem lacksCloser_of_diagnose {k c : TokenKind} {q : Position} {place : Option Position}
    (h : ⟨.badScope (.unterminated k c q), place⟩ ∈ diagnose p) :
    place = some q ∧ p.LacksCloser k c q := by
  have hadds := adds_check isOther_of_readConstruct (.ofPassage p.passage)
  have hother : ∀ {x found}, check (.ofPassage p.passage) [] = (x, found) →
      ∀ d ∈ found, d.IsOther := by
    intro x found hcheck
    obtain ⟨more, rfl, hmore⟩ := hadds _ _ _ hcheck
    exact hmore
  unfold diagnose at h
  split at h
  · next found hcheck => exact absurd rfl (hother hcheck _ h _)
  · next e found hcheck =>
    rcases List.mem_append.1 h with hfound | hlast
    · exact absurd rfl (hother hcheck _ hfound _)
    · cases List.mem_singleton.1 hlast
      have hpattern : p ∈ [p] := List.mem_singleton_self p
      have hwhole : (Reader.ofPassage p.passage).IsWhole [] := Standard.whole.compiled trivial p
      obtain ⟨_, hp, hlacks⟩ := locates_of_check hwhole hpattern rfl hcheck k c q rfl
      exact ⟨rfl, List.mem_singleton.1 hp ▸ hlacks⟩

end Lint

/-! ## The run -/

/-- The reader reads one of the patterns, to its end or where brackets nest, and there is nothing in
it that makes code. -/
structure Reader.IsSourced (sources : List Pattern) (r : Reader) : Prop where
  whole : r.IsWhole []
  source : ∃ p ∈ sources, r.passage.pattern.code = p.code
  makes : ∀ b, r.Holds b → ¬b.MakesCode

theorem Reader.Holds.of_leadsTo {r' : Reader} (hlead : r.LeadsTo r') (h : r'.Holds b) :
    r.Holds b := by
  induction hlead with
  | refl => exact h
  | behind hread hconstruct _ ih => exact .behind hread hconstruct (ih h)

theorem Reader.Holds.alike {r' : Reader} (h : r.Holds b) (hr : r.Alike r') :
    ∃ b', r'.Holds b' ∧ b.Alike b' := by
  induction h generalizing r' with
  | here hread ht hb =>
    obtain ⟨r₁', hread', hr₁⟩ := hr.exists_read? hread
    obtain ⟨b', _, hb', halike, -⟩ :=
      (Bracket.agrees_read Bracket.agrees_readCall).exists_ok hr₁ hb
    exact ⟨b', .here hread' ht hb', halike⟩
  | within hread hconstruct hp _ ih =>
    obtain ⟨r₁', hread', hr₁⟩ := hr.exists_read? hread
    obtain ⟨_, _, hconstruct', ⟨-, hps⟩, -⟩ :=
      (Lint.agrees_readConstruct _).exists_ok hr₁ hconstruct
    obtain ⟨q, hq, hpq⟩ := hps.exists_right hp
    obtain ⟨b', hb', halike⟩ := ih (.ofPassage hpq)
    exact ⟨b', .within hread' hconstruct' hq hb', halike⟩
  | behind hread hconstruct _ ih =>
    obtain ⟨r₁', hread', hr₁⟩ := hr.exists_read? hread
    obtain ⟨_, _, hconstruct', -, hr₂⟩ :=
      (Lint.agrees_readConstruct _).exists_ok hr₁ hconstruct
    obtain ⟨b', hb', halike⟩ := ih hr₂
    exact ⟨b', .behind hread' hconstruct' hb', halike⟩

theorem BlockItem.pattern_code (q : Passage) : (ofPassage q).code.pattern = q.pattern := by
  unfold ofPassage
  split
  · split
    · split <;> rfl
    · rfl
  · rfl

namespace Reader.IsSourced

theorem explains (h : r.IsSourced sources) {e : ScopeError} (he : r.Explains e) :
    Locates sources e := by
  obtain ⟨p, hp, hcode⟩ := h.source
  exact h.whole.locates hp hcode he

/-- What is found in a construct and behind it is of the same kind. -/
theorem construct (h : r.IsSourced sources) (hread : r.read? = some (t, r₁))
    {found : List Diagnostic} {ps : List Passage}
    (hconstruct : Lint.readConstruct t r₁ = (.ok (found, ps), r₂)) :
    (∀ q ∈ ps, (Reader.ofPassage q).IsSourced sources) ∧ r₂.IsSourced sources := by
  obtain ⟨p, hp, hcode⟩ := h.source
  have hkeeps := Lint.explains_readConstruct h.whole.start_le hread
  have hwhole := Lint.isWhole_readConstruct h.whole hread
  rw [Scan.Passes, hconstruct] at hkeeps hwhole
  obtain ⟨hps, hr₂⟩ := hwhole
  refine ⟨fun q hq => ⟨Reader.isWhole_ofPassage (hps q hq), ⟨p, hp, ?_⟩, fun b hb => ?_⟩,
    hr₂, ⟨p, hp, ?_⟩, fun b hb => ?_⟩
  · exact (congrArg Pattern.code (hkeeps.pattern q hq)).trans hcode
  · exact h.makes b (.within hread hconstruct hq hb)
  · rw [hkeeps.passage]
    exact hcode
  · exact h.makes b (.behind hread hconstruct hb)

theorem alike {r' : Reader} (h : r.IsSourced sources) (hr : r.Alike r') :
    r'.IsSourced sources := by
  obtain ⟨p, hp, hcode⟩ := h.source
  refine ⟨h.whole.alike hr, ⟨p, hp, hr.code.symm.trans hcode⟩, fun b' hb' hmakes => ?_⟩
  obtain ⟨b, hb, halike⟩ := hb'.alike hr.symm
  exact h.makes b hb (halike.makesCode hmakes)

/-- The code of an item of a block, with or without a weight, is of the same kind. -/
theorem code {q : Passage} {r' : Reader} (h : (Reader.ofPassage q).IsSourced sources)
    (hq : q.IsWhole) (hlead : (Reader.ofPassage q).LeadsTo r')
    (halike : r'.Alike (.ofPassage (BlockItem.ofPassage q).code)) :
    (Reader.ofPassage (BlockItem.ofPassage q).code).IsSourced sources := by
  obtain ⟨p, hp, hcode⟩ := h.source
  refine ⟨Reader.isWhole_ofPassage (BlockItem.isWhole_code hq), ⟨p, hp, ?_⟩, fun b hb hmakes => ?_⟩
  · exact (congrArg Pattern.code (BlockItem.pattern_code q)).trans hcode
  · obtain ⟨b', hb', halike'⟩ := hb.alike halike.symm
    exact h.makes b' (hb'.of_leadsTo hlead) (halike'.makesCode hmakes)

/-- A scan of a construct passes if what succeeds is of the same kind. -/
theorem passes {α : Type} {P Q : α → Reader → Prop} {x : Scan α} (h : r.IsSourced sources)
    (hexplains : x.Passes r.Explains P r₁)
    (hok : ∀ a r', x r₁ = (.ok a, r') → Q a r') : x.Passes (Locates sources) Q r₁ := by
  unfold Scan.Passes at hexplains ⊢
  rcases hx : x r₁ with ⟨e | a, r'⟩ <;> rw [hx] at hexplains
  · exact h.explains hexplains
  · exact hok a r' hx

end Reader.IsSourced

/-- Code of some patterns in which nothing makes code, as a standard. It is lax, but an unterminated
scope is one of the patterns'. -/
def Standard.sourced (sources : List Pattern) : Standard where
  reader := Reader.IsSourced sources
  fails := Locates sources
  isLax := True
  makesCode := False
  lax_of_fails _ := trivial
  lax_of_makesCode := False.elim
  alike := Reader.IsSourced.alike
  compiled := False.elim
  block {r t r₁} h hread ht := by
    have hstart := Reader.start_le_of_read? h.whole.start_le hread
    refine h.passes (Scan.explains_readItems (.of_read? h.whole.start_le hread) ht) ?_
    intro ps r₂ hitems
    have hconstruct : Lint.readConstruct t r₁ = (.ok ([], ps), r₂) := by
      simp only [Lint.readConstruct, ht]
      exact bind_of_ok hitems _
    obtain ⟨hps, hr₂⟩ := h.construct hread hconstruct
    refine ⟨fun p hp => ?_, hr₂⟩
    have hopened := h.whole.readOpener hread (c := .rightCurly) (by rw [ht]; rfl)
    obtain ⟨hwhole, -⟩ := Block.closes_readItems.from_whole _ _ _ hopened hitems
    obtain ⟨r', hlead, halike⟩ := Block.leadsTo_code hstart hitems p hp
    exact (hps p hp).code (hwhole p hp) hlead halike
  bracket {r t r₁} h hread ht := by
    refine h.passes (Bracket.explains_read (Bracket.explains_readReplacement ht) ht
      (.of_read? h.whole.start_le hread)) ?_
    intro b r₂ hb
    have hb' := Bracket.read_readCall hb
    have hconstruct : Lint.readConstruct t r₁ =
        (.ok (Lint.ofBracket t.position b, b.passages), r₂) := by
      simp only [Lint.readConstruct, ht]
      exact bind_of_ok hb' _
    obtain ⟨hps, hr₂⟩ := h.construct hread hconstruct
    exact ⟨.inl trivial, .inr (h.makes b (.here hread ht hb')), hps, hr₂⟩
  expression {r t r₁} h hread ht := by
    refine h.passes (Scan.explains_expression (.of_read? h.whole.start_le hread) ht) ?_
    intro e r₂ he
    have hconstruct : Lint.readConstruct t r₁ = (.ok ([], [e.2]), r₂) := by
      simp only [Lint.readConstruct, ht]
      exact bind_of_ok he _
    obtain ⟨hps, hr₂⟩ := h.construct hread hconstruct
    exact ⟨hps _ (List.mem_singleton_self _), hr₂⟩
  query {r t r₁} h hread ht := by
    refine h.passes (Scan.explains_query (.of_read? h.whole.start_le hread) ht) ?_
    intro p r₂ hp
    have hconstruct : Lint.readConstruct t r₁ =
        (.ok (Lint.placed t.position (Lint.ofQuery p), []), r₂) := by
      simp only [Lint.readConstruct, ht]
      exact bind_of_ok hp _
    exact ⟨.inl trivial, (h.construct hread hconstruct).2⟩
  closer _ _ _ := nofun
  plain {r t r₁} h hread ht ht' :=
    (h.construct hread (Lint.readConstruct_plain ht ht' r₁)).2
  recalls h := Standard.whole.recalls h.whole

/-! ## Unterminated scopes -/

namespace Engine

variable {e : Engine}

/-- What a run may read code of: its pattern, and those with the bodies of the subroutines that are
known. -/
def patternsFor (e : Engine) (p : Pattern) : List Pattern :=
  p :: e.subroutines.entries.map (·.2.body.pattern)

/-- Subroutines in which nothing makes code are of their patterns. -/
theorem Arises.fulfils_sourced (h : e.Arises)
    (hmakes : ∀ entry ∈ e.subroutines.entries, ∀ b, (Reader.ofPassage entry.2.body).Holds b →
      ¬b.MakesCode) (p : Pattern) : e.Fulfils (.sourced (e.patternsFor p)) := by
  have hwhole := List.forall₂_same.1 h.fulfils
  refine List.forall₂_same.2 fun entry hentry => ?_
  obtain ⟨-, hsubroutine⟩ := hwhole entry hentry
  exact ⟨rfl, rfl, rfl, .refl _, hsubroutine.body.reader,
    ⟨_, List.mem_cons_of_mem _ (List.mem_map_of_mem hentry), rfl⟩, hmakes entry hentry⟩

/-- An unterminated scope that the check of a pattern or its run reports is that of an opener without
a closer, in the pattern or where a subroutine that is known was defined. The opener is named by its
place, unless it is a square bracket or a parenthesis with a sign in front of its contents. -/
theorem unterminated_located (p : Pattern) (k c : TokenKind) (q : Position) :
    (∀ place, (⟨.badScope (.unterminated k c q), place⟩ : Diagnostic) ∈ Lint.diagnose p →
      place = some q ∧ p.LacksCloser k c q) ∧
    ∀ (e : Engine) (g : Generator), e.Arises →
      (∀ b, (Reader.ofPassage p.passage).Holds b → ¬b.MakesCode) →
      (∀ entry ∈ e.subroutines.entries, ∀ b, (Reader.ofPassage entry.2.body).Holds b →
        ¬b.MakesCode) →
      (e.run p g).1 = .error (.scope (.unterminated k c q)) →
      ∃ source ∈ e.patternsFor p, source.LacksCloser k c q := by
  refine ⟨fun place h => Lint.lacksCloser_of_diagnose h, fun e g he hmakes hsubroutines h => ?_⟩
  have hwhole : (Reader.ofPassage p.passage).IsWhole [] := Standard.whole.compiled trivial p
  have hsourced : (Reader.ofPassage p.passage).IsSourced (e.patternsFor p) :=
    ⟨hwhole, ⟨p, List.mem_cons_self, rfl⟩, hmakes⟩
  exact fails_of_run_error (he.fulfils_sourced hsubroutines p) hsourced h k c q rfl

/-- Square brackets with curly ones inside, and no closer at all. -/
def openBrace : Pattern where
  name := "open brace"
  code := "[a:\x7bb"
  tokens := #[⟨.leftSquare, "[", ⟨1, 1, 0⟩⟩, ⟨.text, "a", ⟨1, 2, 1⟩⟩, ⟨.colon, ":", ⟨1, 3, 2⟩⟩,
    ⟨.leftCurly, "\x7b", ⟨1, 4, 3⟩⟩, ⟨.text, "b", ⟨1, 5, 4⟩⟩]
  tokenize_code := by with_unfolding_all rfl

/-- The check and the run name the opener inside, which waits, by its own place. -/
theorem unterminated_located_brace :
    let q : Position := ⟨1, 4, 3⟩
    let error : ScopeError := .unterminated .leftCurly .rightCurly q
    (⟨.badScope error, some q⟩ : Diagnostic) ∈ Lint.diagnose openBrace ∧
      openBrace.LacksCloser .leftCurly .rightCurly q ∧
      ∃ (e : Engine) (g : Generator), e.Arises ∧
        (∀ b, (Reader.ofPassage openBrace.passage).Holds b → ¬b.MakesCode) ∧
        (∀ entry ∈ e.subroutines.entries, ∀ b, (Reader.ofPassage entry.2.body).Holds b →
          ¬b.MakesCode) ∧
        (e.run openBrace g).1 = .error (.scope error) ∧
        ∃ source ∈ e.patternsFor openBrace, source.LacksCloser .leftCurly .rightCurly q := by
  intro q error
  have hread : (Reader.ofPassage openBrace.passage).read? =
      some (⟨.leftSquare, "[", ⟨1, 1, 0⟩⟩, ⟨openBrace.passage, 1⟩) := rfl
  have hbracket : Bracket.read Bracket.readCall ⟨openBrace.passage, 1⟩ =
      (.error error, ⟨openBrace.passage, 5⟩) := by with_unfolding_all rfl
  have hconstruct : Lint.readConstruct ⟨.leftSquare, "[", ⟨1, 1, 0⟩⟩ ⟨openBrace.passage, 1⟩ =
      (.error error, ⟨openBrace.passage, 5⟩) := by with_unfolding_all rfl
  have hlint : Lint.diagnose openBrace = [⟨.badScope error, some q⟩] := by
    rw [Lint.diagnose, Lint.check_of_error hread hconstruct]
    rfl
  have hmakes : ∀ b, (Reader.ofPassage openBrace.passage).Holds b → ¬b.MakesCode := by
    intro b h
    cases h with
    | here h _ hb =>
      cases hread.symm.trans h
      cases hbracket.symm.trans hb
    | within h h' | behind h h' =>
      cases hread.symm.trans h
      cases hconstruct.symm.trans h'
  let e : Engine := .build .standard .empty .empty
  have hrun : (e.run openBrace (.ofSeed 0)).1 = .error (.scope error) :=
    run_eq_scope_error_of_after (n := 0) (by decide +kernel)
  have hmem : (⟨.badScope error, some q⟩ : Diagnostic) ∈ Lint.diagnose openBrace :=
    hlint ▸ List.mem_singleton_self _
  obtain ⟨hcheck, hruns⟩ := unterminated_located openBrace .leftCurly .rightCurly q
  have hengine : e.Arises := .build .standard .empty .empty
  have hempty : ∀ entry ∈ e.subroutines.entries, ∀ b, (Reader.ofPassage entry.2.body).Holds b →
      ¬b.MakesCode := List.forall_mem_nil _
  exact ⟨hmem, (hcheck _ hmem).2, e, .ofSeed 0, hengine, hmakes, hempty, hrun,
    hruns e _ hengine hmakes hempty hrun⟩

/-- Square brackets with nothing behind their colon. -/
def openColon : Pattern where
  name := "open colon"
  code := "[a:"
  tokens := #[⟨.leftSquare, "[", ⟨1, 1, 0⟩⟩, ⟨.text, "a", ⟨1, 2, 1⟩⟩, ⟨.colon, ":", ⟨1, 3, 2⟩⟩]
  tokenize_code := by with_unfolding_all rfl

/-- Where no opener waits inside, the check and the run name the colon that was read last, and not the
opener in front of it. -/
theorem unterminated_at_colon :
    let q : Position := ⟨1, 3, 2⟩
    let error : ScopeError := .unterminated .leftSquare .rightSquare q
    Lint.diagnose openColon = [⟨.badScope error, some q⟩] ∧
      ((build .standard .empty .empty).run openColon (.ofSeed 0)).1 = .error (.scope error) ∧
      openColon.tokens.toList.find? (·.position = q) = some ⟨.colon, ":", q⟩ := by
  intro q error
  have hread : (Reader.ofPassage openColon.passage).read? =
      some (⟨.leftSquare, "[", ⟨1, 1, 0⟩⟩, ⟨openColon.passage, 1⟩) := rfl
  have hconstruct : Lint.readConstruct ⟨.leftSquare, "[", ⟨1, 1, 0⟩⟩ ⟨openColon.passage, 1⟩ =
      (.error error, ⟨openColon.passage, 3⟩) := by with_unfolding_all rfl
  refine ⟨?_, run_eq_scope_error_of_after (n := 0) (by decide +kernel), by decide +kernel⟩
  rw [Lint.diagnose, Lint.check_of_error hread hconstruct]
  rfl

end Engine

end Wordsmith
