import Wordsmith.Proofs.Programs.Rows

/-!
# Square brackets in programs

What is read from the tokens of a piece is what the piece says: a tag or a call with passages that
write the arguments, or a definition with the names of its parameters and a passage that writes its
body.

Main results: `Bracket.reads_tag`, `Bracket.reads_call` and `Bracket.reads_definition`.
-/

namespace Wordsmith

open Scan

/-- The passage writes code, without the blanks at its edges. -/
def Passage.Writes (p : Passage) (a : Phrase) : Prop := Wordsmith.Writes [a.trim] p.tokens

variable {a : Phrase} {as : List Phrase} {k l : List Token} {closer : Token}

/-! ## Text -/

namespace Writes

/-- Tokens without brackets write their own text. -/
theorem eq_ofText {tokens : List Token} (h : Wordsmith.Writes [a] tokens)
    (hplain : ∀ t ∈ tokens, t.kind ≠ .leftSquare) :
    a = .ofText (String.join (tokens.map (·.text))) := by
  generalize hrow : [a] = as at h
  induction h generalizing a with
  | nil =>
    obtain ⟨rfl, -⟩ := List.cons.inj hrow
    rfl
  | plain ht _ ih =>
    obtain ⟨rfl, rfl⟩ := List.cons.inj hrow
    obtain ⟨-, hplain⟩ := List.forall_mem_cons.1 hplain
    rw [ih hplain rfl]
    simp [Phrase.ofText, String.toList_append]
  | argument hopener => exact absurd hopener (hplain _ (by simp))
  | callBare hopener => exact absurd hopener (hplain _ (by simp))
  | call hopener => exact absurd hopener (hplain _ (by simp))
  | separator ht h => exact absurd (List.cons.inj hrow).2.symm h.ne_nil

theorem forall_isPlain (h : Wordsmith.Writes [a] tokens)
    (hplain : ∀ t ∈ tokens, t.kind ≠ .leftSquare) : ∀ t ∈ tokens, t.IsPlain := by
  generalize hrow : [a] = as at h
  induction h generalizing a with
  | nil => simp
  | plain ht _ ih =>
    obtain ⟨rfl, rfl⟩ := List.cons.inj hrow
    obtain ⟨-, hplain⟩ := List.forall_mem_cons.1 hplain
    exact List.forall_mem_cons.2 ⟨ht, ih hplain rfl⟩
  | argument hopener => exact absurd hopener (hplain _ (by simp))
  | callBare hopener => exact absurd hopener (hplain _ (by simp))
  | call hopener => exact absurd hopener (hplain _ (by simp))
  | separator ht h => exact absurd (List.cons.inj hrow).2.symm h.ne_nil

/-- There are no brackets in text. -/
theorem ne_of_ofText {text : String} {tokens : List Token}
    (h : Wordsmith.Writes [.ofText text] tokens) : ∀ t ∈ tokens, t.kind ≠ .leftSquare := by
  have hchars : ∀ x ∈ Phrase.ofText text, ∃ c, x = .char c := fun x hx => by
    obtain ⟨c, -, rfl⟩ := List.mem_map.1 hx
    exact ⟨c, rfl⟩
  generalize Phrase.ofText text = a at h hchars
  generalize hrow : [a] = as at h
  induction h generalizing a with
  | nil => simp
  | @plain t b others tokens ht _ ih =>
    obtain ⟨rfl, rfl⟩ := List.cons.inj hrow
    refine List.forall_mem_cons.2 ⟨fun hkind => ?_, ih b (fun x hx => ?_) rfl⟩
    · have hmem := ht.kind
      rw [hkind] at hmem
      simp at hmem
    · exact hchars x (List.mem_append_right _ hx)
  | argument =>
    obtain ⟨rfl, rfl⟩ := List.cons.inj hrow
    obtain ⟨c, hc⟩ := hchars _ List.mem_cons_self
    cases hc
  | callBare =>
    obtain ⟨rfl, rfl⟩ := List.cons.inj hrow
    obtain ⟨c, hc⟩ := hchars _ List.mem_cons_self
    cases hc
  | call =>
    obtain ⟨rfl, rfl⟩ := List.cons.inj hrow
    obtain ⟨c, hc⟩ := hchars _ List.mem_cons_self
    cases hc
  | separator ht h => exact absurd (List.cons.inj hrow).2.symm h.ne_nil

end Writes

namespace Phrase

theorem trim_ofText (text : String) : (ofText text).trim = ofText (Text.trimmed text) := by
  have hmap : (ofText text).trim =
      (((text.toList.map Piece.char).dropWhile Piece.isBlank).reverse.dropWhile
        Piece.isBlank).reverse := rfl
  rw [hmap, List.dropWhile_map, ← List.map_reverse, List.dropWhile_map, ← List.map_reverse, ofText,
    Text.trimmed, String.toList_ofList]
  rfl

theorem ofText_inj {text text' : String} (h : ofText text = ofText text') : text = text' := by
  have hinj : Function.Injective Piece.char := fun _ _ hc => Piece.char.inj hc
  exact String.toList_inj.1 (hinj.list_map h)

end Phrase

namespace Passage.Writes

variable {p : Passage} {text : String}

theorem forall_isPlain (h : p.Writes (.ofText text)) : ∀ t ∈ p.tokens, t.IsPlain := by
  rw [Passage.Writes, Phrase.trim_ofText] at h
  exact Wordsmith.Writes.forall_isPlain h h.ne_of_ofText

/-- A passage that writes text is the text without the blanks at its edges. -/
theorem text_eq (h : p.Writes (.ofText text)) : p.text = Text.trimmed text := by
  rw [Passage.Writes, Phrase.trim_ofText] at h
  exact (Phrase.ofText_inj (h.eq_ofText h.ne_of_ofText)).symm

end Passage.Writes

theorem Text.trimmed_trimmed (text : String) : trimmed (trimmed text) = trimmed text := by
  obtain ⟨hhead, hlast⟩ := edges_trim isBlank text.toList
  have htrim : trim (trim text.toList) = trim text.toList := trim_eq_self hhead hlast
  rw [trimmed, trimmed, String.toList_ofList, htrim]

namespace IsParameterName

variable {name : String}

theorem trim_toList (h : IsParameterName name) : Text.trim name.toList = name.toList :=
  trim_eq_self (fun c hc => (h.head c hc).1) h.last

theorem trimmed_eq (h : IsParameterName name) : Text.trimmed name = name := by
  rw [Text.trimmed, h.trim_toList, String.ofList_toList]

theorem ofPassage?_eq (h : IsParameterName name) {p : Passage} (hp : p.Writes (.ofText name)) :
    Parameter.ofPassage? p = some ⟨name, false⟩ := by
  obtain ⟨c, cs, hcs⟩ := List.exists_cons_of_ne_nil (mt String.toList_eq_nil_iff.1 h.ne)
  have hmark : c ≠ '@' := (h.head c (by simp [hcs])).2.2
  have hname : String.ofList (c :: cs) = name := by rw [← hcs, String.ofList_toList]
  rw [Parameter.ofPassage?, hp.text_eq, h.trimmed_eq, h.trim_toList, hcs]
  split
  next hsplit =>
    split at hsplit
    · next heq => exact absurd (List.cons.inj heq).1 hmark
    · cases hsplit
      rw [if_neg (List.cons_ne_nil _ _), hname]

end IsParameterName

/-! ## Arguments -/

/-- Lists that are related to a third one are related to each other. -/
theorem forall₂_of_forall₂ {α β γ : Type} {R : α → γ → Prop} {S : β → γ → Prop} {T : α → β → Prop}
    (h : ∀ x y z, R x z → S y z → T x y) {xs : List α} {ys : List β} {zs : List γ}
    (hxs : List.Forall₂ R xs zs) (hys : List.Forall₂ S ys zs) : List.Forall₂ T xs ys := by
  induction hxs generalizing ys with
  | nil =>
    cases hys
    exact .nil
  | cons hx _ ih =>
    cases hys with
    | cons hy hys => exact .cons (h _ _ _ hx hy) (ih hys)

/-- What follows from the relation holds of every item. -/
theorem forall_of_forall₂ {α β : Type} {R : α → β → Prop} {P : α → Prop} (h : ∀ x y, R x y → P x)
    {xs : List α} {ys : List β} (hxs : List.Forall₂ R xs ys) : ∀ x ∈ xs, P x :=
  ((List.forall₂_and_left xs ys).1 (hxs.imp fun x y hxy => And.intro (h x y hxy) hxy)).1

/-- No blank stands behind a name. -/
theorem Listed.isSpace_head (h : Listed as k) (hcloser : closer.kind = .rightSquare)
    (l : List Token) : ∀ t ∈ (k ++ closer :: l).head?, Passage.isSpace t = false := by
  intro t ht
  cases h with
  | none =>
    obtain rfl : closer = t := Option.some.inj ht
    exact Writes.isSpace_of_kind hcloser (by decide)
  | some hcolon =>
    obtain rfl := Option.some.inj ht
    exact Writes.isSpace_of_kind hcolon (by decide)

/-- Rows of tokens that write code are read as passages that write the code, if marks between them
stand nowhere in it. -/
theorem Writes.reads_arguments {s : Scope} (hs : s.IsBracket) (htable : s.table = .all) {mark : Char}
    {separator : TokenKind} (hmark : TokenKind.ofSymbol? mark = some separator)
    (hneutral : separator.isNeutral = true) {ks : List (List Token)} (hks : Separated separator ks k)
    (hall : List.Forall₂ (fun a k => Wordsmith.Writes [a] k) as ks)
    (hfree : ∀ b ∈ as, .char mark ∉ b) (hcloser : closer.kind = s.closer) :
    Reads (arguments s separator) (k ++ [closer]) l (List.Forall₂ Passage.Writes · as) := by
  have hunbroken : ∀ k ∈ ks, Unbroken (some separator) [] k := by
    clear hks
    induction hall with
    | nil => simp
    | cons hfirst _ ih =>
      obtain ⟨hb, hfree⟩ := List.forall_mem_cons.1 hfree
      exact List.forall_mem_cons.2 ⟨hfirst.unbroken (.inr ⟨mark, _, hmark, rfl, hb⟩), ih hfree⟩
  have hreads : Reads (arguments s separator) (k ++ [closer]) l (List.Forall₂ Passage.Spells · ks) :=
    Scan.reads_arguments hs htable hneutral hunbroken hks hcloser
  exact hreads.weaken fun _ => (forall₂_of_forall₂ (fun _ _ _ hp hwrites => hwrites.trim hp) · hall)

namespace Bracket

theorem reads_readArguments (h : Wordsmith.Writes as k) (hfree : ∀ b ∈ as, .char ';' ∉ b)
    (hcloser : closer.kind = .rightSquare) :
    Reads readArguments (k ++ [closer]) l (List.Forall₂ Passage.Writes · as) := by
  obtain ⟨ks, hks, hall⟩ := h.separated
  exact Writes.reads_arguments Subroutine.isBracket_scope rfl rfl rfl hks hall hfree hcloser

/-- A colon behind a name, and arguments. -/
theorem reads_readCall_of_arguments {colon : Token} {P : List Passage → Prop}
    (hcolon : colon.kind = .colon) (h : Reads readArguments k l P) :
    Reads readCall (colon :: k) l P := by
  have hspace : Passage.isSpace colon = false := Writes.isSpace_of_kind hcolon (by decide)
  refine (reads_space (by simp [hspace])).passing fun _ _ => ?_
  refine (reads_take hcolon).token fun _ htaken => ?_
  subst htaken
  exact h

/-- Nothing behind a name but the closer. -/
theorem reads_readCall_closer {P : List Passage → Prop} (hcloser : closer.kind = .rightSquare)
    (h : P []) : Reads readCall [closer] l P := by
  have hspace : Passage.isSpace closer = false := Writes.isSpace_of_kind hcloser (by decide)
  refine (reads_space (by simp [hspace])).passing fun _ _ => ?_
  refine (reads_take_other (by simp [hcloser])).passing fun _ htaken => ?_
  subst htaken
  exact (reads_expect _ hcloser).done fun _ _ => .pure h

theorem reads_readCall (h : Listed as k) (hfree : ∀ b ∈ as, .char ';' ∉ b)
    (hcloser : closer.kind = .rightSquare) :
    Reads readCall (k ++ [closer]) l (List.Forall₂ Passage.Writes · as) := by
  cases h with
  | none => exact reads_readCall_closer hcloser .nil
  | some hcolon hwrites =>
    exact reads_readCall_of_arguments hcolon (reads_readArguments hwrites hfree hcloser)

/-! ## Tags, calls and definitions -/

variable {name dollar : Token}

theorem reads_nextKind_cons {t : Token} {kind : TokenKind} (ht : t.kind = kind) :
    Reads nextKind? [] (t :: k) (· = some kind) := by
  have hnext := reads_nextKind? (l := t :: k)
  rwa [List.head?_cons, Option.map_some, ht] at hnext

/-- A name that is no mark, and what stands behind it. -/
theorem reads_tag_of_call {P : List Passage → Prop} (hname : name.kind = .text)
    (h : Reads readCall k l P) :
    Reads (read readReplacement) (name :: k) l fun b => ∃ ps, b = .tag name ps ∧ P ps := by
  refine (reads_space (by simp [Passage.isSpace, hname])).passing fun _ _ => ?_
  refine (reads_take_other (by simp [hname])).passing fun _ h => ?_
  subst h
  refine (reads_take_other (by simp [hname])).passing fun _ h => ?_
  subst h
  refine (reads_nextKind_cons hname).passing fun _ h => ?_
  subst h
  refine (reads_expect _ hname).token fun _ ht => ?_
  subst ht
  exact h.done fun ps hps => .pure ⟨ps, rfl, hps⟩

theorem reads_tag (hname : name.kind = .text) (h : Listed as k) (hfree : ∀ b ∈ as, .char ';' ∉ b)
    (hcloser : closer.kind = .rightSquare) : Reads (read readReplacement)
      (name :: (k ++ [closer])) l
      fun b => ∃ ps, b = .tag name ps ∧ List.Forall₂ Passage.Writes ps as :=
  reads_tag_of_call hname (reads_readCall h hfree hcloser)

theorem reads_call (hdollar : dollar.kind = .dollar) (hname : name.kind = .text) (h : Listed as k)
    (hfree : ∀ b ∈ as, .char ';' ∉ b) (hcloser : closer.kind = .rightSquare) :
    Reads (read readReplacement) (dollar :: name :: (k ++ [closer])) l
      fun b => ∃ ps, b = .call name ps ∧ List.Forall₂ Passage.Writes ps as := by
  refine (reads_space (by simp [Passage.isSpace, hdollar])).passing fun _ _ => ?_
  refine (reads_take hdollar).token fun _ h => ?_
  subst h
  refine (reads_take_other (by simp [hname])).passing fun _ h => ?_
  subst h
  refine (reads_space (by simp [Passage.isSpace, hname])).passing fun _ _ => ?_
  refine (reads_nextKind_cons hname).passing fun _ h => ?_
  subst h
  refine (reads_expect _ hname).token fun _ ht => ?_
  subst ht
  exact (reads_readCall h hfree hcloser).done fun ps hps => .pure ⟨ps, rfl, hps⟩

/-- The parameters behind the name in a header. -/
theorem reads_readParameters {names : List String} (h : Listed (names.map .ofText) k)
    (hnames : ∀ p ∈ names, IsParameterName p) (hcloser : closer.kind = .rightSquare) :
    Reads Subroutine.readParameters (k ++ [closer]) l (· = names.map fun p => ⟨p, false⟩) := by
  have hfree : ∀ b ∈ names.map Phrase.ofText, .char ';' ∉ b := by
    intro b hb hmem
    obtain ⟨p, hp, rfl⟩ := List.mem_map.1 hb
    obtain ⟨c, hc, heq⟩ := List.mem_map.1 hmem
    exact ((hnames p hp).unmarked c hc).2 (Piece.char.inj heq)
  have hparameters : ∀ {names : List String} {ps : List Passage},
      (∀ p ∈ names, IsParameterName p) → List.Forall₂ Passage.Writes ps (names.map .ofText) →
      ps.filterMap Parameter.ofPassage? = names.map fun p => ⟨p, false⟩ := by
    intro names ps hnames hps
    induction names generalizing ps with
    | nil =>
      cases hps
      rfl
    | cons name names ih =>
      cases hps with
      | cons hp hps =>
        obtain ⟨hname, hnames⟩ := List.forall_mem_cons.1 hnames
        rw [List.filterMap_cons, hname.ofPassage?_eq hp, ih hnames hps, List.map_cons]
  generalize hrow : names.map Phrase.ofText = as at h
  cases h with
  | none =>
    obtain rfl : names = [] := List.map_eq_nil_iff.1 hrow
    refine (reads_take_other (by simp [hcloser])).passing fun _ h => ?_
    subst h
    exact (reads_expect _ hcloser).done fun _ _ => .pure rfl
  | some hcolon hwrites =>
    subst hrow
    refine (reads_take hcolon).token fun _ h => ?_
    subst h
    exact (reads_readArguments hwrites hfree hcloser).done fun ps hps =>
      .pure (hparameters hnames hps)

/-- A header, the colon behind it, and the blanks behind that. -/
theorem reads_readHeader {opener colon : Token} {names : List String} {blanks : List Token}
    (hopener : opener.kind = .leftSquare) (hname : name.kind = .text)
    (h : Listed (names.map .ofText) k) (hnames : ∀ p ∈ names, IsParameterName p)
    (hcloser : closer.kind = .rightSquare) (hcolon : colon.kind = .colon)
    (hblanks : ∀ t ∈ blanks, Passage.isSpace t = true)
    (hl : ∀ t ∈ l.head?, Passage.isSpace t = false) :
    Reads Subroutine.readHeader (opener :: name :: (k ++ [closer] ++ colon :: blanks)) l
      (· = (name.text, names.map fun p => ⟨p, false⟩)) := by
  have hspace : ∀ t ∈ (k ++ [closer] ++ colon :: blanks ++ l).head?, Passage.isSpace t = false := by
    simpa using h.isSpace_head hcloser (colon :: (blanks ++ l))
  refine (reads_space (by simp [Passage.isSpace, hopener])).passing fun _ _ => ?_
  refine (reads_expect _ hopener).token fun _ _ => ?_
  refine (reads_space (by simp [Passage.isSpace, hname])).passing fun _ _ => ?_
  refine (reads_expect _ hname).token fun _ ht => ?_
  subst ht
  refine (reads_space hspace).passing fun _ _ => ?_
  refine (reads_readParameters h hnames hcloser).bind fun _ hps => ?_
  subst hps
  refine (reads_takeLoose hcolon (Writes.isSpace_of_kind hcolon (by decide)) hblanks hl).done
    fun _ h => ?_
  subst h
  exact .pure rfl

/-- A definition from the dollar sign on. -/
theorem reads_definition {opener closer' colon : Token} {names : List String} {inner : List Token}
    (hdollar : dollar.kind = .dollar) (hopener : opener.kind = .leftSquare)
    (hname : name.kind = .text) (h : Listed (names.map .ofText) k)
    (hnames : ∀ p ∈ names, IsParameterName p) (hcloser' : closer'.kind = .rightSquare)
    (hcolon : colon.kind = .colon) (hinner : Wordsmith.Writes [a] inner)
    (hcloser : closer.kind = .rightSquare) : Reads (read readReplacement)
      (dollar :: opener :: name :: (k ++ [closer'] ++ colon :: (inner ++ [closer]))) l
      fun b => ∃ body : Passage,
        b = .definition false name.text (names.map fun p => ⟨p, false⟩) body ∧ body.Writes a := by
  -- The blanks in front of the body go with the colon.
  let blanks := inner.takeWhile Passage.isSpace
  let core := inner.dropWhile Passage.isSpace
  have hparts : blanks ++ core = inner := List.takeWhile_append_dropWhile
  have hblanks : ∀ t ∈ blanks, Passage.isSpace t = true := fun t ht => List.mem_takeWhile_imp ht
  have hnested : Nested [] core := by
    have hnested := hinner.nested
    rw [← hparts] at hnested
    exact hnested.of_append_left fun t ht => TokenKind.isNeutral_of_isSpace (hblanks t ht)
  have hcore : ∀ t ∈ (core ++ [closer] ++ l).head?, Passage.isSpace t = false := by
    intro t ht
    have hhead := List.head?_dropWhile_not Passage.isSpace inner
    cases hcore : core with
    | nil =>
      rw [hcore] at ht
      obtain rfl : closer = t := Option.some.inj ht
      exact Writes.isSpace_of_kind hcloser (by decide)
    | cons t' rest =>
      rw [hcore] at ht
      obtain rfl : t' = t := Option.some.inj ht
      have hsome : (inner.dropWhile Passage.isSpace).head? = some t' := congrArg List.head? hcore
      rw [hsome] at hhead
      exact hhead
  have htokens : dollar :: opener :: name :: (k ++ [closer'] ++ colon :: (inner ++ [closer])) =
      dollar :: (opener :: name :: (k ++ [closer'] ++ colon :: blanks) ++ (core ++ [closer])) := by
    rw [← hparts]
    simp
  rw [htokens]
  refine (reads_space (by simp [Passage.isSpace, hdollar])).passing fun _ _ => ?_
  refine (reads_take hdollar).token fun _ h => ?_
  subst h
  refine (reads_take_other (by simp [hopener])).passing fun _ h => ?_
  subst h
  refine (reads_space (by simp [Passage.isSpace, hopener])).passing fun _ _ => ?_
  refine (reads_nextKind_cons hopener).passing fun _ h => ?_
  subst h
  refine (reads_readHeader hopener hname h hnames hcloser' hcolon hblanks hcore).bind fun _ h => ?_
  subst h
  refine (reads_body Subroutine.isBracket_scope rfl hnested hcloser).done fun body hbody => ?_
  have hspells := hbody.prepend hblanks
  rw [hparts] at hspells
  exact .pure ⟨body, rfl, hinner.trim hspells⟩

end Bracket

end Wordsmith
