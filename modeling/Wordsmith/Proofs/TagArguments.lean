import Wordsmith.Proofs.Blocks.Syntax
import Wordsmith.Proofs.Joining
import Wordsmith.Proofs.Reach

/-!
# Arguments of a tag

The arguments of a tag are written one behind the other, with semicolons between them, and read
back from the tokens of the whole. This gives what was written, if each argument is a line by itself
in which brackets nest and no semicolon stands outside of them. For what is put around an argument
does not go on with its tokens (see `Parts`), the semicolons in its brackets do not end it, and the
blanks at its edges are taken off.

Only the colon behind the name is not safe. Together with a colon at the beginning of the first
argument it is one token, and then no arguments are read at all.

Main result: `readsBack_iff`.
-/

namespace Wordsmith

open Lexer Text

variable {waiting : List TokenKind} {separator : Option TokenKind} {k row tokens : List Token}

/-! ## Rows that are balanced -/

/-- Only the kinds of the tokens count. -/
theorem Unbroken.congr (h : Unbroken separator waiting tokens)
    (hkinds : k.map (·.kind) = tokens.map (·.kind)) : Unbroken separator waiting k := by
  induction h generalizing k with
  | nil =>
    rw [List.map_eq_nil_iff.1 hkinds]
    exact .nil
  | neutral hneutral hseparator _ ih =>
    obtain ⟨t, k, rfl, ht, hk⟩ := List.map_eq_cons_iff.1 hkinds
    exact .neutral (ht ▸ hneutral) (ht ▸ hseparator) (ih hk)
  | opener hopener _ ih =>
    obtain ⟨t, k, rfl, ht, hk⟩ := List.map_eq_cons_iff.1 hkinds
    exact .opener (ht ▸ hopener) (ih hk)
  | @closer _ u _ hcloser _ ih =>
    obtain ⟨t, k, rfl, ht, hk⟩ := List.map_eq_cons_iff.1 hkinds
    have hkind : t.kind = u.kind := ht
    rw [← hkind]
    exact .closer (hkind ▸ hcloser) (ih hk)

theorem Unbroken.of_isSpace (hseparator : separator ≠ some .whitespace)
    (h : ∀ t ∈ tokens, Passage.isSpace t = true) : Unbroken separator [] tokens := by
  induction tokens with
  | nil => exact .nil
  | cons t tokens ih =>
    obtain ⟨ht, htokens⟩ := List.forall_mem_cons.1 h
    have hkind : t.kind = .whitespace := eq_of_beq ht
    exact .neutral (TokenKind.isNeutral_of_isSpace ht) (fun _ => hkind ▸ hseparator) (ih htokens)

theorem Pads.unbroken (h : Pads k row) (hseparator : separator ≠ some .whitespace)
    (hrow : Unbroken separator [] row) : Unbroken separator [] k := by
  cases h with
  | mk hblanks hcore =>
    obtain ⟨hlead, htrail⟩ := List.forall_mem_append.1 hblanks
    have hkinds := congrArg (List.map Prod.fst) hcore
    rw [List.map_map, List.map_map] at hkinds
    exact ((Unbroken.of_isSpace hseparator hlead).append (hrow.congr hkinds)).append
      (.of_isSpace hseparator htrail)

namespace Scope

variable {s : Scope} (hall : s.table = .all)

include hall

theorem isNeutral_of_all {kind : TokenKind} (h : s.IsNeutral kind) : kind.isNeutral = true := by
  have hfree : ∀ pair ∈ BracketTable.all.pairs, kind ≠ pair.1 ∧ kind ≠ pair.2 := fun pair hpair =>
    h pair (List.mem_cons_of_mem _ (hall.symm ▸ hpair))
  clear h
  revert hfree
  cases kind <;> decide

namespace Balanced

variable (hs : (s.opener, s.closer) ∈ BracketTable.all.pairs)

include hs

theorem nested (h : s.Balanced tokens) : Nested [] tokens := by
  induction h with
  | nil => exact .nil
  | neutral ht _ ih => exact .neutral (isNeutral_of_all hall ht) ih
  | @pair w t inner rest hpair _ _ ihinner ihrest =>
    have hopener := closer?_of_mem hs hpair
    have hinner : Unbroken none [t.kind] (inner ++ [t]) :=
      .of_nested ihinner (TokenKind.isCloser_of_closer? hopener)
    have hbehind := (hinner.append (.of_none ihrest)).nested
    rw [List.append_assoc] at hbehind
    exact .opener hopener hbehind

/-- Balanced tokens are passed over, if no separator stands outside of all brackets. -/
theorem unbroken (h : s.Balanced tokens)
    (hunsplit : ∀ before t rest, tokens = before ++ t :: rest → s.Balanced before →
      separator ≠ some t.kind) : Unbroken separator [] tokens := by
  induction h with
  | nil => exact .nil
  | neutral ht _ ih =>
    refine .neutral (isNeutral_of_all hall ht) (fun _ => hunsplit [] _ _ rfl .nil) (ih ?_)
    exact fun before u rest htokens hbefore =>
      hunsplit (_ :: before) u rest (htokens ▸ rfl) (.neutral ht hbefore)
  | @pair w t inner rest hpair hinner _ _ ih =>
    have hopener := closer?_of_mem hs hpair
    have hinner' : Unbroken separator [t.kind] (inner ++ [t]) :=
      .of_nested (hinner.nested hall hs) (TokenKind.isCloser_of_closer? hopener)
    have hrest : Unbroken separator [] rest := ih fun before u others htokens hbefore =>
      hunsplit (w :: inner ++ t :: before) u others (by simp [htokens]) (.pair hpair hinner hbefore)
    have hbehind := hinner'.append hrest
    rw [List.append_assoc] at hbehind
    exact .opener hopener hbehind

end Balanced

end Scope

/-! ## Arguments as they are written -/

/-- The source is one line without a number sign, and these are its tokens. Brackets of all families
nest in them, and no semicolon stands outside of all brackets. -/
structure IsArgument (source : String) (row : List Token) : Prop where
  line : '\n' ∉ source.toList
  unmarked : '#' ∉ source.toList
  tokens : tokenize source = .ok row
  balanced : Subroutine.scope.Balanced row
  unsplit : ∀ before t rest, row = before ++ t :: rest → Subroutine.scope.Balanced before →
    t.kind ≠ .semicolon

instance (source : String) (row : List Token) : Decidable (IsArgument source row) :=
  decidable_of_iff ('\n' ∉ source.toList ∧ '#' ∉ source.toList ∧ tokenize source = .ok row ∧
    Subroutine.scope.through [] row = some [] ∧
    ∀ i < row.length, Subroutine.scope.through [] (row.take i) = some [] →
      row[i]?.map (·.kind) ≠ some .semicolon) <| by
  have hs : (Subroutine.scope.opener, Subroutine.scope.closer) ∈ BracketTable.all.pairs := by decide
  constructor
  · rintro ⟨hline, hmark, htokens, hbalanced, hunsplit⟩
    refine ⟨hline, hmark, htokens, (Scope.balanced_iff hs).2 hbalanced, ?_⟩
    rintro before t rest rfl hbefore hkind
    refine hunsplit before.length (by simp) ?_ (by simp [hkind])
    rw [List.take_left]
    exact (Scope.balanced_iff hs).1 hbefore
  · rintro ⟨hline, hmark, htokens, hbalanced, hunsplit⟩
    refine ⟨hline, hmark, htokens, (Scope.balanced_iff hs).1 hbalanced,
      fun i hi hbefore hkind => ?_⟩
    refine hunsplit (row.take i) row[i] (row.drop (i + 1)) ?_ ((Scope.balanced_iff hs).2 hbefore) ?_
    · rw [← List.drop_eq_getElem_cons hi, List.take_append_drop]
    · simpa [List.getElem?_eq_getElem hi] using hkind

/-- A row of tokens of which an argument is made that has the tokens of a row, but for their
places. -/
structure Yields (k row : List Token) : Prop where
  unbroken : Unbroken (some .semicolon) [] k
  spells : ∀ a : Passage, a.Spells k → a.tokens.map Token.unplaced = row.map Token.unplaced

/-- The code is read up to its end as a tag, from its opener on, and the tokens of the arguments are
those of the rows, but for their places. -/
def ReadsBack (code name : String) (rows : List (List Token)) : Prop :=
  ∀ title, ∃ p opener r t args r', Pattern.compile title code = .ok p ∧
    (Reader.ofPassage p.passage).read? = some (opener, r) ∧ opener.kind = .leftSquare ∧
    Bracket.read Bracket.readReplacement r = (.ok (.tag t args), r') ∧ r'.isEnd = true ∧
    t.text = name ∧
    List.Forall₂ (fun a row => a.tokens.map Token.unplaced = row.map Token.unplaced) args rows

namespace IsArgument

variable {source : String}

theorem isSpace_edges (h : IsArgument source row) : (∀ t ∈ row.head?, Passage.isSpace t = false) ∧
    ∀ t ∈ row.getLast?, Passage.isSpace t = false := by
  have htokens := h.tokens
  rw [tokenize, pieces_of_notMem h.line, lexLines_singleton] at htokens
  exact Lexer.isSpace_edges htokens

/-- The white space around a row is taken off, and no other. -/
theorem yields (h : IsArgument source row) (hk : Pads k row) : Yields k row := by
  refine ⟨hk.unbroken (by decide) ?_, fun a ha => ?_⟩
  · exact h.balanced.unbroken rfl (by decide) fun before t rest hrow hbefore heq =>
      h.unsplit before t rest hrow hbefore (Option.some.inj heq).symm
  cases hk with
  | mk hblanks hcore =>
    obtain ⟨lead, trail, hparts, hlead, htrail⟩ := ha.exists_blanks
    obtain ⟨hlead', htrail'⟩ := List.forall_mem_append.1 hblanks
    obtain ⟨hhead, hlast⟩ := h.isSpace_edges
    have hsame : ∀ {x y : Option Token}, x.map Token.unplaced = y.map Token.unplaced →
        (∀ t ∈ y, Passage.isSpace t = false) → ∀ t ∈ x, Passage.isSpace t = false := by
      rintro _ y heq hy t rfl
      obtain ⟨u, rfl, hu⟩ := Option.map_eq_some_iff.1 heq.symm
      have hkind : u.kind = t.kind := congrArg Prod.fst hu
      rw [Passage.isSpace, ← hkind]
      exact hy u rfl
    have hstarts := congrArg List.head? hcore
    have hends := congrArg List.getLast? hcore
    rw [List.head?_map, List.head?_map] at hstarts
    rw [List.getLast?_map, List.getLast?_map] at hends
    have htrim := trim_append hlead' htrail' (hsame hstarts hhead) (hsame hends hlast)
    rw [hparts, trim_append hlead htrail ha.trimmed.head ha.trimmed.last] at htrim
    rw [htrim, hcore]

end IsArgument

variable {rest : List Char} {Q : List Token → Prop} {sources : List String}
  {rows : List (List Token)} {source name : String}

/-- Sources with semicolons between them, before the closing bracket. -/
theorem gives_sources (h : List.Forall₂ IsArgument (source :: sources) rows)
    (hrest : ∀ d ∈ rest.head?, d = ']') (hQ : Gives rest Q) :
    Gives (List.intercalate [';'] ((source :: sources).map String.toList) ++ rest)
      fun tokens => ∃ ks k l, tokens = k ++ l ∧ Separated .semicolon ks k ∧
        List.Forall₂ Yields ks rows ∧ Q l := by
  induction sources generalizing source rows with
  | nil =>
    cases h with
    | cons hfirst hnone =>
      cases hnone
      have hsingle : List.intercalate [';'] ([source].map String.toList) = source.toList := by simp
      have hclose : ∀ d ∈ rest.head?, Parts d ∧ isBlank d = false := fun d hd => by
        rw [hrest d hd]
        decide
      rw [hsingle]
      exact (gives_source hfirst.line hfirst.unmarked hfirst.tokens hclose hQ).weaken
        fun _ ⟨k, l, htokens, hk, hl⟩ =>
          ⟨[k], k, l, htokens, .single k, .cons (hfirst.yields hk) .nil, hl⟩
  | cons next sources ih =>
    cases h with
    | cons hfirst hothers =>
      have hrow : List.intercalate [';'] ((source :: next :: sources).map String.toList) ++ rest =
          source.toList ++ ';' ::
            (List.intercalate [';'] ((next :: sources).map String.toList) ++ rest) := by
        simp [List.intercalate]
      have hmark : ∀ (cs : List Char), ∀ d ∈ (';' :: cs).head?, Parts d ∧ isBlank d = false := by
        rintro cs _ ⟨⟩
        decide
      rw [hrow]
      refine (gives_source hfirst.line hfirst.unmarked hfirst.tokens (hmark _)
        (.symbol rfl (by decide) (ih hothers))).weaken ?_
      rintro _ ⟨k, _, rfl, hk, t, _, rfl, ht, -, ks, k', l, rfl, hks, hall, hl⟩
      exact ⟨k :: ks, k ++ t :: k', l, by simp, .cons ht hks, .cons (hfirst.yields hk) hall, hl⟩

/-- What is one text token is a name. -/
theorem IsSubroutineName.of_tokenize {position : Position}
    (h : tokenize name = .ok [⟨.text, name, position⟩]) : IsSubroutineName name := by
  have hmem : (⟨.text, name, position⟩ : Token) ∈ [(⟨.text, name, position⟩ : Token)] :=
    List.mem_singleton_self _
  refine ⟨text_ne_of_lexLines h hmem, fun c hc => ⟨?_, ?_⟩⟩
  · obtain ⟨d, cs, l, hl, hkind, htext⟩ := exists_lexeme_of_lexLines h hmem
    have hname : name = .ofList l.text := htext
    rw [hname, String.toList_ofList] at hc
    exact (lexeme_run hl).2 hkind.symm c hc
  · rintro rfl
    rcases hash_of_lexLines h hmem hc with hkind | ⟨e, he, hmark, -⟩
    · exact absurd hkind (by simp)
    · rw [List.mem_singleton.1 he] at hmark
      cases hmark.1

/-! ## Reading -/

section

open Scan

variable {colon closer t : Token} {l : List Token} {ks : List (List Token)}

/-- The tokens are those of a tag with rows as arguments. -/
inductive SpellsTag (name : String) (rows : List (List Token)) : List Token → Prop
  | mk {opener t : Token} {inner : List Token} (hopener : opener.kind = .leftSquare)
    (hname : t.kind = .text) (htext : t.text = name) (hinner : Reads Bracket.readCall inner []
      (List.Forall₂ (fun a row => a.tokens.map Token.unplaced = row.map Token.unplaced) · rows)) :
    SpellsTag name rows (opener :: t :: inner)

theorem readsBack_of_tokenize {code : String} (h : tokenize code = .ok tokens)
    (htokens : SpellsTag name rows tokens) : ReadsBack code name rows := by
  intro title
  obtain ⟨p, hp, hrow⟩ := Pattern.exists_compile h title
  cases htokens with
  | @mk opener t inner hopener hname htext hinner =>
    obtain ⟨hread, hrest⟩ := Reader.read?_of_rest (Nat.le_refl _)
      ((Reader.rest_ofPassage p.passage).trans (p.tokens_passage.trans hrow))
    have hnext : (Reader.ofPassage p.passage).next.passage.start ≤
        (Reader.ofPassage p.passage).next.index := Nat.le_succ _
    rw [← List.append_nil (t :: inner)] at hrest
    obtain ⟨_, r', htag, ⟨args, rfl, hargs⟩, -, hle, hend⟩ :=
      (Bracket.reads_tag_of_call hname hinner).exists_reader hnext hrest
    refine ⟨p, opener, _, t, args, r', hp, hread, hopener, htag, ?_, htext, hargs⟩
    rw [Reader.isEnd, ← Reader.head?_rest hle, hend]
    rfl

/-- A colon behind a name, and rows of tokens with semicolons between them. -/
theorem Bracket.reads_readCall_of_rows (hcolon : colon.kind = .colon)
    (hks : Separated .semicolon ks k) (hall : List.Forall₂ Yields ks rows)
    (hcloser : closer.kind = .rightSquare) : Reads readCall (colon :: (k ++ [closer])) l
      (List.Forall₂ (fun a row => a.tokens.map Token.unplaced = row.map Token.unplaced) · rows) := by
  have hunbroken : ∀ k ∈ ks, Unbroken (some .semicolon) [] k :=
    forall_of_forall₂ (fun _ _ h => h.unbroken) hall
  have hreads : Reads readArguments (k ++ [closer]) l (List.Forall₂ Passage.Spells · ks) :=
    Scan.reads_arguments Subroutine.isBracket_scope rfl rfl hunbroken hks hcloser
  refine (reads_readCall_of_arguments hcolon hreads).weaken fun args hargs => ?_
  exact forall₂_of_forall₂ (fun a _ _ ha hrow => hrow.spells a ha) hargs hall.flip

/-- Two colons are one token, and this cannot stand behind a name. -/
theorem Bracket.fails_doubleColon {doubleColon : Token} (hname : t.kind = .text)
    (hkind : doubleColon.kind = .doubleColon) :
    Fails (read readReplacement) (t :: doubleColon :: l) := by
  have hspace : Passage.isSpace doubleColon = false := Writes.isSpace_of_kind hkind (by decide)
  refine (reads_space (by simp [Passage.isSpace, hname])).passing_fails fun _ _ => ?_
  refine (reads_take_other (by simp [hname])).passing_fails fun _ h => ?_
  subst h
  refine (reads_take_other (by simp [hname])).passing_fails fun _ h => ?_
  subst h
  refine (reads_nextKind_cons hname).passing_fails fun _ h => ?_
  subst h
  refine (reads_expect _ hname).token_fails fun _ ht => ?_
  subst ht
  refine Fails.bind ?_ _
  refine (reads_space (by simp [hspace])).passing_fails fun _ _ => ?_
  refine (reads_take_other (by simp [hkind])).passing_fails fun _ h => ?_
  subst h
  exact (fails_expect _ (by simp [hkind])).bind _

end

/-! ## Tags -/

/-- The characters of a tag become its tokens, unless two colons meet. -/
theorem gives_tagSource (hname : IsSubroutineName name) (h : List.Forall₂ IsArgument sources rows)
    (hcolon : ∀ source ∈ sources.head?, source.toList.head? ≠ some ':') :
    Gives (tagSource name sources) (SpellsTag name rows) := by
  have hclose : Gives [']'] fun tokens => ∃ t l, tokens = t :: l ∧ t.kind = .rightSquare ∧
      t.text = .ofList [']'] ∧ l = [] := .symbol rfl (by decide) (.nil rfl)
  cases h with
  | nil =>
    have hend : ∀ d ∈ [']'].head?, isPlain d = false := by decide
    refine (Gives.symbol rfl (by decide) (Phrase.gives_name hname hend hclose)).weaken ?_
    rintro _ ⟨opener, _, rfl, hopener, -, t, _, rfl, hkind, htext, closer, _, rfl, hcloser, -, rfl⟩
    exact .mk hopener hkind htext (Bracket.reads_readCall_closer hcloser .nil)
  | @cons source row sources rows hfirst hothers =>
    have hend : ∀ (cs : List Char), ∀ d ∈ (':' :: cs).head?, isPlain d = false := by
      rintro cs _ ⟨⟩
      decide
    obtain ⟨behind, hbehind, hmark⟩ := Phrase.exists_intercalate_eq source.toList
      (sources.map String.toList) [']'] (by decide)
    rw [← List.map_cons] at hbehind
    have hhead : (List.intercalate [';'] ((source :: sources).map String.toList) ++ [']']).head? ≠
        some ':' := by
      rw [hbehind]
      intro hhead
      cases hsource : source.toList with
      | nil =>
        rw [hsource] at hhead
        exact hmark ':' hhead rfl
      | cons c cs =>
        rw [hsource] at hhead
        exact hcolon source rfl (by rw [hsource]; exact hhead)
    have hsource : tagSource name (source :: sources) = '[' :: (name.toList ++
        ':' :: (List.intercalate [';'] ((source :: sources).map String.toList) ++ [']'])) := rfl
    rw [hsource]
    refine (Gives.symbol rfl (by decide) (Phrase.gives_name hname (hend _)
      (.cons (lexeme_colon hhead) (gives_sources (.cons hfirst hothers) (by simp)
        hclose)))).weaken ?_
    rintro _ ⟨opener, _, rfl, hopener, -, t, _, rfl, hkind, htext, colon, _, rfl, hcolon, -, ks, k,
      _, rfl, hks, hall, closer, _, rfl, hcloser, -, rfl⟩
    exact .mk hopener hkind htext (Bracket.reads_readCall_of_rows hcolon hks hall hcloser)

theorem tokenize_tagSource (hname : IsSubroutineName name) (h : ∀ source ∈ sources,
    '\n' ∉ source.toList ∧ '#' ∉ source.toList) :
    tokenize (.ofList (tagSource name sources)) = lexLine ⟨1, 1, 0⟩ (tagSource name sources) := by
  have hall : ∀ c ∈ tagSource name sources, c ≠ '\n' ∧ c ≠ '#' := by
    refine forall_mem_tagSource (by decide) (fun c hc => ⟨?_, (hname.plain c hc).2⟩)
      fun a ha c hc => ?_
    · rintro rfl
      exact absurd (hname.plain _ hc).1 (by decide)
    · exact ⟨fun heq => (h a ha).1 (heq ▸ hc), fun heq => (h a ha).2 (heq ▸ hc)⟩
  have hends : tagSource name sources =
      '[' :: (name.toList ++ Phrase.listed (sources.map String.toList)) ++ [']'] := by
    simp [tagSource]
  have hchars : (String.ofList (tagSource name sources)).toList = tagSource name sources :=
    String.toList_ofList
  have hline := @tokenize_line (.ofList (tagSource name sources))
  rw [hchars] at hline
  refine hline (fun hmem => (hall _ hmem).1 rfl) ?_ ?_ ?_
  · exact stripComment_of_notMem fun hmem => (hall _ hmem).2 rfl
  · rintro _ ⟨⟩
    decide
  · rw [hends, List.getLast?_concat]
    rintro _ ⟨⟩
    decide

/-- Behind a name, two colons are one token. -/
theorem exists_doubleColon (hname : IsSubroutineName name) {start : Position} {cs : List Char}
    (h : lexLine start ('[' :: (name.toList ++ ':' :: ':' :: cs)) = .ok tokens) :
    ∃ opener t doubleColon l, tokens = opener :: t :: doubleColon :: l ∧ t.kind = .text ∧
      doubleColon.kind = .doubleColon := by
  have hend : ∀ d ∈ (':' :: ':' :: cs).head?, isPlain d = false := by
    rintro _ ⟨⟩
    decide
  obtain ⟨c, others, hothers, hlexeme⟩ := Phrase.lexeme_name hname hend
  rw [hothers, List.cons_append] at h
  obtain ⟨_, hinner, rfl⟩ := exists_of_lexLine h (lexeme_symbol rfl (by decide))
  obtain ⟨_, hbehind, rfl⟩ := exists_of_lexLine hinner hlexeme
  obtain ⟨l, -, rfl⟩ := exists_of_lexLine hbehind (lexeme_doubleColon cs)
  exact ⟨_, _, _, l, rfl, rfl, rfl⟩

section

variable (hname : IsSubroutineName name) (h : List.Forall₂ IsArgument sources rows)

include hname h

theorem tokenize_arguments :
    tokenize (.ofList (tagSource name sources)) = lexLine ⟨1, 1, 0⟩ (tagSource name sources) :=
  tokenize_tagSource hname (forall_of_forall₂ (fun _ _ h => ⟨h.line, h.unmarked⟩) h)

theorem readsBack_of_head? (hcolon : ∀ source ∈ sources.head?, source.toList.head? ≠ some ':') :
    ReadsBack (.ofList (tagSource name sources)) name rows := by
  obtain ⟨tokens, htokens, htag⟩ := gives_tagSource hname h hcolon ⟨1, 1, 0⟩
  exact readsBack_of_tokenize ((tokenize_arguments hname h).trans htokens) htag

/-- Where the two colons meet, the name is followed by neither arguments nor the closer. -/
theorem not_readsBack (hsource : sources.head? = some source)
    (hcolon : source.toList.head? = some ':') :
    ¬ReadsBack (.ofList (tagSource name sources)) name rows := by
  intro hback
  have hline := tokenize_arguments hname h
  obtain ⟨others, rfl⟩ := List.head?_eq_some_iff.1 hsource
  obtain ⟨cs, hcs⟩ := List.head?_eq_some_iff.1 hcolon
  obtain ⟨p, opener, r, t, args, r', hcompile, hread, -, htag, -⟩ := hback ""
  obtain ⟨behind, hbehind, -⟩ := Phrase.exists_intercalate_eq source.toList
    (others.map String.toList) [']'] (by decide)
  have hchars : tagSource name (source :: others) =
      '[' :: (name.toList ++ ':' :: ':' :: (cs ++ behind)) := by
    have hfirst : ':' :: (cs ++ behind) = source.toList ++ behind := by rw [hcs, List.cons_append]
    rw [hfirst, ← hbehind]
    rfl
  cases htokens : tokenize (.ofList (tagSource name (source :: others))) with
  | error e => cases hcompile.symm.trans (Pattern.compile_of_error htokens "")
  | ok tokens =>
    obtain ⟨q, hq, hrow⟩ := Pattern.exists_compile htokens ""
    obtain rfl : p = q := Except.ok.inj (hcompile.symm.trans hq)
    rw [hline, hchars] at htokens
    obtain ⟨opener', t', doubleColon, l, rfl, ht, hkind⟩ := exists_doubleColon hname htokens
    obtain ⟨hread', hrest⟩ := Reader.read?_of_rest (Nat.le_refl _)
      ((Reader.rest_ofPassage p.passage).trans (p.tokens_passage.trans hrow))
    obtain ⟨-, rfl⟩ := Prod.mk.inj (Option.some.inj (hread.symm.trans hread'))
    obtain ⟨e, r₁, herror⟩ := (Bracket.fails_doubleColon ht hkind).from_rest _ (Nat.le_succ _) hrest
    cases herror.symm.trans htag

end

/-- The arguments of a tag are read back as they are written, if the first of them does not begin
with a colon, and only then. -/
theorem readsBack_iff (name : String) (position : Position)
    (hname : tokenize name = .ok [⟨.text, name, position⟩]) (sources : List String)
    (rows : List (List Token)) (h : List.Forall₂ IsArgument sources rows) :
    ReadsBack (.ofList (tagSource name sources)) name rows ↔
      ∀ source ∈ sources.head?, source.toList.head? ≠ some ':' := by
  have hname := IsSubroutineName.of_tokenize hname
  constructor
  · exact fun hback source hsource hcolon => not_readsBack hname h hsource hcolon hback
  · exact readsBack_of_head? hname h

/-- Blanks at the edges, an escape before a semicolon, a regular expression, a semicolon in
brackets, a colon that is not the first, and nothing at all. -/
theorem readsBack_seams : ReadsBack
    (.ofList (tagSource "tag" [" :a\t", "\\3", "\x60b\x60", "<(;)>", ":", ""])) "tag"
    [[⟨.colon, ":", ⟨1, 2, 1⟩⟩, ⟨.text, "a", ⟨1, 3, 2⟩⟩], [⟨.escape, "\\3", ⟨1, 1, 0⟩⟩],
      [⟨.regex, "\x60b\x60", ⟨1, 1, 0⟩⟩], [⟨.leftAngle, "<", ⟨1, 1, 0⟩⟩,
        ⟨.leftParen, "(", ⟨1, 2, 1⟩⟩, ⟨.semicolon, ";", ⟨1, 3, 2⟩⟩, ⟨.rightParen, ")", ⟨1, 4, 3⟩⟩,
        ⟨.rightAngle, ">", ⟨1, 5, 4⟩⟩], [⟨.colon, ":", ⟨1, 1, 0⟩⟩], []] := by
  refine (readsBack_iff "tag" ⟨1, 1, 0⟩ (by decide +kernel) _ _ ?_).2 (by decide)
  exact .cons (by decide +kernel) <| .cons (by decide +kernel) <| .cons (by decide +kernel) <|
    .cons (by decide +kernel) <| .cons (by decide +kernel) <| .cons (by decide +kernel) .nil

/-- An argument that begins with a colon cannot be the first. -/
theorem not_readsBack_colon :
    let row : List Token := [⟨.colon, ":", ⟨1, 1, 0⟩⟩, ⟨.text, "x", ⟨1, 2, 1⟩⟩]
    tokenize "a" = .ok [⟨.text, "a", ⟨1, 1, 0⟩⟩] ∧ IsArgument ":x" row ∧
      ¬ReadsBack "[a::x]" "a" [row] := by
  intro row
  have hrow : IsArgument ":x" row := by decide +kernel
  have hname : tokenize "a" = .ok [⟨.text, "a", ⟨1, 1, 0⟩⟩] := by decide +kernel
  have hcode : String.ofList (tagSource "a" [":x"]) = "[a::x]" := by decide +kernel
  refine ⟨hname, hrow, ?_⟩
  rw [← hcode]
  exact not_readsBack (.of_tokenize hname) (.cons hrow .nil) rfl rfl

end Wordsmith
