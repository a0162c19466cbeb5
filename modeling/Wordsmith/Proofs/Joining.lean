import Wordsmith.Proofs.Comments
import Wordsmith.Proofs.Programs.Tokens
import Wordsmith.Proofs.Scopes

/-!
# Lines side by side

Characters are cut into the same tokens whatever stands behind them, unless what stands behind goes
on with the last of these tokens. A blank goes on with blanks, a second colon with a colon, a double
quote with a constant, and a character of plain text with all of text, with the digits of an escape
and with a regular expression; no other character does. So a line that has been cut may be put in
front of such a character: its own tokens stay as they are, except for their places, and the blanks
that it had at its edges are tokens now.

Main result: `gives_source`.
-/

namespace Wordsmith

open Lexer Text

/-- The token without its place. -/
def Token.unplaced (t : Token) : TokenKind × String := (t.kind, t.text)

/-- The first tokens are the others, at other places and with white space around them. -/
inductive Pads : List Token → List Token → Prop
  | mk {lead core trail tokens : List Token}
    (hblanks : ∀ t ∈ lead ++ trail, Passage.isSpace t = true)
    (hcore : core.map Token.unplaced = tokens.map Token.unplaced) :
    Pads (lead ++ core ++ trail) tokens

namespace Lexer

variable {c d : Char} {cs more rest text blanks : List Char} {tokens : List Token}
  {Q : List Token → Prop}

/-! ## One token -/

/-- The character does not go on with a token that ends with no blank. -/
def Parts (c : Char) : Prop := isPlain c = false ∧ c ≠ '"' ∧ c ≠ ':'

instance (c : Char) : Decidable (Parts c) := inferInstanceAs (Decidable (_ ∧ _ ∧ _))

theorem parts_of_isBlank (h : isBlank c = true) : Parts c := by
  refine ⟨by simp [isPlain, h], ?_, ?_⟩ <;> rintro rfl <;> cases h

theorem isPlain_of_isDigit (h : isDigit c = true) : isPlain c = true := by
  have hdigits : ∀ n < 58, 48 ≤ n → isPlain (Char.ofNat n) = true := by decide
  obtain ⟨hlow, hhigh⟩ : '0' ≤ c ∧ c ≤ '9' := by simpa [isDigit] using h
  have hplain := hdigits c.toNat (Nat.lt_succ_of_le hhigh) hlow
  rwa [Char.ofNat_toNat] at hplain

theorem Parts.not_isDigit (h : Parts c) : isDigit c = false := by
  rw [← Bool.not_eq_true]
  exact fun hdigit => Bool.noConfusion (h.1.symm.trans (isPlain_of_isDigit hdigit))

theorem escapeBody_append_right (h : escapeBody cs = some (text, rest)) (more : List Char) :
    escapeBody (cs ++ more) = some (text, rest ++ more) := by
  unfold escapeBody at h
  split at h
  · next a b c d cs =>
    split at h
    · next hhex =>
      cases h
      exact if_pos hhex
    · cases h
  · cases h
  · next c cs _ hu =>
    split at h
    · cases h
    · next hblank =>
      cases h
      rw [List.cons_append]
      unfold escapeBody
      split
      · next heq => exact (hu (List.cons.inj heq).1).elim
      · next heq => exact (hu (List.cons.inj heq).1).elim
      · next heq =>
        obtain ⟨rfl, rfl⟩ := List.cons.inj heq
        exact if_neg hblank
      · next heq => cases heq
  · cases h

theorem escapeTail_append_right (h : escapeTail cs = some (text, rest))
    (hmore : ∀ d ∈ more.head?, Parts d) : escapeTail (cs ++ more) = some (text, rest ++ more) := by
  obtain ⟨htake, hdrop⟩ := run_append isDigit cs fun _ d hd => (hmore d hd).not_isDigit
  unfold escapeTail at h ⊢
  rw [htake, hdrop]
  split at h
  · next digits rest' hdigits hcomma =>
    obtain ⟨⟨body, r⟩, hbody, heq⟩ := Option.map_eq_some_iff.1 h
    cases heq
    simp [hdigits, hcomma, escapeBody_append_right hbody]
  · next hnone =>
    split
    · next digits rest' hdigits hcomma =>
      cases hend : cs.dropWhile isDigit with
      | nil =>
        rw [hend, List.nil_append] at hcomma
        exact absurd (hmore ',' (by rw [hcomma]; rfl)) (by decide)
      | cons d r =>
        rw [hend, List.cons_append] at hcomma
        obtain ⟨rfl, -⟩ := List.cons.inj hcomma
        exact absurd hend (hnone _ _ _ hdigits)
    · exact escapeBody_append_right h more

theorem constantTail_append_right (h : constantTail cs = some (text, rest))
    (hmore : ∀ d ∈ more.head?, Parts d) : constantTail (cs ++ more) = some (text, rest ++ more) := by
  fun_induction constantTail cs generalizing text rest with
  | case1 => cases h
  | case2 r ih =>
    obtain ⟨⟨t, r'⟩, ht, heq⟩ := Option.map_eq_some_iff.1 h
    cases heq
    simp [constantTail, ih ht]
  | case3 r hquote =>
    cases h
    rw [List.cons_append, constantTail]
    cases r with
    | nil =>
      exact fun r' hr' =>
        absurd rfl (hmore '"' (by rw [← List.nil_append more, hr']; rfl)).2.1
    | cons d r => exact fun r' hr' => hquote r (by rw [(List.cons.inj hr').1])
  | case4 c r hdoubled hc ih =>
    obtain ⟨⟨t, r'⟩, ht, heq⟩ := Option.map_eq_some_iff.1 h
    cases heq
    rw [List.cons_append, constantTail, ih ht]
    · rfl
    · exact fun _ h => (hc h).elim
    · exact hc

theorem regexTail_append_right (h : regexTail cs = some (text, rest))
    (hmore : ∀ d ∈ more.head?, Parts d) : regexTail (cs ++ more) = some (text, rest ++ more) := by
  fun_induction regexTail cs generalizing text rest with
  | case1 => cases h
  | case2 c r ih =>
    obtain ⟨⟨t, r'⟩, ht, heq⟩ := Option.map_eq_some_iff.1 h
    cases heq
    simp [regexTail, ih ht]
  | case3 r =>
    cases h
    rfl
  | case4 r hflag =>
    cases h
    rw [List.cons_append, regexTail]
    cases r with
    | nil =>
      exact fun r' hr' =>
        absurd (hmore 'i' (by rw [← List.nil_append more, hr']; rfl)) (by decide)
    | cons d r => exact fun r' hr' => hflag r (by rw [(List.cons.inj hr').1])
  | case5 c r hescape hflag hc ih =>
    obtain ⟨⟨t, r'⟩, ht, heq⟩ := Option.map_eq_some_iff.1 h
    cases heq
    -- a backslash at the end would hide nothing, but then no backtick is behind it
    have hne : c ≠ '\\' := by
      cases r with
      | nil => cases ht
      | cons d r => exact fun heq => hescape d r heq rfl
    rw [List.cons_append, regexTail, ih ht]
    · rfl
    · exact fun _ _ heq _ => hne heq
    · exact fun _ heq _ => hc heq
    · exact hc

/-- A token is cut off in the same way with more behind, unless that goes on with it. -/
theorem lexeme_append_right {l : Lexeme} (h : lexeme c rest = .ok l)
    (hlast : ∀ d ∈ (c :: rest).getLast?, isBlank d = false) (hmore : ∀ d ∈ more.head?, Parts d) :
    lexeme c (rest ++ more) = .ok ⟨l.kind, l.text, l.rest ++ more⟩ := by
  by_cases hescape : c = '\\'
  · subst hescape
    unfold lexeme at h ⊢
    rw [if_pos rfl] at h ⊢
    split at h
    · next htail =>
      cases h
      rw [escapeTail_append_right htail hmore]
    · cases h
  by_cases hquote : c = '"'
  · subst hquote
    unfold lexeme at h
    rw [if_neg hescape, if_pos rfl] at h
    split at h
    · next htail =>
      cases h
      exact lexeme_quote (constantTail_append_right htail hmore)
    · cases h
  by_cases hbacktick : c = '\x60'
  · subst hbacktick
    unfold lexeme at h ⊢
    rw [if_neg hescape, if_neg hquote, if_pos rfl] at h ⊢
    split at h
    · next htail =>
      cases h
      rw [regexTail_append_right htail hmore]
    · cases h
  by_cases hblank : isBlank c = true
  · -- the run of blanks ends before the characters do
    have hstop : rest.dropWhile isBlank ≠ [] := by
      intro hnil
      have hall := List.dropWhile_eq_nil_iff.1 hnil
      obtain ⟨d, hd⟩ := Option.isSome_iff_exists.1
        (List.getLast?_isSome.2 (List.cons_ne_nil c rest))
      have hd' : isBlank d = true := by
        rcases List.mem_cons.1 (List.mem_of_getLast? hd) with rfl | hmem
        · exact hblank
        · exact hall d hmem
      exact Bool.noConfusion ((hlast d hd).symm.trans hd')
    have hends : rest.dropWhile isBlank = [] → ∀ d ∈ more.head?, isBlank d = false := fun hnil =>
      absurd hnil hstop
    obtain ⟨htake, hdrop⟩ := run_append isBlank rest hends
    rw [lexeme_blank hblank] at h ⊢
    cases h
    rw [htake, hdrop]
  cases hkind : TokenKind.ofSymbol? c with
  | none =>
    have hplain : isPlain c = true := by simp [isPlain, hblank, hescape, hquote, hbacktick, hkind]
    obtain ⟨htake, hdrop⟩ := run_append isPlain rest fun _ d hd => (hmore d hd).1
    rw [lexeme_plain hplain] at h ⊢
    cases h
    rw [htake, hdrop]
  | some kind =>
    by_cases hcolon : kind = .colon
    · obtain rfl : c = ':' := TokenKind.ofSymbol?_inj hkind (hcolon ▸ rfl)
      cases rest with
      | nil =>
        cases h
        exact lexeme_colon fun hhead => (hmore ':' hhead).2.2 rfl
      | cons d rest =>
        by_cases hd : d = ':'
        · subst hd
          cases h
          rfl
        · have hhead : (d :: rest).head? ≠ some ':' := fun hhead => hd (Option.some.inj hhead)
          rw [lexeme_colon hhead] at h
          cases h
          exact lexeme_colon hhead
    · rw [lexeme_symbol hkind hcolon] at h ⊢
      cases h
      rfl

/-! ## Lines -/

/-- The tokens of a line without a blank at its end, before what does not go on with the last. -/
theorem gives_append {start : Position} (h : lexLine start cs = .ok tokens)
    (hlast : ∀ d ∈ cs.getLast?, isBlank d = false) (hrest : ∀ d ∈ rest.head?, Parts d)
    (hQ : Gives rest Q) : Gives (cs ++ rest) fun ts =>
      ∃ k l, ts = k ++ l ∧ k.map Token.unplaced = tokens.map Token.unplaced ∧ Q l := by
  fun_induction lexLine start cs generalizing tokens with
  | case1 =>
    cases h
    exact hQ.weaken fun l hl => ⟨[], l, rfl, rfl, hl⟩
  | case2 => cases h
  | case3 => cases h
  | case4 start c cs l hl others hothers ih =>
    cases h
    have hlexeme := lexeme_append_right hl hlast hrest
    rw [← lexeme_append hl] at hlast
    have hgives := ih hothers fun d hd => hlast d (List.mem_getLast?_append_of_mem_getLast? hd)
    refine (Gives.cons hlexeme hgives).weaken ?_
    rintro _ ⟨t, _, rfl, hkind, htext, k, l, rfl, hk, hl⟩
    exact ⟨t :: k, l, rfl, by simp [Token.unplaced, hkind, htext, hk], hl⟩

/-- A run of blanks becomes a token, unless it is empty. -/
theorem gives_blanks (hblanks : ∀ d ∈ blanks, isBlank d = true)
    (hrest : ∀ d ∈ rest.head?, isBlank d = false) (hQ : Gives rest Q) :
    Gives (blanks ++ rest) fun ts =>
      ∃ k l, ts = k ++ l ∧ (∀ t ∈ k, Passage.isSpace t = true) ∧ Q l := by
  cases blanks with
  | nil => exact hQ.weaken fun l hl => ⟨[], l, rfl, List.forall_mem_nil _, hl⟩
  | cons c blanks =>
    obtain ⟨hc, hblanks⟩ := List.forall_mem_cons.1 hblanks
    obtain ⟨htake, hdrop⟩ := run_append isBlank blanks fun _ => hrest
    have hlexeme : lexeme c (blanks ++ rest) = .ok ⟨.whitespace, c :: blanks, rest⟩ := by
      rw [lexeme_blank hc, htake, hdrop, List.takeWhile_eq_self_iff.2 hblanks,
        List.dropWhile_eq_nil_iff.2 hblanks, List.nil_append]
    refine (Gives.cons hlexeme hQ).weaken ?_
    rintro _ ⟨t, l, rfl, hkind, -, hl⟩
    refine ⟨[t], l, rfl, List.forall_mem_singleton.2 ?_, hl⟩
    rw [Passage.isSpace, hkind]
    rfl

theorem stripComment_of_notMem {quoting : Quoting} (h : '#' ∉ cs) :
    stripComment quoting cs = cs := by
  fun_induction stripComment quoting cs <;> simp_all

/-- A line without a number sign is what is significant of it, with blanks around it. -/
theorem exists_significant {line : List Char} (h : '#' ∉ line) : ∃ lead trail,
    line = lead ++ significant line ++ trail ∧ ∀ d ∈ lead ++ trail, isBlank d = true := by
  obtain ⟨lead, trail, hline, hblank⟩ := exists_blanks line
  obtain ⟨blanks, hblanks, hall⟩ := exists_append_dropCarriageReturn line
  have hnone : '#' ∉ dropCarriageReturn line := fun hmem =>
    h ((prefix_dropCarriageReturn line).subset hmem)
  have hkept : uncommented line = dropCarriageReturn line := stripComment_of_notMem hnone
  refine ⟨lead, trail ++ blanks, ?_, ?_⟩
  · rw [← List.append_assoc, ← hline, hkept, hblanks]
  · rw [← List.append_assoc]
    exact List.forall_mem_append.2 ⟨hblank, hall⟩

/-- The tokens of a line stand in a longer one, if what is behind does not go on with them. -/
theorem gives_source {source : String} (hbreak : '\n' ∉ source.toList) (hhash : '#' ∉ source.toList)
    (h : tokenize source = .ok tokens)
    (hrest : ∀ d ∈ rest.head?, Parts d ∧ isBlank d = false) (hQ : Gives rest Q) :
    Gives (source.toList ++ rest) fun ts => ∃ k l, ts = k ++ l ∧ Pads k tokens ∧ Q l := by
  obtain ⟨lead, trail, hline, hblank⟩ := exists_significant hhash
  obtain ⟨hlead, htrail⟩ := List.forall_mem_append.1 hblank
  rw [tokenize, pieces_of_notMem hbreak, lexLines_singleton, lexFullLine_eq] at h
  have hedges : (∀ d ∈ (significant source.toList).head?, isBlank d = false) ∧
      ∀ d ∈ (significant source.toList).getLast?, isBlank d = false := edges_trim isBlank _
  have hrest' : ∀ d ∈ rest.head?, isBlank d = false := fun d hd => (hrest d hd).2
  rw [hline]
  dsimp only at h
  generalize significant source.toList = core at h hedges
  obtain ⟨hhead, hlast⟩ := hedges
  cases core with
  | nil =>
    rw [lexLine_nil] at h
    cases h
    rw [List.append_nil]
    refine (gives_blanks hblank hrest' hQ).weaken ?_
    rintro _ ⟨k, l, rfl, hk, hl⟩
    have hpads : Pads (k ++ [] ++ []) [] := .mk (by simpa using hk) rfl
    exact ⟨k ++ [] ++ [], l, by simp, hpads, hl⟩
  | cons c core =>
    have hbehind : ∀ d ∈ (trail ++ rest).head?, Parts d := by
      intro d hd
      cases trail with
      | nil => exact (hrest d hd).1
      | cons t trail =>
        cases hd
        exact parts_of_isBlank (htrail _ List.mem_cons_self)
    have hcore := gives_append h hlast hbehind (gives_blanks htrail hrest' hQ)
    have hfront : Gives (lead ++ (c :: core ++ (trail ++ rest))) _ := gives_blanks hlead hhead hcore
    rw [List.append_assoc, List.append_assoc]
    refine hfront.weaken ?_
    rintro _ ⟨front, _, rfl, hfront, middle, _, rfl, hmiddle, back, l, rfl, hback, hl⟩
    exact ⟨front ++ middle ++ back, l, by simp,
      .mk (List.forall_mem_append.2 ⟨hfront, hback⟩) hmiddle, hl⟩

/-! ## Edges of rows -/

/-- A token that is white space, or text, is so throughout. -/
theorem lexeme_run {l : Lexeme} (h : lexeme c rest = .ok l) :
    (l.kind = .whitespace → ∀ d ∈ l.text, isBlank d = true) ∧
      (l.kind = .text → ∀ d ∈ l.text, isPlain d = true) := by
  unfold lexeme at h
  split at h
  · split at h <;> cases h
    exact ⟨by simp, by simp⟩
  split at h
  · split at h <;> cases h
    exact ⟨by simp, by simp⟩
  split at h
  · split at h <;> cases h
    exact ⟨by simp, by simp⟩
  split at h
  · next hblank =>
    cases h
    exact ⟨fun _ => List.forall_mem_cons.2 ⟨hblank, fun d hd => List.mem_takeWhile_imp hd⟩,
      by simp⟩
  next hescape hquote hbacktick hblank =>
  split at h
  · cases h
    exact ⟨by simp, by simp⟩
  · next kind hkind _ =>
    cases h
    have hne : ∀ k ∈ [TokenKind.text, .whitespace, .doubleColon], kind ≠ k := by
      rintro _ hk rfl
      exact TokenKind.ofSymbol?_ne c hk hkind
    exact ⟨fun hk => absurd hk (hne _ (by decide)), fun hk => absurd hk (hne _ (by decide))⟩
  · next hnone =>
    cases h
    have hplain : isPlain c = true := by simp [isPlain, hblank, hescape, hquote, hbacktick, hnone]
    exact ⟨by simp, fun _ => List.forall_mem_cons.2 ⟨hplain, fun d hd => List.mem_takeWhile_imp hd⟩⟩

/-- No white space stands at the edges of what a line is cut into. -/
theorem isSpace_edges {number offset : Nat} {line : List Char}
    (h : lexFullLine number offset line = .ok tokens) :
    (∀ t ∈ tokens.head?, Passage.isSpace t = false) ∧
      ∀ t ∈ tokens.getLast?, Passage.isSpace t = false := by
  have hrow := (row_lexFullLine h).flatMap_eq
  obtain ⟨hhead, hlast⟩ : (∀ d ∈ (significant line).head?, isBlank d = false) ∧
      ∀ d ∈ (significant line).getLast?, isBlank d = false := edges_trim isBlank _
  have hspace : ∀ t ∈ tokens, Passage.isSpace t = true →
      t.text.toList ≠ [] ∧ ∀ d ∈ t.text.toList, isBlank d = true := by
    intro t ht hspace
    obtain ⟨c, rest, l, hl, hkind, htext⟩ := exists_lexeme_of_lexLine h ht
    rw [htext, String.toList_ofList]
    exact ⟨lexeme_text_ne_nil hl, (lexeme_run hl).1 (hkind.symm.trans (eq_of_beq hspace))⟩
  rw [← hrow] at hhead hlast
  constructor
  · intro t ht
    obtain ⟨others, rfl⟩ := List.head?_eq_some_iff.1 ht
    rw [← Bool.not_eq_true]
    intro ht
    obtain ⟨hne, hblank⟩ := hspace t List.mem_cons_self ht
    obtain ⟨d, ds, hds⟩ := List.exists_cons_of_ne_nil hne
    have hd := hhead d (by simp [hds])
    exact Bool.noConfusion (hd.symm.trans (hblank d (by simp [hds])))
  · intro t ht
    obtain ⟨others, rfl⟩ := List.getLast?_eq_some_iff.1 ht
    rw [← Bool.not_eq_true]
    intro ht
    obtain ⟨hne, hblank⟩ := hspace t (by simp) ht
    have hd := hlast (t.text.toList.getLast hne) (by simp [List.getLast?_eq_some_getLast hne])
    exact Bool.noConfusion (hd.symm.trans (hblank _ (List.getLast_mem hne)))

end Lexer

end Wordsmith
