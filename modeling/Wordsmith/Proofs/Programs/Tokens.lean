import Wordsmith.Pattern
import Wordsmith.Proofs.Programs.Syntax
import Wordsmith.Proofs.Quoting

/-!
# Tokens of programs

The tokens of code are told by the code: a run of characters that stand for themselves becomes a row
of tokens that are printed as they are written, and every other piece becomes a row of tokens
between brackets.

Main result: `Phrase.IsSound.lexes`.
-/

namespace Wordsmith

open Lexer Text

/-! ## Symbols -/

/-- The character of a kind of symbols. -/
def TokenKind.mark : TokenKind → Char
  | leftSquare => '['
  | rightSquare => ']'
  | leftCurly => '\x7b'
  | rightCurly => '\x7d'
  | leftAngle => '<'
  | rightAngle => '>'
  | leftParen => '('
  | rightParen => ')'
  | pipe => '|'
  | semicolon => ';'
  | colon => ':'
  | .at => '@'
  | question => '?'
  | exclamation => '!'
  | dollar => '$'
  | _ => '-'

theorem TokenKind.mark_of_ofSymbol? {c : Char} {kind : TokenKind} (h : ofSymbol? c = some kind) :
    kind.mark = c := by
  unfold ofSymbol? at h
  split at h <;> cases h <;> rfl

theorem TokenKind.ofSymbol?_inj {c d : Char} {kind : TokenKind} (hc : ofSymbol? c = some kind)
    (hd : ofSymbol? d = some kind) : c = d :=
  (mark_of_ofSymbol? hc).symm.trans (mark_of_ofSymbol? hd)

/-- Some kinds are not those of a symbol of one character. -/
theorem TokenKind.ofSymbol?_ne (c : Char) {kind : TokenKind}
    (h : kind ∈ [.text, .whitespace, .doubleColon]) : ofSymbol? c ≠ some kind := by
  unfold ofSymbol?
  split <;> rintro ⟨⟩ <;> simp at h

/-! ## Which tokens write code -/

/-- The token is printed as it is written. -/
structure Token.IsPlain (t : Token) : Prop where
  kind : t.kind ∈ [.text, .whitespace, .pipe, .semicolon, .colon, .doubleColon, .at, .question,
    .exclamation, .dollar, .hyphen]
  ne : t.text ≠ ""
  blank : ∀ c ∈ t.text.toList, isBlank c = Passage.isSpace t
  symbol : ∀ c, TokenKind.ofSymbol? c = some t.kind → c ∈ t.text.toList

/-- The tokens write rows of code with semicolons between them. -/
inductive Writes : List Phrase → List Token → Prop
  | nil : Writes [[]] []
  | plain {t : Token} {a : Phrase} {others : List Phrase} {tokens : List Token} (ht : t.IsPlain)
    (h : Writes (a :: others) tokens) : Writes ((.ofText t.text ++ a) :: others) (t :: tokens)
  | argument {opener tag colon closer : Token} {parameter : String} {a : Phrase}
    {others : List Phrase} {inner tokens : List Token} (hopener : opener.kind = .leftSquare)
    (htag : tag.kind = .text) (hname : tag.text = "arg") (hcolon : colon.kind = .colon)
    (hinner : Writes [.ofText parameter] inner) (hcloser : closer.kind = .rightSquare)
    (h : Writes (a :: others) tokens) : Writes ((.argument parameter :: a) :: others)
      ([opener, tag, colon] ++ inner ++ [closer] ++ tokens)
  | callBare {opener dollar name closer : Token} {a : Phrase} {others : List Phrase}
    {tokens : List Token} (hopener : opener.kind = .leftSquare) (hdollar : dollar.kind = .dollar)
    (hname : name.kind = .text) (hcloser : closer.kind = .rightSquare)
    (h : Writes (a :: others) tokens) : Writes ((.call name.text [] :: a) :: others)
      ([opener, dollar, name, closer] ++ tokens)
  | call {opener dollar name colon closer : Token} {arguments : List Phrase} {a : Phrase}
    {others : List Phrase} {inner tokens : List Token} (hopener : opener.kind = .leftSquare)
    (hdollar : dollar.kind = .dollar) (hname : name.kind = .text) (hcolon : colon.kind = .colon)
    (hinner : Writes arguments inner) (hcloser : closer.kind = .rightSquare)
    (h : Writes (a :: others) tokens) : Writes ((.call name.text arguments :: a) :: others)
      ([opener, dollar, name, colon] ++ inner ++ [closer] ++ tokens)
  | separator {t : Token} {others : List Phrase} {tokens : List Token} (ht : t.kind = .semicolon)
    (h : Writes others tokens) : Writes ([] :: others) (t :: tokens)

/-- The tokens behind a name write what stands there: nothing, or a colon and a row of code. -/
inductive Listed : List Phrase → List Token → Prop
  | none : Listed [] []
  | some {colon : Token} {parts : List Phrase} {tokens : List Token} (hcolon : colon.kind = .colon)
    (h : Writes parts tokens) : Listed parts (colon :: tokens)

/-- The tokens write a definition. -/
inductive Definition.Writes (d : Definition) : List Token → Prop
  | mk {opener dollar opener' name closer' colon closer : Token} {header inner : List Token}
    (hopener : opener.kind = .leftSquare) (hdollar : dollar.kind = .dollar)
    (hopener' : opener'.kind = .leftSquare) (hname : name.kind = .text) (htext : name.text = d.name)
    (hheader : Listed (d.parameters.map .ofText) header) (hcloser' : closer'.kind = .rightSquare)
    (hcolon : colon.kind = .colon) (hinner : Wordsmith.Writes [d.body] inner)
    (hcloser : closer.kind = .rightSquare) :
    Writes d ([opener, dollar, opener', name] ++ header ++ [closer', colon] ++ inner ++ [closer])

/-- The tokens write a program. -/
inductive Program.Writes (P : Program) : List Token → Prop
  | mk {lines : List (List Token)} {last : List Token}
    (hlines : List.Forall₂ Definition.Writes P.definitions lines)
    (hlast : Wordsmith.Writes [P.main.trim] last) : Writes P (lines.flatten ++ last)

/-! ## Lines -/

namespace Lexer

/-- The characters become tokens that fulfil a condition, wherever they begin. -/
def Gives (cs : List Char) (Q : List Token → Prop) : Prop :=
  ∀ start, ∃ tokens, lexLine start cs = .ok tokens ∧ Q tokens

variable {cs rest text : List Char} {c : Char} {kind : TokenKind} {Q Q' : List Token → Prop}

namespace Gives

theorem nil (h : Q []) : Gives [] Q := fun start => ⟨[], lexLine_nil start, h⟩

theorem weaken (h : Gives cs Q) (hQ : ∀ tokens, Q tokens → Q' tokens) : Gives cs Q' := fun start =>
  have ⟨tokens, htokens, hq⟩ := h start
  ⟨tokens, htokens, hQ tokens hq⟩

/-- One token, and then the others. -/
theorem cons (hlexeme : lexeme c cs = .ok ⟨kind, text, rest⟩) (h : Gives rest Q) :
    Gives (c :: cs) fun tokens =>
      ∃ t l, tokens = t :: l ∧ t.kind = kind ∧ t.text = .ofList text ∧ Q l := fun start =>
  have ⟨tokens, htokens, hq⟩ := h (start.afterAll text)
  ⟨_, lexLine_of_lexeme hlexeme htokens, _, tokens, rfl, rfl, rfl, hq⟩

theorem symbol (hkind : TokenKind.ofSymbol? c = some kind) (hcolon : kind ≠ .colon)
    (h : Gives rest Q) : Gives (c :: rest) fun tokens =>
      ∃ t l, tokens = t :: l ∧ t.kind = kind ∧ t.text = .ofList [c] ∧ Q l :=
  cons (lexeme_symbol hkind hcolon) h

end Gives

theorem lexeme_colon (h : rest.head? ≠ some ':') : lexeme ':' rest = .ok ⟨.colon, [':'], rest⟩ := by
  cases rest with
  | nil => rfl
  | cons d rest =>
    have hd : d ≠ ':' := fun hd => h (congrArg some hd)
    unfold lexeme
    rw [if_neg (by decide), if_neg (by decide), if_neg (by decide), if_neg (by decide)]
    split
    · next hrest => exact absurd (List.cons.inj hrest).1 hd
    · next kind hkind _ =>
      cases hkind
      rfl
    · next hkind => cases hkind

theorem lexeme_doubleColon (rest : List Char) :
    lexeme ':' (':' :: rest) = .ok ⟨.doubleColon, [':', ':'], rest⟩ := rfl

theorem lexeme_blank (hc : isBlank c = true) :
    lexeme c rest = .ok ⟨.whitespace, c :: rest.takeWhile isBlank, rest.dropWhile isBlank⟩ := by
  have hne : ∀ d, isBlank d = false → c ≠ d := fun d hd hcd => by
    rw [hcd, hd] at hc
    cases hc
  unfold lexeme
  rw [if_neg (hne _ (by decide)), if_neg (hne _ (by decide)), if_neg (hne _ (by decide)), if_pos hc]

theorem lexeme_plain (hc : isPlain c = true) :
    lexeme c rest = .ok ⟨.text, c :: rest.takeWhile isPlain, rest.dropWhile isPlain⟩ := by
  simp only [isPlain, Bool.and_eq_true, Bool.not_eq_true', bne_iff_ne, Option.isNone_iff_eq_none]
    at hc
  obtain ⟨⟨⟨⟨hblank, hescape⟩, hquote⟩, hregex⟩, hsymbol⟩ := hc
  unfold lexeme
  rw [if_neg hescape, if_neg hquote, if_neg hregex, if_neg (by simp [hblank]), hsymbol]

end Lexer

/-! ## Characters that stand for themselves -/

theorem IsUnmarked.cases {c : Char} (h : IsUnmarked c) : isBlank c = true ∨ isPlain c = true ∨
    c = ':' ∨ ∃ kind, TokenKind.ofSymbol? c = some kind ∧
      kind ∈ [.pipe, .semicolon, .at, .question, .exclamation, .dollar, .hyphen] := by
  by_cases hblank : isBlank c = true
  · exact .inl hblank
  · refine .inr ?_
    simp only [IsUnmarked, List.mem_cons, List.not_mem_nil, or_false, not_or] at h
    obtain ⟨-, -, hescape, hquote, hregex, hbrackets⟩ := h
    cases hsymbol : TokenKind.ofSymbol? c with
    | none => exact .inl (by simp [isPlain, hblank, hescape, hquote, hregex, hsymbol])
    | some kind =>
      refine .inr ?_
      unfold TokenKind.ofSymbol? at hsymbol
      split at hsymbol <;> cases hsymbol <;> simp_all

namespace Phrase

variable {known : List Definition} {parameters : List String} {a b : Phrase}

theorem source_append (a b : Phrase) : source (a ++ b) = source a ++ source b := by
  induction a with
  | nil => simp [source]
  | cons x a ih => cases x <;> simp [source, ih]

theorem source_ofText (text : String) : source (ofText text) = text.toList := by
  have h : ∀ cs : List Char, source (cs.map .char) = cs := fun cs => by
    induction cs with
    | nil => rw [List.map_nil, source]
    | cons c cs ih => rw [List.map_cons, source, ih]
  exact h text.toList

namespace IsSound

theorem of_mem (h : IsSound known parameters a) {x : Piece} (hx : x ∈ a) :
    IsSound known parameters [x] := by
  induction h with
  | nil => cases hx
  | char hc _ ih =>
    rcases List.mem_cons.1 hx with rfl | hx
    · exact .char hc .nil
    · exact ih hx
  | argument hparameter _ ih =>
    rcases List.mem_cons.1 hx with rfl | hx
    · exact .argument hparameter .nil
    · exact ih hx
  | call hd hcount harguments hseparators hcolon _ _ ih =>
    rcases List.mem_cons.1 hx with rfl | hx
    · exact .call hd hcount harguments hseparators hcolon .nil
    · exact ih hx

theorem cons {x : Piece} (hx : IsSound known parameters [x]) (h : IsSound known parameters a) :
    IsSound known parameters (x :: a) := by
  cases hx with
  | char hc => exact .char hc h
  | argument hparameter => exact .argument hparameter h
  | call hd hcount harguments hseparators hcolon =>
    exact .call hd hcount harguments hseparators hcolon h

/-- A part of code that makes sense does so, too. -/
theorem subset (h : IsSound known parameters a) (hb : b ⊆ a) : IsSound known parameters b := by
  induction b with
  | nil => exact .nil
  | cons x b ih =>
    obtain ⟨hx, hb⟩ := List.cons_subset.1 hb
    exact .cons (h.of_mem hx) (ih hb)

theorem ofText {text : String} (h : ∀ c ∈ text.toList, IsUnmarked c) :
    IsSound known parameters (Phrase.ofText text) := by
  have hall : ∀ cs : List Char, (∀ c ∈ cs, IsUnmarked c) →
      IsSound known parameters (cs.map .char) := fun cs hcs => by
    induction cs with
    | nil => exact .nil
    | cons c cs ih =>
      obtain ⟨hc, hcs⟩ := List.forall_mem_cons.1 hcs
      exact .char hc (ih hcs)
  exact hall _ h

end IsSound

/-- A run of characters at the beginning of code. -/
theorem exists_run {p : Char → Bool} (hp : p '[' = false) (a : Phrase) {rest : List Char}
    (hrest : ∀ c ∈ rest.head?, p c = false) : ∃ (cs : List Char) (b : Phrase),
      a = cs.map .char ++ b ∧ (∀ c ∈ cs, p c = true) ∧ (a.source ++ rest).takeWhile p = cs ∧
        (a.source ++ rest).dropWhile p = b.source ++ rest := by
  have hnone : ∀ b : Phrase, (∀ c ∈ (b.source ++ rest).head?, p c = false) → ∃ cs b',
      b = cs.map .char ++ b' ∧ (∀ c ∈ cs, p c = true) ∧ (b.source ++ rest).takeWhile p = cs ∧
        (b.source ++ rest).dropWhile p = b'.source ++ rest := fun b hb =>
    ⟨[], b, rfl, nofun, run_append p [] fun _ => hb⟩
  induction a with
  | nil => exact hnone [] (by simpa [source] using hrest)
  | cons x a ih =>
    cases x with
    | char c =>
      by_cases hc : p c = true
      · obtain ⟨cs, b, rfl, hcs, htake, hdrop⟩ := ih
        refine ⟨c :: cs, b, rfl, List.forall_mem_cons.2 ⟨hc, hcs⟩, ?_, ?_⟩
        · rw [source, List.cons_append, List.takeWhile_cons_of_pos hc, htake]
        · rw [source, List.cons_append, List.dropWhile_cons_of_pos hc, hdrop]
      · exact hnone _ (by simpa [source] using hc)
    | argument parameter => exact hnone _ (by simpa [source] using hp)
    | call name arguments => exact hnone _ (by simpa [source] using hp)

end Phrase

/-! ## Pieces -/

theorem Writes.append {as bs : List Phrase} {k l : List Token} {t : Token} (h : Writes as k)
    (ht : t.kind = .semicolon) (h' : Writes bs l) : Writes (as ++ bs) (k ++ t :: l) := by
  induction h with
  | nil => exact .separator ht h'
  | plain hplain _ ih => exact .plain hplain ih
  | argument hopener htag hname hcolon hinner hcloser _ _ ih =>
    rw [List.append_assoc]
    exact .argument hopener htag hname hcolon hinner hcloser ih
  | callBare hopener hdollar hname hcloser _ ih => exact .callBare hopener hdollar hname hcloser ih
  | call hopener hdollar hname hcolon hinner hcloser _ _ ih =>
    rw [List.append_assoc]
    exact .call hopener hdollar hname hcolon hinner hcloser ih
  | separator hseparator _ ih => exact .separator hseparator ih

/-- Before the end of a line, of an argument or an item, or of a pair of brackets, the characters of
the code become tokens that write it. -/
def Phrase.Lexes (a : Phrase) : Prop :=
  ∀ (rest : List Char) (Q : List Token → Prop), (∀ c ∈ rest.head?, c ∈ [']', ';', '|', '\x7d']) →
    Gives rest Q → Gives (a.source ++ rest) fun tokens =>
      ∃ k l, tokens = k ++ l ∧ Writes [a] k ∧ Q l

namespace Phrase

variable {known : List Definition} {parameters : List String} {a b : Phrase} {as : List Phrase}
  {c : Char}

theorem lexes_nil : Lexes [] := fun rest Q _ h => by
  rw [source, List.nil_append]
  exact h.weaken fun tokens hQ => ⟨[], tokens, rfl, .nil, hQ⟩

theorem lexes_run {p : Char → Bool} {kind : TokenKind}
    (hlexeme : ∀ rest, lexeme c rest = .ok ⟨kind, c :: rest.takeWhile p, rest.dropWhile p⟩)
    (hp : ∀ d ∈ ['[', ']', ';', '|', '\x7d'], p d = false)
    (hplain : ∀ (t : Token) (cs : List Char), t.kind = kind → t.text = .ofList (c :: cs) →
      (∀ d ∈ cs, p d = true) → t.IsPlain)
    (ih : ∀ b : Phrase, b ⊆ a → b.source.length ≤ a.source.length → b.Lexes) :
    Lexes (.char c :: a) := by
  intro rest Q hrest h
  have hend : ∀ d ∈ rest.head?, p d = false := fun d hd =>
    hp _ (List.mem_cons_of_mem _ (hrest d hd))
  obtain ⟨cs, b, rfl, hcs, htake, hdrop⟩ := exists_run (hp _ (by simp)) a hend
  have hb : b.Lexes := ih b (List.subset_append_right ..) (by
    rw [source_append, List.length_append]
    omega)
  have hlexeme := hlexeme (source (cs.map .char ++ b) ++ rest)
  rw [htake, hdrop] at hlexeme
  rw [source, List.cons_append]
  refine (Gives.cons hlexeme (hb rest Q hrest h)).weaken ?_
  rintro _ ⟨t, _, rfl, hkind, htext, k, l, rfl, hk, hl⟩
  have hcode : Piece.char c :: (cs.map .char ++ b) = ofText t.text ++ b := by
    rw [ofText, htext, String.toList_ofList]
    rfl
  rw [hcode]
  exact ⟨t :: k, l, rfl, .plain (hplain t cs hkind htext hcs) hk, hl⟩

theorem lexes_blank (hc : isBlank c = true)
    (ih : ∀ b : Phrase, b ⊆ a → b.source.length ≤ a.source.length → b.Lexes) :
    Lexes (.char c :: a) := by
  refine lexes_run (fun rest => lexeme_blank hc) (by decide) (fun t cs hkind htext hcs => ?_) ih
  refine ⟨by simp [hkind], by simp [htext], fun d hd => ?_, fun d hd => ?_⟩
  · have hall : ∀ d ∈ c :: cs, isBlank d = true := List.forall_mem_cons.2 ⟨hc, hcs⟩
    rw [htext, String.toList_ofList] at hd
    rw [Passage.isSpace, hkind]
    exact hall d hd
  · exact absurd hd (by simp [hkind, TokenKind.ofSymbol?_ne])

theorem lexes_plain (hc : isPlain c = true)
    (ih : ∀ b : Phrase, b ⊆ a → b.source.length ≤ a.source.length → b.Lexes) :
    Lexes (.char c :: a) := by
  refine lexes_run (fun rest => lexeme_plain hc) (by decide) (fun t cs hkind htext hcs => ?_) ih
  refine ⟨by simp [hkind], by simp [htext], fun d hd => ?_, fun d hd => ?_⟩
  · have hall : ∀ d ∈ c :: cs, isPlain d = true := List.forall_mem_cons.2 ⟨hc, hcs⟩
    rw [htext, String.toList_ofList] at hd
    have hd := hall d hd
    simp only [isPlain, Bool.and_eq_true, Bool.not_eq_true'] at hd
    rw [Passage.isSpace, hkind]
    exact hd.1.1.1.1
  · exact absurd hd (by simp [hkind, TokenKind.ofSymbol?_ne])

theorem isBlank_of_ofSymbol? {kind : TokenKind} (h : TokenKind.ofSymbol? c = some kind) :
    isBlank c = false := by
  unfold TokenKind.ofSymbol? at h
  split at h <;> first | decide | cases h

theorem lexes_symbol {kind : TokenKind} (hkind : TokenKind.ofSymbol? c = some kind)
    (hmem : kind ∈ [.pipe, .semicolon, .at, .question, .exclamation, .dollar, .hyphen])
    (ha : a.Lexes) : Lexes (.char c :: a) := by
  intro rest Q hrest h
  have hcolon : kind ≠ .colon := fun hcolon => by
    rw [hcolon] at hmem
    simp at hmem
  rw [source, List.cons_append]
  refine (Gives.symbol hkind hcolon (ha rest Q hrest h)).weaken ?_
  rintro _ ⟨t, _, rfl, ht, htext, k, l, rfl, hk, hl⟩
  have hplain : t.IsPlain := by
    refine ⟨?_, by simp [htext], fun d hd => ?_, fun d hd => ?_⟩
    · rw [ht]
      simp only [List.mem_cons, List.not_mem_nil, or_false] at hmem
      rcases hmem with rfl | rfl | rfl | rfl | rfl | rfl | rfl <;> simp
    · obtain rfl : d = c := by simpa [htext] using hd
      rw [isBlank_of_ofSymbol? hkind, Passage.isSpace, ht]
      symm
      simp only [List.mem_cons, List.not_mem_nil, or_false] at hmem
      rcases hmem with rfl | rfl | rfl | rfl | rfl | rfl | rfl <;> rfl
    · rw [ht] at hd
      have hmark : d = c := TokenKind.ofSymbol?_inj hd hkind
      simp [htext, hmark]
  have hcode : Piece.char c :: a = ofText t.text ++ a := by simp [ofText, htext]
  rw [hcode]
  exact ⟨t :: k, l, rfl, .plain hplain hk, hl⟩

/-- Where a character begins the source of code and what is behind it, it is the first piece, unless
it is a bracket or stands behind. -/
theorem head?_source {rest : List Char} (hc : c ≠ '[') (hrest : ∀ d ∈ rest.head?, d ≠ c)
    (h : (a.source ++ rest).head? = some c) : ∃ b, a = .char c :: b := by
  cases a with
  | nil => exact absurd rfl (hrest c (by simpa [source] using h))
  | cons x a =>
    cases x with
    | char d => exact ⟨a, by simpa [source] using h⟩
    | argument parameter => exact absurd (by simpa [source] using h.symm) hc
    | call name arguments => exact absurd (by simpa [source] using h.symm) hc

theorem lexes_colon
    (ih : ∀ b : Phrase, b ⊆ a → b.source.length ≤ a.source.length → b.Lexes) :
    Lexes (.char ':' :: a) := by
  intro rest Q hrest h
  have hmark : ∀ d ∈ rest.head?, d ≠ ':' := fun d hd => by
    rintro rfl
    exact absurd (hrest _ hd) (by decide)
  rw [source, List.cons_append]
  by_cases hhead : (a.source ++ rest).head? = some ':'
  · obtain ⟨b, rfl⟩ := head?_source (by decide) hmark hhead
    have hb : Lexes b := ih b (List.subset_cons_self ..) (by simp [source])
    rw [source, List.cons_append]
    refine (Gives.cons (lexeme_doubleColon _) (hb rest Q hrest h)).weaken ?_
    rintro _ ⟨t, _, rfl, hkind, htext, k, l, rfl, hk, hl⟩
    have hcode : Piece.char ':' :: .char ':' :: b = ofText t.text ++ b := by simp [ofText, htext]
    have hplain : t.IsPlain :=
      ⟨by simp [hkind], by simp [htext], by simp [htext, Passage.isSpace, hkind]; decide,
        by simp [hkind, TokenKind.ofSymbol?_ne]⟩
    rw [hcode]
    exact ⟨t :: k, l, rfl, .plain hplain hk, hl⟩
  · have ha : a.Lexes := ih a (List.Subset.refl _) (Nat.le_refl _)
    refine (Gives.cons (lexeme_colon hhead) (ha rest Q hrest h)).weaken ?_
    rintro _ ⟨t, _, rfl, hkind, htext, k, l, rfl, hk, hl⟩
    have hcode : Piece.char ':' :: a = ofText t.text ++ a := by simp [ofText, htext]
    have hsymbol : ∀ d, TokenKind.ofSymbol? d = some t.kind → d ∈ t.text.toList := fun d hd => by
      rw [hkind] at hd
      have hmark : d = ':' := TokenKind.ofSymbol?_inj hd rfl
      simp [htext, hmark]
    have hplain : t.IsPlain :=
      ⟨by simp [hkind], by simp [htext], by simp [htext, Passage.isSpace, hkind]; decide, hsymbol⟩
    rw [hcode]
    exact ⟨t :: k, l, rfl, .plain hplain hk, hl⟩

/-- A name is one token before what is no part of it. -/
theorem lexeme_name {name : String} (hname : IsSubroutineName name) {rest : List Char}
    (hrest : ∀ d ∈ rest.head?, isPlain d = false) : ∃ c cs, name.toList = c :: cs ∧
      lexeme c (cs ++ rest) = .ok ⟨.text, name.toList, rest⟩ := by
  obtain ⟨c, cs, hcs⟩ := List.exists_cons_of_ne_nil (mt String.toList_eq_nil_iff.1 hname.ne)
  have hplain : ∀ d ∈ c :: cs, isPlain d = true := fun d hd => (hname.plain d (hcs ▸ hd)).1
  obtain ⟨hc, hrun⟩ := List.forall_mem_cons.1 hplain
  obtain ⟨htake, hdrop⟩ := run_append isPlain cs fun _ => hrest
  refine ⟨c, cs, hcs, ?_⟩
  rw [lexeme_plain hc, htake, hdrop, List.takeWhile_eq_self_iff.2 hrun,
    List.dropWhile_eq_nil_iff.2 hrun, List.nil_append, hcs]

theorem gives_name {name : String} (hname : IsSubroutineName name) {rest : List Char}
    (hrest : ∀ d ∈ rest.head?, isPlain d = false) {Q : List Token → Prop} (h : Gives rest Q) :
    Gives (name.toList ++ rest) fun tokens =>
      ∃ t l, tokens = t :: l ∧ t.kind = .text ∧ t.text = name ∧ Q l := by
  obtain ⟨c, cs, hcs, hlexeme⟩ := lexeme_name hname hrest
  have hgives := Gives.cons hlexeme h
  rw [String.ofList_toList, ← List.cons_append, ← hcs] at hgives
  exact hgives

/-- Rows of code with semicolons between them, before the closing bracket. -/
theorem gives_row (hlexes : ∀ b ∈ a :: as, b.Lexes) {rest : List Char} {Q : List Token → Prop}
    (hrest : ∀ d ∈ rest.head?, d = ']') (h : Gives rest Q) :
    Gives (List.intercalate [';'] ((a :: as).map source) ++ rest)
      fun tokens => ∃ k l, tokens = k ++ l ∧ Writes (a :: as) k ∧ Q l := by
  induction as generalizing a with
  | nil =>
    have ha : a.Lexes := hlexes a List.mem_cons_self
    simpa using ha rest Q (fun d hd => by simp [hrest d hd]) h
  | cons b as ih =>
    obtain ⟨ha, hlexes⟩ := List.forall_mem_cons.1 hlexes
    have hrow : List.intercalate [';'] ((a :: b :: as).map source) ++ rest =
        a.source ++ ';' :: (List.intercalate [';'] ((b :: as).map source) ++ rest) := by
      simp [List.intercalate]
    rw [hrow]
    refine (ha _ _ (by simp) (.symbol rfl (by decide) (ih hlexes))).weaken ?_
    rintro _ ⟨k, _, rfl, hk, t, _, rfl, hkind, -, k', l, rfl, hk', hl⟩
    exact ⟨k ++ t :: k', l, by simp, hk.append hkind hk', hl⟩

/-- Parts with semicolons between them begin with the first part. -/
theorem exists_intercalate_eq (part : List Char) (parts : List (List Char)) (rest : List Char)
    (hrest : ∀ d ∈ rest.head?, d ≠ ':') :
    ∃ rest', List.intercalate [';'] (part :: parts) ++ rest = part ++ rest' ∧
      ∀ d ∈ rest'.head?, d ≠ ':' := by
  cases parts with
  | nil => exact ⟨rest, by simp, hrest⟩
  | cons next parts =>
    exact ⟨';' :: (List.intercalate [';'] (next :: parts) ++ rest), by simp [List.intercalate],
      by simp⟩

/-- What stands behind a name, before the closing bracket. -/
theorem gives_listed (hlexes : ∀ b ∈ as, b.Lexes)
    (hcolon : ∀ b ∈ as.head?, b.head? ≠ some (.char ':')) {rest : List Char}
    {Q : List Token → Prop} (hrest : ∀ d ∈ rest.head?, d = ']') (h : Gives rest Q) :
    Gives (listed (as.map source) ++ rest)
      fun tokens => ∃ k l, tokens = k ++ l ∧ Listed as k ∧ Q l := by
  cases as with
  | nil => exact h.weaken fun tokens hQ => ⟨[], tokens, rfl, .none, hQ⟩
  | cons a as =>
    have hrow : listed ((a :: as).map source) ++ rest =
        ':' :: (List.intercalate [';'] ((a :: as).map source) ++ rest) := rfl
    have hhead : (List.intercalate [';'] ((a :: as).map source) ++ rest).head? ≠ some ':' := by
      intro hhead
      have hend : ∀ d ∈ rest.head?, d ≠ ':' := fun d hd => by
        rw [hrest d hd]
        decide
      obtain ⟨rest', hrest', hmark⟩ := exists_intercalate_eq a.source (as.map source) rest hend
      rw [List.map_cons] at hhead
      rw [hrest'] at hhead
      obtain ⟨b, rfl⟩ := head?_source (by decide) hmark hhead
      exact hcolon _ rfl rfl
    rw [hrow]
    refine (Gives.cons (lexeme_colon hhead) (gives_row hlexes hrest h)).weaken ?_
    rintro _ ⟨t, _, rfl, hkind, -, k, l, rfl, hk, hl⟩
    exact ⟨t :: k, l, rfl, .some hkind hk, hl⟩

theorem lexes_argument {parameter : String} (hname : IsParameterName parameter)
    (hparameter : (ofText parameter).Lexes) (ha : a.Lexes) : Lexes (.argument parameter :: a) := by
  intro rest Q hrest h
  have hsource : source (.argument parameter :: a) ++ rest = '[' :: ("arg".toList ++
      ':' :: ((ofText parameter).source ++ ']' :: (a.source ++ rest))) := by
    simp [source, source_ofText]
  have hhead : ((ofText parameter).source ++ ']' :: (a.source ++ rest)).head? ≠ some ':' := by
    rw [source_ofText]
    obtain ⟨c, cs, hcs⟩ := List.exists_cons_of_ne_nil (mt String.toList_eq_nil_iff.1 hname.ne)
    rw [hcs]
    exact fun hc => (hname.head c (by simp [hcs])).2.1 (by simpa using hc)
  have harg : IsSubroutineName "arg" := ⟨by decide, by decide⟩
  have hend : ∀ d ∈ (':' :: ((ofText parameter).source ++ ']' :: (a.source ++ rest))).head?,
      isPlain d = false := by
    simp only [List.head?_cons, Option.mem_some_iff, forall_eq']
    decide
  rw [hsource]
  refine (Gives.symbol rfl (by decide) (gives_name harg hend (.cons (lexeme_colon hhead)
    (hparameter _ _ (by simp) (.symbol rfl (by decide) (ha rest Q hrest h)))))).weaken ?_
  rintro _ ⟨opener, _, rfl, hopener, -, tag, _, rfl, htag, hname, colon, _, rfl, hcolon, -, inner,
    _, rfl, hinner, closer, _, rfl, hcloser, -, k, l, rfl, hk, hl⟩
  exact ⟨[opener, tag, colon] ++ inner ++ [closer] ++ k, l, by simp,
    .argument hopener htag hname hcolon hinner hcloser hk, hl⟩

theorem lexes_call {name : String} (hname : IsSubroutineName name) (hlexes : ∀ b ∈ as, b.Lexes)
    (hcolon : ∀ b ∈ as.head?, b.head? ≠ some (.char ':')) (ha : a.Lexes) :
    Lexes (.call name as :: a) := by
  intro rest Q hrest h
  have hsource : source (.call name as :: a) ++ rest = '[' :: '$' :: (name.toList ++
      (listed (as.map source) ++ ']' :: (a.source ++ rest))) := by
    simp [source]
  have hend : ∀ d ∈ (listed (as.map source) ++ ']' :: (a.source ++ rest)).head?,
      isPlain d = false := by
    cases as <;> simp only [listed, List.map_nil, List.map_cons, List.nil_append, List.cons_append,
      List.head?_cons, Option.mem_some_iff, forall_eq'] <;> decide
  rw [hsource]
  refine (Gives.symbol rfl (by decide) (.symbol rfl (by decide) (gives_name hname hend
    (gives_listed hlexes hcolon (by simp) (.symbol rfl (by decide)
      (ha rest Q hrest h)))))).weaken ?_
  rintro _ ⟨opener, _, rfl, hopener, -, dollar, _, rfl, hdollar, -, t, _, rfl, ht, rfl, inner, _,
    rfl, hinner, closer, _, rfl, hcloser, -, k, l, rfl, hk, hl⟩
  cases hinner with
  | none =>
    exact ⟨[opener, dollar, t, closer] ++ k, l, by simp, .callBare hopener hdollar ht hcloser hk,
      hl⟩
  | @some colon _ inner hcolon hinner =>
    exact ⟨[opener, dollar, t, colon] ++ inner ++ [closer] ++ k, l, by simp,
      .call hopener hdollar ht hcolon hinner hcloser hk, hl⟩

theorem length_le_intercalate {part : List Char} {parts : List (List Char)} (h : part ∈ parts) :
    part.length ≤ (List.intercalate [';'] parts).length := by
  induction parts with
  | nil => cases h
  | cons first parts ih =>
    cases parts with
    | nil => simp [List.mem_singleton.1 h]
    | cons second parts =>
      have hrow : List.intercalate [';'] (first :: second :: parts) =
          first ++ ';' :: List.intercalate [';'] (second :: parts) := by simp [List.intercalate]
      rw [hrow, List.length_append, List.length_cons]
      rcases List.mem_cons.1 h with rfl | h
      · omega
      · have := ih h
        omega

theorem length_source_lt (hb : b ∈ as) {name : String} :
    b.source.length < (source (.call name as :: a)).length := by
  have hrow : b.source.length ≤ (listed (as.map source)).length := by
    have hrow := length_le_intercalate (List.mem_map_of_mem (f := source) hb)
    cases as with
    | nil => cases hb
    | cons c as => exact Nat.le_succ_of_le hrow
  simp only [source, List.length_append, List.length_cons]
  omega

/-- The characters of code that makes sense become tokens that write it. -/
theorem IsSound.lexes (hknown : ∀ d ∈ known, IsSubroutineName d.name)
    (hparameters : ∀ p ∈ parameters, IsParameterName p) (h : IsSound known parameters a) :
    a.Lexes := by
  induction hn : a.source.length using Nat.strongRecOn generalizing a with
  | ind n ih =>
    subst hn
    have hbehind : ∀ {x : Piece} {b : Phrase}, a = x :: b → 0 < (source [x]).length →
        ∀ c : Phrase, c ⊆ b → c.source.length ≤ b.source.length → c.Lexes := by
      rintro x b rfl hx c hc hlength
      refine ih _ ?_ (h.subset (List.Subset.trans hc (List.subset_cons_self ..))) rfl
      have happend := congrArg List.length (source_append [x] b)
      rw [List.length_append, List.singleton_append] at happend
      omega
    cases h with
    | nil => exact lexes_nil
    | @char c b hc hb =>
      have hparts := hbehind rfl (by simp [source])
      rcases hc.cases with hblank | hplain | rfl | ⟨kind, hkind, hmem⟩
      · exact lexes_blank hblank hparts
      · exact lexes_plain hplain hparts
      · exact lexes_colon hparts
      · exact lexes_symbol hkind hmem (hparts b (List.Subset.refl _) (Nat.le_refl _))
    | @argument parameter b hparameter hb =>
      have hname := hparameters parameter hparameter
      refine lexes_argument hname (ih _ ?_ (.ofText fun c hc => (hname.unmarked c hc).1) rfl)
        (hbehind rfl (by simp [source]) b (List.Subset.refl _) (Nat.le_refl _))
      simp only [source, source_ofText, List.length_append, List.length_cons]
      omega
    | @call d arguments b hd hcount harguments hseparators hcolon hb =>
      refine lexes_call (hknown d hd) (fun c hc => ih _ ?_ (harguments c hc) rfl) hcolon
        (hbehind rfl (by simp [source]) b (List.Subset.refl _) (Nat.le_refl _))
      exact length_source_lt hc

end Phrase

end Wordsmith
