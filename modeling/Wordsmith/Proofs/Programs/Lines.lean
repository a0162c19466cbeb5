import Mathlib.Data.List.DropRight
import Wordsmith.Proofs.Programs.Tokens

/-!
# Lines of programs

A program has a line for each of its definitions, and a last line for its text. No line contains a
quotation or a comment, so its tokens are those of the characters between the blanks at its edges.

Main result: `Program.IsSound.tokenize_source`.
-/

namespace Wordsmith

open Lexer Text

namespace Phrase

/-! ## Blanks at the edges -/

theorem source_dropWhile (a : Phrase) :
    source (a.dropWhile Piece.isBlank) = a.source.dropWhile isBlank := by
  induction a with
  | nil => simp [source]
  | cons x a ih =>
    have hbracket : isBlank '[' = false := by decide
    cases x with
    | char c => cases hc : isBlank c <;> simp [source, Piece.isBlank, hc, ih]
    | argument parameter => simp [source, Piece.isBlank, hbracket]
    | call name arguments => simp [source, Piece.isBlank, hbracket]

theorem source_rdropWhile (a : Phrase) :
    source (a.rdropWhile Piece.isBlank) = a.source.rdropWhile isBlank := by
  induction a using List.reverseRecOn with
  | nil => simp [source]
  | append_singleton a x ih =>
    have hend : x.isBlank = false → ∃ cs c, source [x] = cs ++ [c] ∧ isBlank c = false := by
      intro hx
      have hbracket : isBlank ']' = false := by decide
      cases x with
      | char c => exact ⟨[], c, by simp [source], hx⟩
      | argument parameter =>
        exact ⟨"[arg:".toList ++ parameter.toList, ']', by simp [source], hbracket⟩
      | call name arguments =>
        exact ⟨"[$".toList ++ name.toList ++ listed (arguments.map source), ']', by simp [source],
          hbracket⟩
    rw [source_append]
    cases hx : x.isBlank with
    | true =>
      cases x with
      | char c =>
        have hsource : source [.char c] = [c] := by simp [source]
        rw [List.rdropWhile_concat_pos _ _ _ hx, ih, hsource,
          List.rdropWhile_concat_pos isBlank _ c hx]
      | argument parameter => cases hx
      | call name arguments => cases hx
    | false =>
      obtain ⟨cs, c, hsource, hc⟩ := hend hx
      rw [List.rdropWhile_concat_neg _ _ _ (by simp [hx]), source_append, hsource,
        ← List.append_assoc, List.rdropWhile_concat_neg _ _ _ (by simp [hc])]

theorem source_trim (a : Phrase) : a.trim.source = Text.trim a.source := by
  have hend : a.trim.source = (source (a.dropWhile Piece.isBlank)).rdropWhile isBlank :=
    source_rdropWhile _
  rw [hend, source_dropWhile]
  rfl

theorem trim_subset (a : Phrase) : a.trim ⊆ a :=
  ((List.rdropWhile_prefix Piece.isBlank _).sublist.trans (List.dropWhile_sublist _)).subset

/-! ## No comments and no quotes -/

theorem mem_intercalate {c : Char} {separator : List Char} {parts : List (List Char)}
    (h : c ∈ List.intercalate separator parts) : c ∈ separator ∨ ∃ part ∈ parts, c ∈ part := by
  induction parts with
  | nil => cases h
  | cons first parts ih =>
    cases parts with
    | nil => exact .inr ⟨first, by simp, by simpa using h⟩
    | cons second parts =>
      have hcons : List.intercalate separator (first :: second :: parts) =
          first ++ (separator ++ List.intercalate separator (second :: parts)) := by
        simp [List.intercalate]
      rw [hcons, List.mem_append, List.mem_append] at h
      rcases h with h | h | h
      · exact .inr ⟨first, List.mem_cons_self, h⟩
      · exact .inl h
      · exact (ih h).imp id fun ⟨part, hpart, hc⟩ => ⟨part, List.mem_cons_of_mem _ hpart, hc⟩

theorem mem_listed {c : Char} {parts : List (List Char)} (h : c ∈ listed parts) :
    c = ':' ∨ c = ';' ∨ ∃ part ∈ parts, c ∈ part := by
  cases parts with
  | nil => cases h
  | cons part parts =>
    exact (List.mem_cons.1 h).imp id fun h => (mem_intercalate h).imp List.mem_singleton.1 id

end Phrase

/-- The character ends no line, begins no comment, and is no part of a quotation. -/
def IsCode (c : Char) : Prop := c ∉ ['\n', '#', '\\', '"', '\x60']

instance (c : Char) : Decidable (IsCode c) := inferInstanceAs (Decidable (c ∉ _))

theorem IsUnmarked.isCode {c : Char} (h : IsUnmarked c) : IsCode c := fun hc =>
  h (List.mem_of_mem_take (i := 5) hc)

theorem IsParameterName.isCode {text : String} (h : IsParameterName text) :
    ∀ c ∈ text.toList, IsCode c := fun c hc => (h.unmarked c hc).1.isCode

theorem IsSubroutineName.isCode {text : String} (h : IsSubroutineName text) :
    ∀ c ∈ text.toList, IsCode c := by
  intro c hc hmem
  obtain ⟨hplain, hsign⟩ := h.plain c hc
  simp only [List.mem_cons, List.not_mem_nil, or_false] at hmem
  rcases hmem with rfl | rfl | rfl | rfl | rfl
  · revert hplain
    decide
  · exact hsign rfl
  all_goals
    revert hplain
    decide

namespace Phrase

variable {known : List Definition} {parameters : List String} {a : Phrase}

theorem IsSound.isCode (hknown : ∀ d ∈ known, IsSubroutineName d.name)
    (hparameters : ∀ p ∈ parameters, IsParameterName p) (h : IsSound known parameters a) :
    ∀ c ∈ a.source, IsCode c := by
  induction h with
  | nil => simp [source]
  | char hc _ ih =>
    rw [source]
    exact List.forall_mem_cons.2 ⟨hc.isCode, ih⟩
  | @argument parameter b hparameter _ ih =>
    have harg : ∀ c ∈ "[arg:".toList, IsCode c := by decide
    have hcloser : IsCode ']' := by decide
    simp only [source, List.forall_mem_append, List.forall_mem_cons]
    exact ⟨⟨harg, (hparameters parameter hparameter).isCode⟩, hcloser, ih⟩
  | @call d arguments b hd _ _ _ _ _ iharguments ih =>
    have hopener : ∀ c ∈ "[$".toList, IsCode c := by decide
    have hcloser : IsCode ']' := by decide
    have hlisted : ∀ c ∈ listed (arguments.map source), IsCode c := by
      intro c hc
      rcases mem_listed hc with rfl | rfl | ⟨part, hpart, hc⟩
      · decide
      · decide
      · obtain ⟨b, hb, rfl⟩ := List.mem_map.1 hpart
        exact iharguments b hb c hc
    simp only [source, List.forall_mem_append, List.forall_mem_cons]
    exact ⟨⟨⟨hopener, (hknown d hd).isCode⟩, hlisted⟩, hcloser, ih⟩

end Phrase

/-! ## Lines of a program -/

namespace Lexer

variable {line : List Char} {Q : List Token → Prop}

theorem stripComment_eq (h : ∀ c ∈ line, IsCode c) : stripComment .plain line = line := by
  induction line with
  | nil => rfl
  | cons c line ih =>
    obtain ⟨hc, hline⟩ := List.forall_mem_cons.1 h
    simp only [IsCode, List.mem_cons, List.not_mem_nil, or_false, not_or] at hc
    obtain ⟨-, hsign, hescape, hquote, hregex⟩ := hc
    unfold stripComment
    split <;> simp_all

theorem trim_dropCarriageReturn (line : List Char) :
    Text.trim (dropCarriageReturn line) = Text.trim line := by
  unfold dropCarriageReturn
  split
  · next hlast =>
    obtain ⟨line, rfl⟩ := List.getLast?_eq_some_iff.1 hlast
    have hreturn : isBlank '\r' = true := by decide
    rw [List.dropLast_concat, Text.trim, Text.trim, trimStart, trimStart, List.dropWhile_append]
    split
    · next hempty =>
      rw [List.isEmpty_iff.1 hempty]
      decide
    · exact (List.rdropWhile_concat_pos isBlank _ '\r' hreturn).symm
  · rfl

/-- A line without quotes and comments becomes the tokens of what stands between the blanks at its
edges. -/
theorem lexFullLine_of_gives (hline : ∀ c ∈ line, IsCode c) (h : Gives (Text.trim line) Q)
    (number offset : Nat) : ∃ tokens, lexFullLine number offset line = .ok tokens ∧ Q tokens := by
  have hkept : ∀ c ∈ dropCarriageReturn line, IsCode c := fun c hc => by
    unfold dropCarriageReturn at hc
    split at hc
    · exact hline c (List.dropLast_subset line hc)
    · exact hline c hc
  have htrim : trimEnd ((dropCarriageReturn line).dropWhile isBlank) = Text.trim line :=
    trim_dropCarriageReturn line
  rw [lexFullLine, stripComment_eq hkept, htrim]
  exact h _

end Lexer

namespace Definition

variable {known : List Definition} {d : Definition}

theorem IsSound.gives (hknown : ∀ d ∈ known, IsSubroutineName d.name) (h : d.IsSound known) :
    Gives d.source d.Writes := by
  have hparts : (d.parameters.map .ofText).map Phrase.source = d.parameters.map String.toList := by
    rw [List.map_map]
    exact List.map_congr_left fun p _ => Phrase.source_ofText p
  have hsource : d.source = '[' :: '$' :: '[' :: (d.name.toList ++
      (Phrase.listed ((d.parameters.map .ofText).map Phrase.source) ++ ']' :: ':' ::
        (d.body.source ++ [']']))) := by
    rw [hparts]
    simp [source]
  have hlexes : ∀ b ∈ d.parameters.map Phrase.ofText, b.Lexes := by
    intro b hb
    obtain ⟨p, hp, rfl⟩ := List.mem_map.1 hb
    have hsound : Phrase.IsSound [] [] (.ofText p) :=
      .ofText fun c hc => ((h.parameters p hp).unmarked c hc).1
    exact hsound.lexes (by simp) (by simp)
  have hmark : ∀ b ∈ (d.parameters.map Phrase.ofText).head?, b.head? ≠ some (.char ':') := by
    intro b hb hhead
    obtain ⟨p, hp, rfl⟩ := List.mem_map.1 (List.mem_of_mem_head? hb)
    have hhead : (p.toList.map Piece.char).head? = some (.char ':') := hhead
    rw [List.head?_map, Option.map_eq_some_iff] at hhead
    obtain ⟨c, hc, heq⟩ := hhead
    cases heq
    exact ((h.parameters p hp).head ':' hc).2.1 rfl
  have hend : ∀ c ∈ (Phrase.listed ((d.parameters.map .ofText).map Phrase.source) ++ ']' :: ':' ::
      (d.body.source ++ [']'])).head?, isPlain c = false := by
    cases d.parameters <;> simp only [Phrase.listed, List.map_nil, List.map_cons, List.nil_append,
      List.cons_append, List.head?_cons, Option.mem_some_iff, forall_eq'] <;> decide
  have hhead : (d.body.source ++ [']']).head? ≠ some ':' := fun hhead => by
    obtain ⟨b, hb⟩ := Phrase.head?_source (by decide) (by simp) hhead
    exact h.colon (by rw [hb]; rfl)
  have hbody : d.body.Lexes := h.body.lexes hknown h.parameters
  rw [hsource]
  refine (Gives.symbol rfl (by decide) (.symbol rfl (by decide) (.symbol rfl (by decide)
    (Phrase.gives_name h.name hend (Phrase.gives_listed hlexes hmark (by simp) (.symbol rfl
      (by decide) (.cons (lexeme_colon hhead) (hbody _ _ (by simp) (.symbol rfl (by decide)
        (.nil (Q := (· = [])) rfl)))))))))).weaken ?_
  rintro _ ⟨opener, _, rfl, hopener, -, dollar, _, rfl, hdollar, -, opener', _, rfl, hopener', -,
    name, _, rfl, hname, htext, header, _, rfl, hheader, closer', _, rfl, hcloser', -, colon, _,
    rfl, hcolon, -, inner, _, rfl, hinner, closer, _, rfl, hcloser, -, rfl⟩
  have hwrites : d.Writes ([opener, dollar, opener', name] ++ header ++ [closer', colon] ++ inner ++
      [closer]) := .mk hopener hdollar hopener' hname htext hheader hcloser' hcolon hinner hcloser
  simpa using hwrites

theorem IsSound.isCode (hknown : ∀ d ∈ known, IsSubroutineName d.name) (h : d.IsSound known) :
    ∀ c ∈ d.source, IsCode c := by
  have hlisted : ∀ c ∈ Phrase.listed (d.parameters.map String.toList), IsCode c := by
    intro c hc
    rcases Phrase.mem_listed hc with rfl | rfl | ⟨part, hpart, hc⟩
    · decide
    · decide
    · obtain ⟨p, hp, rfl⟩ := List.mem_map.1 hpart
      exact (h.parameters p hp).isCode c hc
  have hopener : ∀ c ∈ "[$[".toList, IsCode c := by decide
  have hcolon : ∀ c ∈ "]:".toList, IsCode c := by decide
  have hcloser : ∀ c ∈ [']'], IsCode c := by decide
  simp only [source, List.forall_mem_append]
  exact ⟨⟨⟨⟨⟨hopener, h.name.isCode⟩, hlisted⟩, hcolon⟩, h.body.isCode hknown h.parameters⟩,
    hcloser⟩

/-- No blanks stand at the edges of a definition. -/
theorem trim_source (d : Definition) : Text.trim d.source = d.source := by
  have hopener : isBlank '[' = false := by decide
  have hcloser : isBlank ']' = false := by decide
  obtain ⟨cs, hcs⟩ : ∃ cs, d.source = '[' :: cs := ⟨_, rfl⟩
  have hstart : trimStart d.source = d.source := by
    rw [hcs]
    exact List.dropWhile_cons_of_neg (by simp [hopener])
  rw [Text.trim, hstart, source]
  exact List.rdropWhile_concat_neg isBlank _ ']' (by simp [hcloser])

end Definition

namespace Program

variable {P : Program}

theorem IsSound.names (h : P.IsSound) : ∀ d ∈ P.definitions, IsSubroutineName d.name := by
  intro d hd
  obtain ⟨known, others, hsplit⟩ := List.append_of_mem hd
  exact (h.definitions known d others hsplit).name

/-- The text in the last line. -/
theorem IsSound.lexLines_main (h : P.IsSound) (number offset : Nat) :
    ∃ last, lexLines number offset (pieces '\n' P.main.source) = .ok last ∧
      Wordsmith.Writes [P.main.trim] last := by
  have hcode := h.main.isCode h.names (by simp)
  have hbreak : '\n' ∉ P.main.source := fun hmem => absurd (hcode _ hmem) (by decide)
  have hlexes : P.main.trim.Lexes := (h.main.subset P.main.trim_subset).lexes h.names (by simp)
  rw [pieces_of_notMem hbreak, lexLines_singleton]
  refine lexFullLine_of_gives hcode ?_ number offset
  have hgives := hlexes [] (· = []) (by simp) (.nil rfl)
  rw [List.append_nil, Phrase.source_trim] at hgives
  refine hgives.weaken ?_
  rintro _ ⟨k, _, rfl, hk, rfl⟩
  rwa [List.append_nil]

/-- The definitions in their lines, before lines that become tokens. -/
theorem lexLines_definitions {ds : List Definition} (hds : ∀ d ∈ ds, Gives d.source d.Writes ∧
      ∀ c ∈ d.source, IsCode c) {cs : List Char} {Q : List Token → Prop}
    (hrest : ∀ number offset, ∃ last, lexLines number offset (pieces '\n' cs) = .ok last ∧ Q last)
    (number offset : Nat) : ∃ lines last,
      lexLines number offset (pieces '\n' ((ds.flatMap fun d => d.source ++ ['\n']) ++ cs)) =
        .ok (lines.flatten ++ last) ∧ List.Forall₂ Definition.Writes ds lines ∧ Q last := by
  induction ds generalizing number offset with
  | nil =>
    obtain ⟨last, hok, hlast⟩ := hrest number offset
    exact ⟨[], last, by simpa using hok, .nil, hlast⟩
  | cons d ds ih =>
    obtain ⟨⟨hgives, hcode⟩, hds⟩ := List.forall_mem_cons.1 hds
    have hbreak : '\n' ∉ d.source := fun hmem => absurd (hcode _ hmem) (by decide)
    have hsource : ((d :: ds).flatMap fun d => d.source ++ ['\n']) ++ cs =
        d.source ++ '\n' :: ((ds.flatMap fun d => d.source ++ ['\n']) ++ cs) := by
      simp
    obtain ⟨line, hline, hwrites⟩ :=
      lexFullLine_of_gives hcode (d.trim_source.symm ▸ hgives) number offset
    obtain ⟨lines, last, hok, hlines, hlast⟩ :=
      ih hds (number + 1) (offset + byteLength d.source + 1)
    refine ⟨line :: lines, last, ?_, .cons hwrites hlines, hlast⟩
    rw [hsource, pieces_append hbreak, lexLines, hline]
    simp only [hok, List.flatten_cons, List.append_assoc]

/-- A program that makes sense has tokens, and they write it. -/
theorem IsSound.tokenize_source (h : P.IsSound) :
    ∃ tokens, tokenize P.source = .ok tokens ∧ P.Writes tokens := by
  have hlines : ∀ d ∈ P.definitions, Gives d.source d.Writes ∧ ∀ c ∈ d.source, IsCode c := by
    intro d hd
    obtain ⟨known, others, hsplit⟩ := List.append_of_mem hd
    have hsound := h.definitions known d others hsplit
    have hknown : ∀ d ∈ known, IsSubroutineName d.name := fun d hd =>
      h.names d (hsplit ▸ List.mem_append_left _ hd)
    exact ⟨hsound.gives hknown, hsound.isCode hknown⟩
  obtain ⟨lines, last, hok, hwrites, hlast⟩ := lexLines_definitions hlines h.lexLines_main 1 0
  refine ⟨_, ?_, .mk hwrites hlast⟩
  rw [tokenize, source, String.toList_ofList, hok]

end Program

end Wordsmith
