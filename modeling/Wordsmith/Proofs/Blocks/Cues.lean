import Wordsmith.Proofs.Blocks.Syntax

/-!
# Blocks with cues

A cue is a tag that prints a text in some repetitions of a block: the first one, the last one, those
between, every second one, or those that an interval and an offset pick. A block with cues has one
item, a row of cues and then plain text. Brackets nest in its tokens and no bar stands outside them,
so the block is read as this one item. The item begins with a bracket, so blanks are taken off its
end only.

Main definitions: `CuedBlock.source` and `CuedBlock.output`, how the block is written and what it
prints. Main results: `CuedBlock.IsSound.tokenize_source` and `CuedBlock.reads_item`.
-/

namespace Wordsmith

open Lexer Text

/-! ## Cues -/

/-- What a tag asks of the repetition that is running. -/
inductive Cue where
  | first
  | last
  | middle
  | odd
  | even
  /-- Whether it is an offset or a number of intervals beyond it. -/
  | nth (interval offset : Nat)

namespace Cue

/-- The name of the tag. -/
def name : Cue → String
  | first => "first"
  | last => "last"
  | middle => "middle"
  | odd => "odd"
  | even => "even"
  | nth .. => "nth"

/-- The arguments of the tag in front of its text. -/
def arguments : Cue → List String
  | nth interval offset => [toString interval, toString offset]
  | _ => []

/-- The cue is for the repetition with an index, the first of which is 0. -/
def Holds (count i : Nat) : Cue → Prop
  | first => i = 0
  | last => i + 1 = count
  | middle => i ≠ 0 ∧ i + 1 ≠ count
  | odd => i % 2 = 0
  | even => i % 2 = 1
  | nth interval offset => ∃ j, i = offset + j * interval

theorem exists_eq_add_mul_iff {interval offset i : Nat} :
    (∃ j, i = offset + j * interval) ↔ offset ≤ i ∧ (i - offset) % interval = 0 := by
  constructor
  · rintro ⟨j, rfl⟩
    rw [Nat.add_sub_cancel_left]
    exact ⟨Nat.le_add_right _ _, Nat.mul_mod_left j interval⟩
  · rintro ⟨hle, hmod⟩
    obtain ⟨j, hj⟩ := Nat.dvd_of_mod_eq_zero hmod
    exact ⟨j, by rw [Nat.mul_comm, ← hj, Nat.add_sub_cancel' hle]⟩

instance (interval offset i : Nat) : Decidable (∃ j, i = offset + j * interval) :=
  decidable_of_iff' _ exists_eq_add_mul_iff

instance (count i : Nat) (cue : Cue) : Decidable (cue.Holds count i) :=
  match cue with
  | first => inferInstanceAs (Decidable (i = 0))
  | last => inferInstanceAs (Decidable (i + 1 = count))
  | middle => inferInstanceAs (Decidable (i ≠ 0 ∧ i + 1 ≠ count))
  | odd => inferInstanceAs (Decidable (i % 2 = 0))
  | even => inferInstanceAs (Decidable (i % 2 = 1))
  | nth interval offset => inferInstanceAs (Decidable (∃ j, i = offset + j * interval))

/-- The interval is positive, and it and the offset have 63 bits. -/
def IsSound : Cue → Prop
  | nth interval offset => 0 < interval ∧ interval < halfWordSize ∧ offset < halfWordSize
  | _ => True

theorem isSubroutineName (cue : Cue) : IsSubroutineName cue.name := by
  have hname : ∀ name ∈ ["first", "last", "middle", "odd", "even", "nth"],
      IsSubroutineName name := by
    refine fun name hname => ⟨?_, ?_⟩ <;> revert name <;> decide
  exact hname _ (by cases cue <;> simp [name])

theorem isPlainText_of_mem_arguments (cue : Cue) : ∀ a ∈ cue.arguments, IsPlainText a := by
  cases cue with
  | nth interval offset =>
    exact List.forall_mem_cons.2
      ⟨isPlainText_toString interval, List.forall_mem_singleton.2 (isPlainText_toString offset)⟩
  | _ => exact List.forall_mem_nil _

end Cue

/-- The text without the blanks at its end. -/
def Text.trimmedEnd (text : String) : String := .ofList (text.toList.rdropWhile isBlank)

/-- A block whose item is a row of cues with their texts, and then a text. -/
structure CuedBlock where
  count : Nat
  cues : List (Cue × String)
  rest : String

namespace CuedBlock

/-- The tags of the item, with their arguments. -/
def tags (b : CuedBlock) : List (String × List String) :=
  b.cues.map fun (cue, text) => (cue.name, cue.arguments ++ [text])

/-- The block as it is written. -/
def source (b : CuedBlock) : String :=
  .ofList (tagSource "rep" [toString b.count] ++
    '\x7b' :: ((b.tags.flatMap fun tag => tagSource tag.1 tag.2) ++ (b.rest.toList ++ ['\x7d'])))

/-- What one repetition prints: the texts of the cues for it, and what stands behind the cues. -/
def piece (b : CuedBlock) (i : Nat) : String :=
  String.join (b.cues.map fun (cue, text) => if cue.Holds b.count i then trimmed text else "") ++
    trimmedEnd b.rest

/-- What the block prints. -/
def output (b : CuedBlock) : String := String.join ((List.range b.count).map b.piece)

/-- There is a cue, all texts are plain, and all numbers are sound. -/
structure IsSound (b : CuedBlock) : Prop where
  count : b.count < halfWordSize
  cues : ∀ x ∈ b.cues, x.1.IsSound
  texts : ∀ x ∈ b.cues, IsPlainText x.2
  rest : IsPlainText b.rest
  ne : b.cues ≠ []

/-- The tokens write the block. -/
inductive Writes (b : CuedBlock) : List Token → Prop
  | mk {line k : List Token} {lines : List (List Token)} {opener closer : Token}
    (hline : WritesTag "rep" [toString b.count] line) (hopener : opener.kind = .leftCurly)
    (hlines : List.Forall₂ (fun tag line => WritesTag tag.1 tag.2 line) b.tags lines)
    (hk : Wordsmith.Writes [.ofText b.rest] k) (hcloser : closer.kind = .rightCurly) :
    Writes b (line ++ opener :: (lines.flatten ++ k ++ [closer]))

variable {b : CuedBlock}

theorem IsSound.tags (h : b.IsSound) :
    ∀ tag ∈ b.tags, IsSubroutineName tag.1 ∧ ∀ a ∈ tag.2, IsPlainText a := by
  intro tag htag
  obtain ⟨x, hx, rfl⟩ := List.mem_map.1 htag
  exact ⟨x.1.isSubroutineName, List.forall_mem_append.2
    ⟨x.1.isPlainText_of_mem_arguments, List.forall_mem_singleton.2 (h.texts x hx)⟩⟩

theorem isSubroutineName_rep : IsSubroutineName "rep" := ⟨by decide, by decide⟩

theorem IsSound.isCode (h : b.IsSound) : ∀ c ∈ b.source.toList, IsCode c := by
  have hcount := List.forall_mem_singleton.2 (isPlainText_toString b.count)
  have htags : ∀ c ∈ b.tags.flatMap fun tag => tagSource tag.1 tag.2, IsCode c := by
    intro c hc
    obtain ⟨tag, htag, hc⟩ := List.mem_flatMap.1 hc
    exact PlainBlock.isCode_tagSource (h.tags tag htag).1 (h.tags tag htag).2 c hc
  rw [source, String.toList_ofList]
  simp only [List.forall_mem_append, List.forall_mem_cons]
  exact ⟨PlainBlock.isCode_tagSource isSubroutineName_rep hcount, by decide, htags, h.rest.isCode,
    by decide, nofun⟩

/-- A source begins with a tag and ends with a block. -/
theorem exists_source_eq (b : CuedBlock) : ∃ cs, b.source.toList = '[' :: (cs ++ ['\x7d']) := by
  refine ⟨"rep".toList ++ (Phrase.listed ([toString b.count].map String.toList) ++ [']']) ++
    '\x7b' :: ((b.tags.flatMap fun tag => tagSource tag.1 tag.2) ++ b.rest.toList), ?_⟩
  rw [source, String.toList_ofList, tagSource]
  simp only [List.cons_append, List.append_assoc]

/-- A source has tokens, and they write it. -/
theorem IsSound.tokenize_source (h : b.IsSound) :
    ∃ tokens, tokenize b.source = .ok tokens ∧ b.Writes tokens := by
  refine exists_tokenize h.isCode b.exists_source_eq ?_
  have hrest := h.rest.lexes ['\x7d'] _ (by simp)
    (.symbol (Q := (· = [])) rfl (by decide) (.nil rfl))
  rw [Phrase.source_ofText] at hrest
  have hgives := gives_tag isSubroutineName_rep
    (List.forall_mem_singleton.2 (isPlainText_toString b.count))
    (.symbol (c := '\x7b') rfl (by decide) (PlainBlock.gives_tags h.tags hrest))
  rw [source, String.toList_ofList]
  refine hgives.weaken ?_
  rintro _ ⟨line, _, rfl, hline, opener, _, rfl, hopener, -, lines, _, rfl, hlines, k, _, rfl, hk,
    closer, _, rfl, hcloser, -, rfl⟩
  rw [← List.append_assoc lines.flatten]
  exact .mk hline hopener hlines hk hcloser

/-! ## Reading the item -/

/-- The passage is a row of cues, with their texts, and then text. -/
structure IsItem (b : CuedBlock) (p : Passage) : Prop where
  exists_lines : ∃ lines k, p.tokens = lines.flatten ++ k ∧
    List.Forall₂ (fun tag line => WritesTag tag.1 tag.2 line) b.tags lines ∧
      Wordsmith.Writes [.ofText (trimmedEnd b.rest)] k

end CuedBlock

variable {k rest : List Token} {lines : List (List Token)}

theorem Listed.nested {as : List Phrase} (h : Listed as k) : Nested [] k := by
  cases h with
  | none => exact .nil
  | some hcolon hwrites => exact .neutral (by rw [hcolon]; rfl) hwrites.nested

namespace WritesTag

variable {name : String} {arguments : List String}

/-- A tag stands between brackets, which are not blank. -/
theorem exists_eq (h : WritesTag name arguments k) : ∃ opener inner closer,
    k = opener :: (inner ++ [closer]) ∧ opener.kind = .leftSquare ∧ Nested [] inner ∧
      closer.kind = .rightSquare := by
  cases h with
  | @mk opener t closer k hopener hname htext hk hcloser =>
    exact ⟨opener, t :: k, closer, rfl, hopener, .neutral (by rw [hname]; rfl) hk.nested, hcloser⟩

theorem unbroken {separator : Option TokenKind} (h : WritesTag name arguments k)
    (hrest : Unbroken separator [] rest) : Unbroken separator [] (k ++ rest) := by
  obtain ⟨opener, inner, closer, rfl, hopener, hinner, hcloser⟩ := h.exists_eq
  exact .brackets hopener hinner hcloser hrest

end WritesTag

/-- Tags in a row, with other tokens behind them. -/
theorem unbroken_flatten {tags : List (String × List String)} {separator : Option TokenKind}
    (h : List.Forall₂ (fun tag line => WritesTag tag.1 tag.2 line) tags lines)
    (hrest : Unbroken separator [] rest) : Unbroken separator [] (lines.flatten ++ rest) := by
  induction h with
  | nil => exact hrest
  | cons hline _ ih =>
    rw [List.flatten_cons, List.append_assoc]
    exact hline.unbroken ih

/-- No blanks stand at the end of tags in a row. -/
theorem rdropWhile_flatten {tags : List (String × List String)}
    (h : List.Forall₂ (fun tag line => WritesTag tag.1 tag.2 line) tags lines) :
    lines.flatten.rdropWhile Passage.isSpace = lines.flatten := by
  induction h with
  | nil => rfl
  | @cons _ line _ lines hline _ ih =>
    obtain ⟨opener, inner, closer, rfl, -, -, hcloser⟩ := hline.exists_eq
    have hline : (opener :: (inner ++ [closer])).rdropWhile Passage.isSpace =
        opener :: (inner ++ [closer]) := by
      rw [← List.cons_append]
      exact List.rdropWhile_concat_neg _ _ _
        (by simp [Writes.isSpace_of_kind hcloser (by decide)])
    rw [List.flatten_cons, rdropWhile_append, ih]
    split
    · next hnil => rw [hline, hnil, List.append_nil]
    · rfl

/-- A row without blanks in front is spelled without those at its end. -/
theorem Passage.Spells.tokens_eq_rdropWhile {p : Passage} {tokens : List Token}
    (h : p.Spells tokens) (hhead : ∀ t ∈ tokens.head?, isSpace t = false) :
    p.tokens = tokens.rdropWhile isSpace := by
  obtain ⟨trail, rfl, htrail⟩ := h.exists_trail hhead
  have hnone : trail.rdropWhile isSpace = [] := List.rdropWhile_eq_nil_iff.2 htrail
  have hsame : p.tokens.rdropWhile isSpace = p.tokens := List.rdropWhile_eq_self_iff.2 fun hne =>
    by simp [h.trimmed.last _ (List.getLast?_eq_some_getLast hne)]
  rw [rdropWhile_append, if_pos hnone, hsame]

theorem Phrase.rdropWhile_ofText (text : String) :
    (ofText text).rdropWhile Piece.isBlank = ofText (trimmedEnd text) := by
  rw [ofText, ofText, trimmedEnd, String.toList_ofList, List.rdropWhile, List.rdropWhile,
    ← List.map_reverse, List.dropWhile_map, ← List.map_reverse]
  rfl

namespace CuedBlock

variable {b : CuedBlock} {closer : Token} {l : List Token}

theorem IsItem.of_spells (hne : b.cues ≠ []) {p : Passage}
    (hlines : List.Forall₂ (fun tag line => WritesTag tag.1 tag.2 line) b.tags lines)
    (hk : Wordsmith.Writes [.ofText b.rest] k) (h : p.Spells (lines.flatten ++ k)) :
    b.IsItem p := by
  have hhead : ∀ t ∈ (lines.flatten ++ k).head?, Passage.isSpace t = false := by
    have htags : b.tags ≠ [] := mt List.map_eq_nil_iff.1 hne
    obtain ⟨tag, tags, hcons⟩ := List.exists_cons_of_ne_nil htags
    rw [hcons] at hlines
    cases hlines with
    | cons hline _ =>
      obtain ⟨opener, inner, closer, rfl, hopener, -, -⟩ := hline.exists_eq
      intro t ht
      cases ht
      exact Writes.isSpace_of_kind hopener (by decide)
  refine ⟨lines, k.rdropWhile Passage.isSpace, ?_, hlines, ?_⟩
  · rw [h.tokens_eq_rdropWhile hhead, rdropWhile_append, rdropWhile_flatten hlines]
    split
    · next hnil => rw [hnil, List.append_nil]
    · rfl
  · rw [← Phrase.rdropWhile_ofText]
    exact hk.rdropWhile.1

/-- The block is read as one item. -/
theorem reads_item (hb : b.IsSound)
    (hlines : List.Forall₂ (fun tag line => WritesTag tag.1 tag.2 line) b.tags lines)
    (hk : Wordsmith.Writes [.ofText b.rest] k) (hcloser : closer.kind = .rightCurly) :
    Scan.Reads Block.readItems (lines.flatten ++ k ++ [closer]) l fun ps =>
      ∃ p, ps = [p] ∧ b.IsItem p := by
  have hfree : IsFree (some .pipe) [Phrase.ofText b.rest] :=
    .inr ⟨'|', _, rfl, rfl, hb.rest.notMem rfl⟩
  have hrow : ∀ row ∈ [lines.flatten ++ k], Unbroken (some .pipe) [] row :=
    List.forall_mem_singleton.2 (unbroken_flatten hlines (hk.unbroken hfree))
  refine (Scan.reads_arguments Block.isBracket_scope rfl rfl hrow (.single _) hcloser).weaken ?_
  intro ps hps
  cases hps with
  | @cons p _ _ _ hp hnone =>
    cases hnone
    exact ⟨p, rfl, .of_spells hb.ne hlines hk hp⟩

end CuedBlock

end Wordsmith
