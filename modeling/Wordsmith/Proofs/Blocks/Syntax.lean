import Mathlib.Data.Nat.Digits.Defs
import Wordsmith.Proofs.Blocks.Orders
import Wordsmith.Proofs.Programs.Brackets
import Wordsmith.Proofs.Programs.Lines
import Wordsmith.Text.Count

/-!
# Blocks of plain texts

A block of plain texts is written behind the tags that shape it: how often it is repeated, what
stands between, before and after the repetitions, and which order deals the items, if one does. Plain
text is words and blanks, so the tokens of such a source are known, up to where words and blanks
meet.

Main definitions: `PlainBlock.source` and `PlainBlock.output`, how the block is written and what it
prints. Main result: `PlainBlock.IsSound.tokenize_source`.
-/

namespace Wordsmith

open Lexer Text

/-! ## Plain text -/

/-- The character is a blank or belongs to a word, and it neither ends a line nor begins a
comment. -/
def IsTextual (c : Char) : Prop := (isBlank c = true ∨ isPlain c = true) ∧ c ≠ '\n' ∧ c ≠ '#'

instance (c : Char) : Decidable (IsTextual c) := inferInstanceAs (Decidable (_ ∧ _))

/-- The text is made of words and blanks. -/
def IsPlainText (text : String) : Prop := ∀ c ∈ text.toList, IsTextual c

instance (text : String) : Decidable (IsPlainText text) := inferInstanceAs (Decidable (∀ c ∈ _, _))

theorem IsTextual.ofSymbol?_eq_none {c : Char} (h : IsTextual c) : TokenKind.ofSymbol? c = none := by
  obtain ⟨hblank | hplain, -, -⟩ := h
  · cases hsymbol : TokenKind.ofSymbol? c with
    | none => rfl
    | some kind => cases hblank.symm.trans (Phrase.isBlank_of_ofSymbol? hsymbol)
  · simp only [isPlain, Bool.and_eq_true, Option.isNone_iff_eq_none] at hplain
    exact hplain.2

theorem IsTextual.isUnmarked {c : Char} (h : IsTextual c) : IsUnmarked c := by
  have hsymbol := h.ofSymbol?_eq_none
  obtain ⟨hword, hline, hcomment⟩ := h
  intro hmem
  simp only [List.mem_cons, List.not_mem_nil, or_false] at hmem
  rcases hmem with rfl | rfl | rfl | rfl | rfl | rfl | rfl | rfl | rfl | rfl | rfl | rfl | rfl
  · exact hline rfl
  · exact hcomment rfl
  all_goals
    revert hword hsymbol
    decide

namespace IsPlainText

variable {text : String}

theorem lexes (h : IsPlainText text) : (Phrase.ofText text).Lexes := by
  have hsound : Phrase.IsSound [] [] (.ofText text) := .ofText fun c hc => (h c hc).isUnmarked
  exact hsound.lexes (by simp) (by simp)

/-- No symbol stands in plain text. -/
theorem notMem (h : IsPlainText text) {c : Char} {kind : TokenKind}
    (hc : TokenKind.ofSymbol? c = some kind) : .char c ∉ Phrase.ofText text := by
  intro hmem
  obtain ⟨d, hd, heq⟩ := List.mem_map.1 hmem
  cases heq
  cases hc.symm.trans (h c hd).ofSymbol?_eq_none

theorem isCode (h : IsPlainText text) : ∀ c ∈ text.toList, IsCode c := fun c hc =>
  (h c hc).isUnmarked.isCode

end IsPlainText

/-! ## Numbers -/

theorem digits?_toDigits (n : Nat) : digits? 10 (Nat.toDigits 10 n) = some n := by
  have hfold : ∀ n, (Nat.toDigits 10 n).foldlM
      (fun n c => (digitValue? 10 c).map (n * 10 + ·)) 0 = some n := fun n => by
    induction n using Nat.strongRecOn with
    | ind n ih =>
      by_cases hn : n < 10
      · have hdigit : ∀ n < 10, digitValue? 10 (Nat.digitChar n) = some n := by decide
        rw [Nat.toDigits_of_lt_base hn]
        simp [hdigit n hn]
      · have hdigit : ∀ n < 10, digitValue? 10 (Nat.digitChar n) = some n := by decide
        rw [Nat.toDigits_of_base_le (by decide) (by omega), List.foldlM_append,
          ih (n / 10) (by omega)]
        simp only [Option.bind_eq_bind, Option.bind_some, List.foldlM_cons, List.foldlM_nil,
          hdigit (n % 10) (Nat.mod_lt _ (by decide)), Option.map_some, Option.pure_def]
        congr 1
        omega
  have hdigits := hfold n
  unfold digits?
  split
  · next hnil => exact absurd hnil Nat.toDigits_ne_nil
  · exact hdigits

/-- A number below half of the words is read from its digits. -/
theorem integer?_toString {n : Nat} (hn : n < halfWordSize) :
    integer? (toString n) = some (n : Int) := by
  have hchars : (toString n).toList = Nat.toDigits 10 n := String.toList_ofList
  have hsign : ∀ c ∈ Nat.toDigits 10 n, c ≠ '-' ∧ c ≠ '+' := fun c hc => by
    have hdigit := Nat.isDigit_of_mem_toDigits (by decide) (by decide) hc
    constructor <;> (rintro rfl; cases hdigit)
  rw [integer?, hchars]
  split
  · next hminus => exact absurd rfl (hsign '-' (hminus ▸ List.mem_cons_self)).1
  · next hplus => exact absurd rfl (hsign '+' (hplus ▸ List.mem_cons_self)).2
  · simp [digits?_toDigits, Option.filter, hn]

/-- What holds of all digits holds of the characters of a number. -/
theorem forall_mem_toString {P : Char → Prop} (h : ∀ k < 58, 48 ≤ k → P (Char.ofNat k)) (n : Nat) :
    ∀ c ∈ (toString n).toList, P c := by
  intro c hc
  have hchars : (toString n).toList = Nat.toDigits 10 n := String.toList_ofList
  have hdigit := Nat.isDigit_of_mem_toDigits (by decide) (by decide) (hchars ▸ hc)
  simp only [Char.isDigit, Bool.and_eq_true, decide_eq_true_eq] at hdigit
  rw [← Char.ofNat_toNat c]
  exact h _ (Nat.lt_succ_of_le hdigit.2) hdigit.1

theorem isPlainText_toString (n : Nat) : IsPlainText (toString n) :=
  forall_mem_toString (by decide) n

theorem trimmed_toString (n : Nat) : trimmed (toString n) = toString n := by
  have hblank : ∀ c ∈ (toString n).toList, isBlank c = false := forall_mem_toString (by decide) n
  have htrim : trim (toString n).toList = (toString n).toList :=
    trim_eq_self (fun c hc => hblank c (List.mem_of_mem_head? hc)) fun c hc =>
      hblank c (List.mem_of_mem_getLast? hc)
  rw [trimmed, htrim, String.ofList_toList]

/-- No digit is a letter in another case. -/
theorem asciiLower_toString (n : Nat) : asciiLower (toString n) = toString n := by
  refine String.toList_inj.1 ?_
  rw [asciiLower, String.toList_map]
  exact (List.map_congr_left (forall_mem_toString (by decide) n)).trans (List.map_id _)

theorem toString_ne_each (n : Nat) : toString n ≠ "each" := by
  intro heach
  have hmem : 'e' ∈ (toString n).toList := by rw [heach]; decide
  exact forall_mem_toString (P := (· ≠ 'e')) (by decide) n 'e' hmem rfl

/-! ## Tags -/

/-- The characters of a tag with texts as arguments. -/
def tagSource (name : String) (arguments : List String) : List Char :=
  '[' :: (name.toList ++ (Phrase.listed (arguments.map String.toList) ++ [']']))

theorem forall_mem_tagSource {P : Char → Prop} {name : String} {arguments : List String}
    (hmarks : ∀ c ∈ ['[', ']', ':', ';'], P c) (hname : ∀ c ∈ name.toList, P c)
    (harguments : ∀ a ∈ arguments, ∀ c ∈ a.toList, P c) : ∀ c ∈ tagSource name arguments, P c := by
  have hlisted : ∀ c ∈ Phrase.listed (arguments.map String.toList), P c := by
    intro c hc
    rcases Phrase.mem_listed hc with rfl | rfl | ⟨part, hpart, hc⟩
    · exact hmarks ':' (by decide)
    · exact hmarks ';' (by decide)
    · obtain ⟨a, ha, rfl⟩ := List.mem_map.1 hpart
      exact harguments a ha c hc
  simp only [tagSource, List.forall_mem_cons, List.forall_mem_append]
  exact ⟨hmarks '[' (by decide), hname, hlisted, hmarks ']' (by decide), nofun⟩

/-- The tokens write a tag with texts as arguments. -/
inductive WritesTag (name : String) (arguments : List String) : List Token → Prop
  | mk {opener t closer : Token} {k : List Token} (hopener : opener.kind = .leftSquare)
    (hname : t.kind = .text) (htext : t.text = name) (hk : Listed (arguments.map .ofText) k)
    (hcloser : closer.kind = .rightSquare) :
    WritesTag name arguments (opener :: t :: (k ++ [closer]))

section

variable {rest : List Char} {Q : List Token → Prop} {arguments : List String}

theorem gives_tag {name : String} (hname : IsSubroutineName name)
    (hplain : ∀ a ∈ arguments, IsPlainText a) (h : Gives rest Q) :
    Gives (tagSource name arguments ++ rest)
      fun tokens => ∃ k l, tokens = k ++ l ∧ WritesTag name arguments k ∧ Q l := by
  have hparts : arguments.map String.toList = (arguments.map Phrase.ofText).map Phrase.source := by
    rw [List.map_map]
    exact List.map_congr_left fun a _ => (Phrase.source_ofText a).symm
  have hsource : tagSource name arguments ++ rest = '[' :: (name.toList ++
      (Phrase.listed ((arguments.map .ofText).map Phrase.source) ++ ']' :: rest)) := by
    simp [tagSource, hparts]
  have hlexes : ∀ b ∈ arguments.map Phrase.ofText, b.Lexes := by
    intro b hb
    obtain ⟨a, ha, rfl⟩ := List.mem_map.1 hb
    exact (hplain a ha).lexes
  have hcolon : ∀ b ∈ (arguments.map Phrase.ofText).head?, b.head? ≠ some (.char ':') := by
    intro b hb hhead
    obtain ⟨a, ha, rfl⟩ := List.mem_map.1 (List.mem_of_mem_head? hb)
    exact (hplain a ha).notMem (c := ':') rfl (List.mem_of_mem_head? hhead)
  have hend : ∀ c ∈ (Phrase.listed ((arguments.map .ofText).map Phrase.source) ++
      ']' :: rest).head?, isPlain c = false := by
    cases arguments <;> simp only [Phrase.listed, List.map_nil, List.map_cons, List.nil_append,
      List.cons_append, List.head?_cons, Option.mem_some_iff, forall_eq'] <;> decide
  rw [hsource]
  refine (Gives.symbol rfl (by decide) (Phrase.gives_name hname hend
    (Phrase.gives_listed hlexes hcolon (by simp) (.symbol rfl (by decide) h)))).weaken ?_
  rintro _ ⟨opener, _, rfl, hopener, -, t, _, rfl, ht, htext, k, _, rfl, hk, closer, l, rfl,
    hcloser, -, hl⟩
  exact ⟨opener :: t :: (k ++ [closer]), l, by simp, .mk hopener ht htext hk hcloser, hl⟩

end

/-! ## Blocks -/

/-- The characters of a block of plain texts. -/
def blockSource (items : List String) : List Char :=
  '\x7b' :: (List.intercalate ['|'] (items.map String.toList) ++ ['\x7d'])

/-- The tokens write a block of plain texts. -/
inductive WritesBlock (items : List String) : List Token → Prop
  | mk {opener closer : Token} {ks : List (List Token)} {k : List Token}
    (hopener : opener.kind = .leftCurly) (hks : Separated .pipe ks k)
    (hall : List.Forall₂ (fun item k => Writes [.ofText item] k) items ks)
    (hcloser : closer.kind = .rightCurly) : WritesBlock items (opener :: (k ++ [closer]))

section

variable {rest : List Char} {Q : List Token → Prop} {items : List String}

/-- Items with bars between them, before the end of the block. -/
theorem gives_items {item : String} (hplain : ∀ a ∈ item :: items, IsPlainText a)
    (hrest : ∀ d ∈ rest.head?, d = '\x7d') (h : Gives rest Q) :
    Gives (List.intercalate ['|'] ((item :: items).map String.toList) ++ rest)
      fun tokens => ∃ ks k l, tokens = k ++ l ∧ Separated .pipe ks k ∧
        List.Forall₂ (fun item k => Writes [.ofText item] k) (item :: items) ks ∧ Q l := by
  induction items generalizing item with
  | nil =>
    have hitem := (hplain item List.mem_cons_self).lexes rest Q
      (fun d hd => by simp [hrest d hd]) h
    rw [Phrase.source_ofText] at hitem
    have hsingle : List.intercalate ['|'] ([item].map String.toList) = item.toList := by simp
    rw [hsingle]
    exact hitem.weaken fun _ ⟨k, l, htokens, hk, hl⟩ =>
      ⟨[k], k, l, htokens, .single k, .cons hk .nil, hl⟩
  | cons next items ih =>
    obtain ⟨hitem, hplain⟩ := List.forall_mem_cons.1 hplain
    have hrow : List.intercalate ['|'] ((item :: next :: items).map String.toList) ++ rest =
        (Phrase.ofText item).source ++ '|' ::
          (List.intercalate ['|'] ((next :: items).map String.toList) ++ rest) := by
      simp [List.intercalate, Phrase.source_ofText]
    rw [hrow]
    refine (hitem.lexes _ _ (by simp) (.symbol rfl (by decide) (ih hplain))).weaken ?_
    rintro _ ⟨k, _, rfl, hk, t, _, rfl, ht, -, ks, k', l, rfl, hks, hall, hl⟩
    exact ⟨k :: ks, k ++ t :: k', l, by simp, .cons ht hks, .cons hk hall, hl⟩

theorem gives_block (hne : items ≠ []) (hplain : ∀ a ∈ items, IsPlainText a) (h : Gives rest Q) :
    Gives (blockSource items ++ rest)
      fun tokens => ∃ k l, tokens = k ++ l ∧ WritesBlock items k ∧ Q l := by
  obtain ⟨item, items, rfl⟩ := List.exists_cons_of_ne_nil hne
  have hsource : blockSource (item :: items) ++ rest = '\x7b' ::
      (List.intercalate ['|'] ((item :: items).map String.toList) ++ '\x7d' :: rest) := by
    simp [blockSource]
  rw [hsource]
  refine (Gives.symbol rfl (by decide) (gives_items hplain (by simp)
    (.symbol rfl (by decide) h))).weaken ?_
  rintro _ ⟨opener, _, rfl, hopener, -, ks, k, _, rfl, hks, hall, closer, l, rfl, hcloser, -, hl⟩
  exact ⟨opener :: (k ++ [closer]), l, by simp, .mk hopener hks hall hcloser, hl⟩

end

/-- A source between brackets has tokens if its characters give them: no blank stands at its
edges. -/
theorem exists_tokenize {source : String} (hcode : ∀ c ∈ source.toList, IsCode c)
    (hsource : ∃ cs, source.toList = '[' :: (cs ++ ['\x7d'])) {Q : List Token → Prop}
    (hgives : Gives source.toList Q) : ∃ tokens, tokenize source = .ok tokens ∧ Q tokens := by
  have hbreak : '\n' ∉ source.toList := fun hmem => absurd (hcode _ hmem) (by decide)
  have htrim : Text.trim source.toList = source.toList := by
    obtain ⟨cs, hcs⟩ := hsource
    have hopener : isBlank '[' = false := by decide
    have hcloser : isBlank '\x7d' = false := by decide
    rw [hcs]
    refine trim_eq_self (fun c hc => ?_) fun c hc => ?_
    · cases hc
      exact hopener
    · rw [← List.cons_append, List.getLast?_concat] at hc
      cases hc
      exact hcloser
  obtain ⟨tokens, hok, hwrites⟩ := lexFullLine_of_gives hcode (htrim.symm ▸ hgives) 1 0
  refine ⟨tokens, ?_, hwrites⟩
  rw [tokenize, pieces_of_notMem hbreak, lexLines_singleton, hok]

/-! ## Blocks with attributes -/

/-- A block of plain texts with its attributes. -/
structure PlainBlock where
  /-- The name and the kind of the order that deals the items, if one does. -/
  order : Option (String × OrderKind)
  count : Nat
  separator : String
  before : String
  after : String
  items : List String

namespace PlainBlock

/-- The tags in front of the block, with their arguments. -/
def tags (b : PlainBlock) : List (String × List String) :=
  (b.order.map fun (name, kind) => ("x", [name, kind.name])).toList ++
    [("rep", [toString b.count]), ("sep", [b.separator]), ("before", [b.before]),
      ("after", [b.after])]

/-- The block as it is written. -/
def source (b : PlainBlock) : String :=
  .ofList ((b.tags.flatMap fun tag => tagSource tag.1 tag.2) ++ blockSource b.items)

/-- The place of the item for a repetition: what the order deals, or else a word of the generator,
cut to 31 bits, modulo the number of items. -/
def place (b : PlainBlock) (seed : UInt64) (i : Nat) : Nat :=
  match b.order with
  | none => (Draw.word seed (.ofNat i) &&& 0x7FFFFFFF).toNat % b.items.length
  | some (name, kind) =>
    (Order.ofSeed kind (Draw.word (Draw.keyWord (trimmed name)) seed)).dealt b.items.length i

/-- What one repetition prints. -/
def repetition (b : PlainBlock) (seed : UInt64) (i : Nat) : String :=
  trimmed b.before ++ trimmed (b.items.getD (b.place seed i) "") ++ trimmed b.after

/-- What the block prints: all repetitions, with separators between them. -/
def output (b : PlainBlock) (seed : UInt64) : String :=
  (trimmed b.separator).intercalate ((List.range b.count).map (b.repetition seed))

/-- There is an item, and all texts are plain. -/
structure IsSound (b : PlainBlock) : Prop where
  order : ∀ x ∈ b.order, IsPlainText x.1
  separator : IsPlainText b.separator
  before : IsPlainText b.before
  after : IsPlainText b.after
  items : ∀ item ∈ b.items, IsPlainText item
  ne : b.items ≠ []

/-- The tokens write the block with its attributes. -/
inductive Writes (b : PlainBlock) : List Token → Prop
  | mk {lines : List (List Token)} {last : List Token}
    (hlines : List.Forall₂ (fun tag line => WritesTag tag.1 tag.2 line) b.tags lines)
    (hlast : WritesBlock b.items last) : Writes b (lines.flatten ++ last)

variable {b : PlainBlock}

theorem IsSound.tags (h : b.IsSound) :
    ∀ tag ∈ b.tags, IsSubroutineName tag.1 ∧ ∀ a ∈ tag.2, IsPlainText a := by
  have hname : ∀ name ∈ ["x", "rep", "sep", "before", "after"], IsSubroutineName name := by
    refine fun name hname => ⟨?_, ?_⟩ <;> revert name <;> decide
  have hkind : ∀ kind : OrderKind, IsPlainText kind.name := fun kind => by cases kind <;> decide
  intro tag htag
  rcases List.mem_append.1 htag with horder | hrest
  · obtain ⟨x, hx, rfl⟩ := Option.map_eq_some_iff.1 (Option.mem_toList.1 horder)
    exact ⟨hname _ (by simp), List.forall_mem_cons.2 ⟨h.order x hx,
      List.forall_mem_singleton.2 (hkind x.2)⟩⟩
  · simp only [List.mem_cons, List.not_mem_nil, or_false] at hrest
    rcases hrest with rfl | rfl | rfl | rfl
    · exact ⟨hname _ (by simp), List.forall_mem_singleton.2 (isPlainText_toString b.count)⟩
    · exact ⟨hname _ (by simp), List.forall_mem_singleton.2 h.separator⟩
    · exact ⟨hname _ (by simp), List.forall_mem_singleton.2 h.before⟩
    · exact ⟨hname _ (by simp), List.forall_mem_singleton.2 h.after⟩

/-- Tags become tokens that write them, one after the other. -/
theorem gives_tags {tags : List (String × List String)}
    (htags : ∀ tag ∈ tags, IsSubroutineName tag.1 ∧ ∀ a ∈ tag.2, IsPlainText a) {rest : List Char}
    {Q : List Token → Prop} (h : Gives rest Q) :
    Gives ((tags.flatMap fun tag => tagSource tag.1 tag.2) ++ rest)
      fun tokens => ∃ lines l, tokens = lines.flatten ++ l ∧
        List.Forall₂ (fun tag line => WritesTag tag.1 tag.2 line) tags lines ∧ Q l := by
  induction tags with
  | nil => exact h.weaken fun tokens hQ => ⟨[], tokens, rfl, .nil, hQ⟩
  | cons tag tags ih =>
    obtain ⟨⟨hname, hplain⟩, htags⟩ := List.forall_mem_cons.1 htags
    rw [List.flatMap_cons, List.append_assoc]
    refine (gives_tag hname hplain (ih htags)).weaken ?_
    rintro _ ⟨k, _, rfl, hk, lines, l, rfl, hlines, hl⟩
    exact ⟨k :: lines, l, by simp, .cons hk hlines, hl⟩

theorem isCode_tagSource {name : String} {arguments : List String} (hname : IsSubroutineName name)
    (hplain : ∀ a ∈ arguments, IsPlainText a) : ∀ c ∈ tagSource name arguments, IsCode c :=
  forall_mem_tagSource (by decide) hname.isCode fun a ha => (hplain a ha).isCode

theorem isCode_blockSource {items : List String} (hplain : ∀ a ∈ items, IsPlainText a) :
    ∀ c ∈ blockSource items, IsCode c := by
  have hitems : ∀ c ∈ List.intercalate ['|'] (items.map String.toList), IsCode c := by
    intro c hc
    rcases Phrase.mem_intercalate hc with hc | ⟨part, hpart, hc⟩
    · rw [List.mem_singleton.1 hc]
      decide
    · obtain ⟨a, ha, rfl⟩ := List.mem_map.1 hpart
      exact (hplain a ha).isCode c hc
  simp only [blockSource, List.forall_mem_cons, List.forall_mem_append]
  exact ⟨by decide, hitems, by decide, nofun⟩

theorem IsSound.isCode (h : b.IsSound) : ∀ c ∈ b.source.toList, IsCode c := by
  rw [source, String.toList_ofList]
  refine List.forall_mem_append.2 ⟨fun c hc => ?_, isCode_blockSource h.items⟩
  obtain ⟨tag, htag, hc⟩ := List.mem_flatMap.1 hc
  exact isCode_tagSource (h.tags tag htag).1 (h.tags tag htag).2 c hc

/-- A source begins with a tag and ends with a block. -/
theorem exists_source_eq (b : PlainBlock) : ∃ cs, b.source.toList = '[' :: (cs ++ ['\x7d']) := by
  obtain ⟨order, count, separator, before, after, items⟩ := b
  rw [source, String.toList_ofList, blockSource, ← List.cons_append, ← List.append_assoc]
  cases order <;> exact ⟨_, rfl⟩

/-- A source has tokens, and they write it. -/
theorem IsSound.tokenize_source (h : b.IsSound) :
    ∃ tokens, tokenize b.source = .ok tokens ∧ b.Writes tokens := by
  refine exists_tokenize h.isCode b.exists_source_eq ?_
  have hgives := gives_tags h.tags (gives_block h.ne h.items (.nil (Q := (· = [])) rfl))
  rw [List.append_nil] at hgives
  rw [source, String.toList_ofList]
  refine hgives.weaken ?_
  rintro _ ⟨lines, _, rfl, hlines, k, _, rfl, hk, rfl⟩
  rw [List.append_nil]
  exact .mk hlines hk

end PlainBlock

end Wordsmith
