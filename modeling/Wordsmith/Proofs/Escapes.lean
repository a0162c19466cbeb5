import Mathlib.Data.Nat.Digits.Defs
import Wordsmith.Proofs.Positions
import Wordsmith.Token.Literal

/-!
# What escapes are read as

The line is cut by one rule and the escape is taken apart by another: the one takes digits with a
comma behind them for a count and then counts the characters it needs, the other looks for the first
comma and takes whatever is behind it. Here is what both mean: a count (`Escape.Counted`) and a name
of a character (`Escape.Names`). An escape that was cut is one behind the other, and it is read as
that. It is nothing only if the name is that of half a surrogate pair, or the count is too large for a
word.

Main result: `escapes_read`.
-/

namespace Wordsmith

open Lexer Text

/-! ## Digits -/

theorem isSome_digitValue?_ten (c : Char) : (digitValue? 10 c).isSome = isDigit c := by
  unfold digitValue? isDigit
  split
  · next hc =>
    rw [hc]
    simp only [Bool.and_eq_true, decide_eq_true_eq] at hc
    have hhigh : c.toNat ≤ '9'.toNat := hc.2
    have hlt : c.toNat - '0'.toNat < 10 := by
      simp only [Char.reduceToNat] at hhigh ⊢
      omega
    simpa [Option.filter] using hlt
  · next hc =>
    rw [Bool.not_eq_true] at hc
    rw [hc]
    have hletter : ∀ n, ¬n + 10 < 10 := fun n => by omega
    split <;> (try split) <;> simp [Option.filter, hletter]

/-- All digits are characters of one byte. -/
theorem utf8Size_of_digitValue? {base : Nat} {c : Char} (h : (digitValue? base c).isSome) :
    c.utf8Size = 1 := by
  have hascii : ∀ d : Char, c ≤ d → d.toNat ≤ 127 → c.utf8Size = 1 := fun d hcd hd =>
    Char.utf8Size_eq_one_iff.2 (Nat.le_trans hcd hd)
  unfold digitValue? at h
  simp only [Bool.and_eq_true, decide_eq_true_eq] at h
  split at h
  · next hc => exact hascii _ hc.2 (by decide)
  · split at h
    · next hc => exact hascii _ hc.2 (by decide)
    · split at h
      · next hc => exact hascii _ hc.2 (by decide)
      · cases h

/-! ## Numbers -/

/-- The digits, the highest first, write the number in the base. -/
def WritesNumber (base : Nat) (cs : List Char) (n : Nat) : Prop :=
  cs ≠ [] ∧ ∃ values : List Nat, cs.map (digitValue? base) = values.map some ∧
    n = Nat.ofDigits base values.reverse

theorem exists_writesNumber {base : Nat} {cs : List Char} (hne : cs ≠ [])
    (hcs : ∀ c ∈ cs, (digitValue? base c).isSome) : ∃ n, WritesNumber base cs n := by
  refine ⟨_, hne, cs.filterMap (digitValue? base), ?_, rfl⟩
  clear hne
  induction cs with
  | nil => rfl
  | cons c cs ih =>
    obtain ⟨hc, hcs⟩ := List.forall_mem_cons.1 hcs
    obtain ⟨v, hv⟩ := Option.isSome_iff_exists.1 hc
    rw [List.map_cons, List.filterMap_cons_some hv, List.map_cons, ih hcs, hv]

theorem foldlM_digits {base : Nat} {cs : List Char} {values : List Nat}
    (h : cs.map (digitValue? base) = values.map some) (n : Nat) :
    cs.foldlM (fun n c => (digitValue? base c).map (n * base + ·)) n =
      some (n * base ^ values.length + Nat.ofDigits base values.reverse) := by
  induction cs generalizing values n with
  | nil =>
    cases values with
    | nil => simp
    | cons v values => cases h
  | cons c cs ih =>
    cases values with
    | nil => cases h
    | cons v values =>
      obtain ⟨hc, hcs⟩ := List.cons.inj h
      rw [List.foldlM_cons, hc, List.reverse_cons, Nat.ofDigits_append, Nat.ofDigits_singleton,
        List.length_reverse, List.length_cons]
      refine (ih hcs _).trans ?_
      congr 1
      ring

namespace WritesNumber

variable {base n : Nat} {cs : List Char} (h : WritesNumber base cs n)

include h

theorem isSome {c : Char} (hc : c ∈ cs) : (digitValue? base c).isSome := by
  obtain ⟨-, values, hvalues, -⟩ := h
  have hmem : digitValue? base c ∈ values.map some := hvalues ▸ List.mem_map_of_mem hc
  obtain ⟨v, -, hv⟩ := List.mem_map.1 hmem
  rw [← hv]
  rfl

theorem comma_notMem : ',' ∉ cs := fun hmem => by
  cases h.isSome hmem

theorem lt_pow (hbase : 1 < base) : n < base ^ cs.length := by
  obtain ⟨-, values, hvalues, rfl⟩ := h
  have hlength : cs.length = values.reverse.length := by
    simpa using congrArg List.length hvalues
  rw [hlength]
  refine Nat.ofDigits_lt_base_pow_length hbase fun v hv => ?_
  have hmem : some v ∈ cs.map (digitValue? base) :=
    hvalues ▸ List.mem_map_of_mem (List.mem_reverse.1 hv)
  obtain ⟨c, -, hc⟩ := List.mem_map.1 hmem
  exact of_decide_eq_true (Option.filter_eq_some_iff.1 hc).2

theorem digits?_eq : digits? base cs = some n := by
  obtain ⟨hne, values, hvalues, rfl⟩ := h
  unfold digits?
  split
  · exact absurd rfl hne
  · rw [foldlM_digits hvalues, Nat.zero_mul, Nat.zero_add]

/-- A number is read if it fits in a word. -/
theorem wordIn?_eq : wordIn? base cs = if n < wordSize then some n else none := by
  have hplus : ∀ rest, cs ≠ '+' :: rest := by
    rintro rest rfl
    have hsome := h.isSome List.mem_cons_self
    cases hsome
  unfold wordIn?
  split
  · next rest => exact absurd rfl (hplus rest)
  · simp [h.digits?_eq, Option.filter]

end WritesNumber

/-! ## Counts and names -/

namespace Escape

/-- What may stand in front of the name of an escape, and how often the character is printed. -/
inductive Counted : List Char → Nat → Prop
  | once : Counted [] 1
  | times {digits : List Char} {n : Nat} : WritesNumber 10 digits n → Counted (digits ++ [',']) n

/-- What names a character in an escape: the character, unless it is `u`, or four hexadecimal digits
behind a `u`. The halves of surrogate pairs are no characters. -/
inductive Names : List Char → Option EscapeBody → Prop
  | char {c : Char} : c ≠ 'u' → Names [c] (some (.code c))
  | point {hex : List Char} {c : Char} : hex.length = 4 → WritesNumber 16 hex c.toNat →
    Names ('u' :: hex) (some (.unicode c))
  | surrogate {hex : List Char} {n : Nat} : hex.length = 4 → WritesNumber 16 hex n →
    0xD800 ≤ n → n ≤ 0xDFFF → Names ('u' :: hex) none

variable {counted named : List Char} {n : Nat} {body : Option EscapeBody}

theorem charOfCode?_toNat (c : Char) : charOfCode? c.toNat = some c := by
  have hvalid : c.toNat.isValidChar := c.valid
  rw [charOfCode?, dif_pos hvalid]
  rfl

/-- What has four digits is read as four bytes and as a number that fits in a word. -/
theorem body?_hex {hex : List Char} (hlength : hex.length = 4) (h : WritesNumber 16 hex n) :
    body? ('u' :: hex) = (charOfCode? n).map .unicode := by
  have hbytes : byteLength hex = 4 := by
    have hone : hex.map (·.utf8Size) = List.replicate 4 1 :=
      List.eq_replicate_iff.2 ⟨by simpa using hlength, fun k hk => by
        obtain ⟨c, hc, rfl⟩ := List.mem_map.1 hk
        exact utf8Size_of_digitValue? (h.isSome hc)⟩
    rw [byteLength, hone]
    rfl
  have hword : n < wordSize := by
    have hlt := h.lt_pow (by decide)
    rw [hlength] at hlt
    exact hlt.trans (by decide)
  simp [body?, hbytes, h.wordIn?_eq, hword]

theorem Names.body?_eq (h : Names named body) : body? named = body := by
  cases h with
  | @char c hc =>
    unfold body?
    split
    · next hu => exact absurd (List.cons.inj hu).1 hc
    · next hc => cases hc; rfl
    · next hone => exact absurd rfl (hone c)
  | @point hex c hlength hhex => rw [body?_hex hlength hhex, charOfCode?_toNat]; rfl
  | @surrogate hex n hlength hhex hlow hhigh =>
    have hinvalid : ¬n.isValidChar := by
      unfold Nat.isValidChar
      omega
    rw [body?_hex hlength hhex, charOfCode?, dif_neg hinvalid]
    rfl

/-! ## Escapes that were cut -/

theorem splitFirst_of_notMem {mark : Char} {cs : List Char} (h : mark ∉ cs) :
    splitFirst mark cs = none := by
  induction cs with
  | nil => rfl
  | cons c cs ih =>
    obtain ⟨hc, hcs⟩ := not_or.1 (mt List.mem_cons.2 h)
    rw [splitFirst, if_neg (Ne.symm hc), ih hcs]
    rfl

theorem splitFirst_append {mark : Char} {cs : List Char} (h : mark ∉ cs) (rest : List Char) :
    splitFirst mark (cs ++ mark :: rest) = some (cs, rest) := by
  induction cs with
  | nil => simp [splitFirst]
  | cons c cs ih =>
    obtain ⟨hc, hcs⟩ := not_or.1 (mt List.mem_cons.2 h)
    rw [List.cons_append, splitFirst, if_neg (Ne.symm hc), ih hcs]
    rfl

/-- The first comma in a name has nothing in front of it. -/
theorem Names.eq_nil_of_splitFirst {before after : List Char} (h : Names named body)
    (hsplit : splitFirst ',' named = some (before, after)) : before = [] := by
  have hhex : ∀ {hex : List Char} {n : Nat}, WritesNumber 16 hex n → ',' ∉ 'u' :: hex :=
    fun hhex => List.not_mem_cons_of_ne_of_not_mem (by decide) hhex.comma_notMem
  cases h with
  | @char c _ =>
    rw [splitFirst] at hsplit
    split at hsplit
    · cases hsplit; rfl
    · cases hsplit
  | point _ h => cases hsplit.symm.trans (splitFirst_of_notMem (hhex h))
  | surrogate _ h => cases hsplit.symm.trans (splitFirst_of_notMem (hhex h))

/-- A count and a name are read as what they mean, if the count fits in a word. -/
theorem ofText?_eq (hcounted : Counted counted n) (hnamed : Names named body) :
    ofText? (.ofList ('\\' :: (counted ++ named))) =
      if n < wordSize then body.map fun body => ⟨n, body⟩ else none := by
  rw [ofText?, String.toList_ofList]
  cases hcounted with
  | once =>
    have hone : (1 : Nat) < wordSize := by decide
    simp only [List.nil_append, if_pos hone]
    split
    · next hsplit => cases hnamed.eq_nil_of_splitFirst hsplit
    · rw [hnamed.body?_eq]
  | @times digits n hdigits =>
    have hall : digits.all isDigit := List.all_eq_true.2 fun c hc => by
      rw [← isSome_digitValue?_ten]
      exact hdigits.isSome hc
    obtain ⟨d, more, rfl⟩ := List.exists_cons_of_ne_nil hdigits.1
    simp only [List.append_assoc, List.singleton_append, splitFirst_append hdigits.comma_notMem,
      if_pos hall, hdigits.wordIn?_eq, hnamed.body?_eq]
    split <;> rfl

/-- What is cut off behind a backslash is a count and a name. -/
theorem exists_names {cs text rest : List Char} (h : escapeBody cs = some (text, rest)) :
    ∃ body, Names text body := by
  unfold escapeBody at h
  split at h
  · next a b c d rest =>
    split at h
    · next hhex =>
      cases h
      obtain ⟨n, hn⟩ := exists_writesNumber (List.cons_ne_nil _ _) (List.all_eq_true.1 hhex)
      by_cases hvalid : n.isValidChar
      · exact ⟨_, .point (c := Char.ofNatAux n hvalid) rfl hn⟩
      · have hlt := hn.lt_pow (by decide)
        unfold Nat.isValidChar at hvalid
        simp only [List.length_cons, List.length_nil] at hlt
        exact ⟨_, .surrogate rfl hn (by omega) (by omega)⟩
    · cases h
  · cases h
  · next hnot =>
    split at h
    · cases h
    · cases h
      exact ⟨_, .char hnot⟩
  · cases h

theorem exists_counted {cs text rest : List Char} (h : escapeTail cs = some (text, rest)) :
    ∃ counted named n body, text = counted ++ named ∧ Counted counted n ∧ Names named body := by
  unfold escapeTail at h
  split at h
  · next d digits more hdigits _ =>
    obtain ⟨⟨named, r⟩, hnamed, heq⟩ := Option.map_eq_some_iff.1 h
    cases heq
    obtain ⟨body, hbody⟩ := exists_names hnamed
    obtain ⟨n, hn⟩ : ∃ n, WritesNumber 10 (d :: digits) n :=
      exists_writesNumber (List.cons_ne_nil d digits) fun c hc => by
        rw [isSome_digitValue?_ten]
        exact List.mem_takeWhile_imp (hdigits ▸ hc)
    exact ⟨_, named, n, body, by simp, .times hn, hbody⟩
  · obtain ⟨body, hbody⟩ := exists_names h
    exact ⟨[], text, 1, body, rfl, .once, hbody⟩

end Escape

/-- An escape is read as the count and the name that it was cut as. -/
theorem escapes_read {code : String} {tokens : List Token} (h : tokenize code = .ok tokens)
    {t : Token} (ht : t ∈ tokens) (hkind : t.kind = .escape) :
    ∃ counted named n body, t.text.toList = '\\' :: (counted ++ named) ∧
      Escape.Counted counted n ∧ Escape.Names named body ∧
      Escape.ofText? t.text = if n < wordSize then body.map fun body => ⟨n, body⟩ else none := by
  obtain ⟨c, rest, l, hl, hlkind, htext⟩ := exists_lexeme_of_lexLines h ht
  obtain ⟨tail, htail, hltext⟩ := escapeTail_of_lexeme hl (hlkind ▸ hkind)
  obtain ⟨counted, named, n, body, rfl, hcounted, hnamed⟩ := Escape.exists_counted htail
  refine ⟨counted, named, n, body, ?_, hcounted, hnamed, ?_⟩
  · rw [htext, String.toList_ofList, hltext]
  · rw [htext, hltext, Escape.ofText?_eq hcounted hnamed]

/-- A comma with a count, a letter by its code point, half of a surrogate pair, and a count that is
too large. -/
theorem escapes_read_commas :
    let code := "\\12,,\\u00e9\\ud800\\18446744073709551616,u0041"
    let tokens : List Token := [⟨.escape, "\\12,,", ⟨1, 1, 0⟩⟩, ⟨.escape, "\\u00e9", ⟨1, 6, 5⟩⟩,
      ⟨.escape, "\\ud800", ⟨1, 12, 11⟩⟩, ⟨.escape, "\\18446744073709551616,u0041", ⟨1, 18, 17⟩⟩]
    tokenize code = .ok tokens ∧
      (∀ t ∈ tokens, ∃ counted named n body, t.text.toList = '\\' :: (counted ++ named) ∧
        Escape.Counted counted n ∧ Escape.Names named body ∧
        Escape.ofText? t.text = if n < wordSize then body.map fun body => ⟨n, body⟩ else none) ∧
      tokens.map (Escape.ofText? ·.text) =
        [some ⟨12, .code ','⟩, some ⟨1, .unicode '\u00e9'⟩, none, none] := by
  intro code tokens
  have htokens : tokenize code = .ok tokens := by decide +kernel
  have hkind : ∀ t ∈ tokens, t.kind = .escape := by decide
  exact ⟨htokens, fun t ht => escapes_read htokens ht (hkind t ht), by decide +kernel⟩

end Wordsmith
