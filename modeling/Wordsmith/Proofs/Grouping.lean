import Mathlib.Data.List.Infix
import Wordsmith.Numeral

/-!
# Commas between thousands

The digits of a number are written from the front, and a comma is put in front of a digit if it and
those behind it are three, six, nine and so on, unless it is the first one. So where a comma stands,
and where two digits meet, what follows is told by the digits that are left: they are separated in
the same way.

Main result: `NumberFormat.group_apart`.
-/

namespace Wordsmith

namespace Numeral

variable {ds before after : List Char} {c d : Char}

/-- The number of digits in a text. -/
def digitCount (cs : List Char) : Nat := cs.countP Char.isDigit

/-- Commas stand inside a number at the places from which a multiple of three digits is left, and
nowhere else. -/
structure SetsApart (cs : List Char) : Prop where
  /-- No comma stands in front. -/
  front : cs.head? ≠ some ','
  /-- No comma stands behind the sign. -/
  sign : ¬['-', ','] <:+: cs
  /-- No two commas meet. -/
  single : ¬[',', ','] <:+: cs
  /-- Nothing but digits and commas stands behind a comma: 3, 6, 9, … digits up to the end. -/
  behind : ∀ before after, cs = before ++ ',' :: after →
    (∃ k, digitCount after = 3 * (k + 1)) ∧ ∀ c ∈ after, c.isDigit = true ∨ c = ','
  /-- Where two digits meet, another number of them is left. -/
  between : ∀ before c d after, cs = before ++ c :: d :: after → c.isDigit = true →
    d.isDigit = true → ¬3 ∣ digitCount (d :: after)

/-! ## Digits with commas -/

theorem head?_separate (ds : List Char) : (separate ds).head? = ds.head? := by
  fun_cases separate ds <;> rfl

theorem mem_separate (hc : c ∈ separate ds) : c ∈ ds ∨ c = ',' := by
  fun_induction separate ds with
  | case1 => cases hc
  | case2 => exact .inl hc
  | case3 d rest _ _ ih =>
    simp only [List.mem_cons] at hc ⊢
    rcases hc with hc | hc | hc
    · exact .inl (.inl hc)
    · exact .inr hc
    · exact (ih hc).imp .inr id
  | case4 d rest _ _ ih =>
    simp only [List.mem_cons] at hc ⊢
    rcases hc with hc | hc
    · exact .inl (.inl hc)
    · exact (ih hc).imp .inr id

theorem notMem_separate (hds : ∀ c ∈ ds, c.isDigit = true) (hc : c.isDigit = false)
    (hne : c ≠ ',') : c ∉ separate ds := fun hmem =>
  (mem_separate hmem).elim (fun hmem => Bool.noConfusion ((hds c hmem).symm.trans hc)) hne

theorem comma_notMem_digits (hds : ∀ c ∈ ds, c.isDigit = true) : ',' ∉ ds := fun hmem => by
  cases hds ',' hmem

/-- Without the commas, the digits are left. -/
theorem filter_separate (hds : ',' ∉ ds) : (separate ds).filter (· ≠ ',') = ds := by
  have hkeep : ∀ {c : Char} {rest cs : List Char}, ',' ∉ c :: rest →
      (c :: cs).filter (· ≠ ',') = c :: cs.filter (· ≠ ',') := fun hmem =>
    List.filter_cons_of_pos (decide_eq_true fun hc => hmem (hc ▸ List.mem_cons_self))
  fun_induction separate ds with
  | case1 => rfl
  | case2 c => exact hkeep hds
  | case3 c rest _ _ ih =>
    rw [hkeep hds, List.filter_cons_of_neg (by decide), ih (mt (List.mem_cons_of_mem c) hds)]
  | case4 c rest _ _ ih => rw [hkeep hds, ih (mt (List.mem_cons_of_mem c) hds)]

theorem digitCount_separate (hds : ∀ c ∈ ds, c.isDigit = true) :
    digitCount (separate ds) = ds.length := by
  have hkept : digitCount ((separate ds).filter (· ≠ ',')) = digitCount (separate ds) := by
    rw [digitCount, List.countP_filter]
    refine List.countP_congr fun c _ => ?_
    simp only [Bool.and_eq_true, decide_eq_true_eq, and_iff_left_iff_imp]
    rintro hc rfl
    cases hc
  rw [← hkept, filter_separate (comma_notMem_digits hds)]
  exact List.countP_eq_length.2 hds

/-- Behind a comma, a multiple of three digits is separated. -/
theorem exists_behind_comma (hds : ',' ∉ ds) (h : separate ds = before ++ ',' :: after) :
    ∃ rest, after = separate rest ∧ rest <:+ ds ∧ rest ≠ [] ∧ rest.length % 3 = 0 := by
  fun_induction separate ds generalizing before with
  | case1 => simp at h
  | case2 c =>
    cases before with
    | nil => exact absurd (List.cons.inj h).1.symm (mt List.mem_singleton.2 hds)
    | cons x before => simp at h
  | case3 c rest hne hlength ih =>
    obtain ⟨hc, hrest⟩ := not_or.1 (mt List.mem_cons.2 hds)
    match before, h with
    | [], h => exact absurd (List.cons.inj h).1.symm hc
    | [x], h =>
      obtain ⟨-, h⟩ := List.cons.inj h
      exact ⟨rest, (List.cons.inj h).2.symm, List.suffix_cons c rest, hne, hlength⟩
    | x :: y :: before, h =>
      obtain ⟨-, h⟩ := List.cons.inj h
      obtain ⟨behind, hafter, hsuffix, hbehind⟩ := ih hrest (List.cons.inj h).2
      exact ⟨behind, hafter, hsuffix.trans (List.suffix_cons c rest), hbehind⟩
  | case4 c rest hne hlength ih =>
    obtain ⟨hc, hrest⟩ := not_or.1 (mt List.mem_cons.2 hds)
    cases before with
    | nil => exact absurd (List.cons.inj h).1.symm hc
    | cons x before =>
      obtain ⟨behind, hafter, hsuffix, hbehind⟩ := ih hrest (List.cons.inj h).2
      exact ⟨behind, hafter, hsuffix.trans (List.suffix_cons c rest), hbehind⟩

/-- Where no comma stands between two digits, another number of them is separated. -/
theorem exists_between_digits (hc : c ≠ ',') (hd : d ≠ ',')
    (h : separate ds = before ++ c :: d :: after) :
    ∃ rest, d :: after = separate rest ∧ rest <:+ ds ∧ rest.length % 3 ≠ 0 := by
  fun_induction separate ds generalizing before with
  | case1 => simp at h
  | case2 x =>
    have hlength := congrArg List.length h
    simp only [List.length_append, List.length_cons, List.length_nil] at hlength
    omega
  | case3 x rest hne hlength ih =>
    match before, h with
    | [], h =>
      obtain ⟨-, h⟩ := List.cons.inj h
      exact absurd (List.cons.inj h).1.symm hd
    | [y], h =>
      obtain ⟨-, h⟩ := List.cons.inj h
      exact absurd (List.cons.inj h).1.symm hc
    | y :: z :: before, h =>
      obtain ⟨-, h⟩ := List.cons.inj h
      obtain ⟨behind, hafter, hsuffix, hbehind⟩ := ih (List.cons.inj h).2
      exact ⟨behind, hafter, hsuffix.trans (List.suffix_cons x rest), hbehind⟩
  | case4 x rest hne hlength ih =>
    cases before with
    | nil => exact ⟨rest, (List.cons.inj h).2.symm, List.suffix_cons x rest, hlength⟩
    | cons y before =>
      obtain ⟨behind, hafter, hsuffix, hbehind⟩ := ih (List.cons.inj h).2
      exact ⟨behind, hafter, hsuffix.trans (List.suffix_cons x rest), hbehind⟩

/-! ## Numbers -/

theorem setsApart_separate (hds : ∀ c ∈ ds, c.isDigit = true) : SetsApart (separate ds) := by
  have hcomma := comma_notMem_digits hds
  have digit : ∀ {x y : Char}, x.isDigit = true → y.isDigit = false → x ≠ y := by
    rintro x y hx hy rfl
    exact Bool.noConfusion (hx.symm.trans hy)
  have hfirst : ∀ {rest : List Char}, rest <:+ ds → (separate rest).head? ≠ some ',' :=
    fun hrest hhead =>
      hcomma (hrest.subset (List.mem_of_mem_head? (head?_separate _ ▸ hhead)))
  constructor
  case front => exact hfirst (List.suffix_refl ds)
  case sign =>
    rintro ⟨before, after, h⟩
    exact notMem_separate hds (c := '-') rfl (by decide) (h ▸ by simp)
  case single =>
    rintro ⟨before, after, h⟩
    rw [List.append_assoc] at h
    obtain ⟨rest, hafter, hsuffix, -⟩ := exists_behind_comma hcomma h.symm
    exact hfirst hsuffix (hafter ▸ rfl)
  case behind =>
    intro before after h
    obtain ⟨rest, rfl, hsuffix, hne, hlength⟩ := exists_behind_comma hcomma h
    have hrest : ∀ c ∈ rest, c.isDigit = true := fun c hc => hds c (hsuffix.subset hc)
    have hpos := List.length_pos_iff.2 hne
    refine ⟨⟨rest.length / 3 - 1, ?_⟩, fun c hc => (mem_separate hc).imp (hrest c) id⟩
    rw [digitCount_separate hrest]
    omega
  case between =>
    intro before c d after h hc hd
    obtain ⟨rest, hafter, hsuffix, hlength⟩ :=
      exists_between_digits (digit hc rfl) (digit hd rfl) h
    rw [hafter, digitCount_separate fun c hc => hds c (hsuffix.subset hc), Nat.dvd_iff_mod_eq_zero]
    exact hlength

/-- A sign in front changes nothing. -/
theorem SetsApart.minus {cs : List Char} (h : SetsApart cs) (hcs : '-' ∉ cs) :
    SetsApart ('-' :: cs) := by
  constructor
  case front => simp
  case sign =>
    intro hwithin
    rcases List.infix_cons_iff.1 hwithin with ⟨after, hprefix⟩ | hwithin
    · exact h.front (by rw [← (List.cons.inj hprefix).2]; rfl)
    · exact hcs (hwithin.subset List.mem_cons_self)
  case single =>
    intro hwithin
    rcases List.infix_cons_iff.1 hwithin with ⟨after, hprefix⟩ | hwithin
    · exact absurd (List.cons.inj hprefix).1 (by decide)
    · exact h.single hwithin
  case behind =>
    intro before after hsplit
    cases before with
    | nil => exact absurd (List.cons.inj hsplit).1 (by decide)
    | cons x before => exact h.behind before after (List.cons.inj hsplit).2
  case between =>
    intro before c d after hsplit hc hd
    cases before with
    | nil =>
      rw [← (List.cons.inj hsplit).1] at hc
      cases hc
    | cons x before => exact h.between before c d after (List.cons.inj hsplit).2 hc hd

end Numeral

open Numeral

/-- Written in groups, an integer is its decimal text with its thousands set apart by commas. -/
theorem NumberFormat.group_apart (n : Int) :
    (NumberFormat.group.write n).toList.filter (· ≠ ',') = (toString n).toList ∧
      SetsApart (NumberFormat.group.write n).toList := by
  have hdigits : ∀ m, ∀ c ∈ digits m, c.isDigit = true := fun m c hc =>
    Nat.isDigit_of_mem_toDigits (by decide) (by decide) hc
  have hfilter : ∀ m, (separate (digits m)).filter (· ≠ ',') = digits m := fun m =>
    filter_separate (comma_notMem_digits (hdigits m))
  rw [NumberFormat.write, grouped]
  cases n with
  | ofNat m =>
    have hplain : (toString (Int.ofNat m)).toList = digits m := String.toList_ofList
    rw [if_neg (by simp), String.toList_ofList, hplain]
    exact ⟨hfilter m, setsApart_separate (hdigits m)⟩
  | negSucc m =>
    have hplain : (toString (Int.negSucc m)).toList = '-' :: digits (m + 1) := by
      have htext : toString (Int.negSucc m) = "-" ++ .ofList (digits (m + 1)) := rfl
      rw [htext, String.toList_append]
      exact congrArg ('-' :: ·) String.toList_ofList
    have hminus : '-' ∉ separate (digits (m + 1)) :=
      notMem_separate (hdigits (m + 1)) rfl (by decide)
    rw [if_pos (by simp), String.toList_ofList, hplain]
    refine ⟨?_, (setsApart_separate (hdigits (m + 1))).minus hminus⟩
    rw [List.filter_cons_of_pos (by decide), Int.natAbs_negSucc, hfilter]

/-- The smallest integer of 64 bits. -/
example : NumberFormat.group.write (-9223372036854775808) = "-9,223,372,036,854,775,808" := by
  decide +kernel

end Wordsmith
