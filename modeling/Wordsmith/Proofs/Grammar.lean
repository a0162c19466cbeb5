import Mathlib.Data.List.TakeWhile
import Wordsmith.Expression

/-!
# The grammar of expressions

Expressions are the words of a grammar: a sum is a product and further terms, a product is a signed
atom and further factors, and an atom is a number or a sum in parentheses. A syntax tree has the
characters that it was read from and the value that they stand for. Readers that look one character
ahead are right about every text, because what follows a part is never what would go on with it.

Main result: `evaluate_grammar`.
-/

namespace Wordsmith.Expression

open Text

/-! ## Syntax trees -/

/-- A sign, which is also an operator between two terms. -/
inductive Sign where
  | plus
  | minus

/-- An operator between two factors. -/
inductive Scaling where
  | product
  | quotient
  | remainder

/-- A number as it stands in an expression: digits and points that are read as one. -/
structure Literal where
  chars : List Char
  value : Float
  chars_ne_nil : chars ≠ []
  isNumberPart_of_mem : ∀ c ∈ chars, isNumberPart c
  ofText?_chars : Decimal.ofText? (.ofList chars) = some value

mutual

/-- A product with further terms. -/
inductive SumTree where
  | mk (first : ProductTree) (terms : TermsTree)

/-- The further terms of a sum, each behind its operator. -/
inductive TermsTree where
  | nil
  | cons (op : Sign) (term : ProductTree) (terms : TermsTree)

/-- A signed atom with further factors. -/
inductive ProductTree where
  | mk (first : SignedTree) (factors : FactorsTree)

/-- The further factors of a product, each behind its operator. -/
inductive FactorsTree where
  | nil
  | cons (op : Scaling) (factor : SignedTree) (factors : FactorsTree)

/-- An atom with any number of signs in front. -/
inductive SignedTree where
  | sign (sign : Sign) (tree : SignedTree)
  | atom (tree : AtomTree)

/-- A number, or a sum in parentheses. -/
inductive AtomTree where
  | number (literal : Literal)
  | group (tree : SumTree)

end

/-! ### The characters of a tree -/

/-- The character of a sign. -/
def Sign.char : Sign → Char
  | plus => '+'
  | minus => '-'

/-- The character of an operator. -/
def Scaling.char : Scaling → Char
  | product => '*'
  | quotient => '/'
  | remainder => '%'

mutual

/-- The characters of a sum. -/
def SumTree.chars : SumTree → List Char
  | .mk first terms => first.chars ++ terms.chars

/-- The characters of further terms. -/
def TermsTree.chars : TermsTree → List Char
  | .nil => []
  | .cons op term terms => op.char :: (term.chars ++ terms.chars)

/-- The characters of a product. -/
def ProductTree.chars : ProductTree → List Char
  | .mk first factors => first.chars ++ factors.chars

/-- The characters of further factors. -/
def FactorsTree.chars : FactorsTree → List Char
  | .nil => []
  | .cons op factor factors => op.char :: (factor.chars ++ factors.chars)

/-- The characters of a signed atom. -/
def SignedTree.chars : SignedTree → List Char
  | .sign sign tree => sign.char :: tree.chars
  | .atom tree => tree.chars

/-- The characters of an atom. -/
def AtomTree.chars : AtomTree → List Char
  | .number literal => literal.chars
  | .group tree => '(' :: (tree.chars ++ [')'])

end

/-! ### The value of a tree -/

/-- What a sign in front makes of a value. -/
def Sign.signed : Sign → Float → Float
  | plus, x => x
  | minus, x => -x

/-- What the operator makes of two values. -/
def Sign.apply : Sign → Float → Float → Float
  | plus, x, y => x + y
  | minus, x, y => x - y

/-- What the operator makes of two values. -/
def Scaling.apply : Scaling → Float → Float → Float
  | product, x, y => x * y
  | quotient, x, y => x / y
  | remainder, x, y => Decimal.remainder x y

/-- A value that is divided by is not zero. -/
def Scaling.Allows : Scaling → Float → Prop
  | product, _ => True
  | quotient, y => ¬ y == 0
  | remainder, y => ¬ y == 0

mutual

/-- The value of a sum. -/
def SumTree.value : SumTree → Float
  | .mk first terms => terms.added first.value

/-- What further terms make of the value in front of them: the first is added first. -/
def TermsTree.added : TermsTree → Float → Float
  | .nil, x => x
  | .cons op term terms, x => terms.added (op.apply x term.value)

/-- The value of a product. -/
def ProductTree.value : ProductTree → Float
  | .mk first factors => factors.multiplied first.value

/-- What further factors make of the value in front of them: the first is applied first. -/
def FactorsTree.multiplied : FactorsTree → Float → Float
  | .nil, x => x
  | .cons op factor factors, x => factors.multiplied (op.apply x factor.value)

/-- The value of a signed atom. -/
def SignedTree.value : SignedTree → Float
  | .sign sign tree => sign.signed tree.value
  | .atom tree => tree.value

/-- The value of an atom. -/
def AtomTree.value : AtomTree → Float
  | .number literal => literal.value
  | .group tree => tree.value

end

mutual

/-- Nothing in a sum is divided by zero. -/
def SumTree.IsDefined : SumTree → Prop
  | .mk first terms => first.IsDefined ∧ terms.IsDefined

/-- Nothing in further terms is divided by zero. -/
def TermsTree.IsDefined : TermsTree → Prop
  | .nil => True
  | .cons _ term terms => term.IsDefined ∧ terms.IsDefined

/-- Nothing in a product is divided by zero. -/
def ProductTree.IsDefined : ProductTree → Prop
  | .mk first factors => first.IsDefined ∧ factors.IsDefined

/-- Nothing in further factors is divided by zero, and nothing by one of them that is zero. -/
def FactorsTree.IsDefined : FactorsTree → Prop
  | .nil => True
  | .cons op factor factors =>
    factor.IsDefined ∧ op.Allows factor.value ∧ factors.IsDefined

/-- Nothing in a signed atom is divided by zero. -/
def SignedTree.IsDefined : SignedTree → Prop
  | .sign _ tree => tree.IsDefined
  | .atom tree => tree.IsDefined

/-- Nothing in an atom is divided by zero. -/
def AtomTree.IsDefined : AtomTree → Prop
  | .number _ => True
  | .group tree => tree.IsDefined

end

variable {cs rest rest' : List Char} {x v : Float}

/-! ## What the readers give -/

/-- The value that a reader gives and the characters it leaves, or its error. -/
def outcome {p : List Char → Prop}
    (result : Except ExpressionError (Float × { rest : List Char // p rest })) :
    Except ExpressionError (Float × List Char) :=
  result.map fun r => (r.1, r.2)

theorem outcome_eq_ok {p : List Char → Prop}
    {result : Except ExpressionError (Float × { rest : List Char // p rest })} :
    outcome result = .ok (v, rest) ↔ ∃ h, result = .ok (v, ⟨rest, h⟩) := by
  constructor
  · intro h
    rcases result with e | ⟨x, mid, hmid⟩
    · cases h
    · cases h
      exact ⟨hmid, rfl⟩
  · rintro ⟨h, rfl⟩
    rfl

theorem exists_of_bind_eq_ok {α β : Type} {result : Except ExpressionError α}
    {next : α → Except ExpressionError β} {b : β} (h : (result >>= next) = .ok b) :
    ∃ a, result = .ok a ∧ next a = .ok b := by
  cases result with
  | error e => cases h
  | ok a => exact ⟨a, rfl, h⟩

theorem add_char (op : Sign) (x y : Float) : add op.char x y = op.apply x y := by
  cases op <;> rfl

theorem multiply_eq_ok {op : Scaling} {y z : Float} :
    multiply op.char x y = .ok z ↔ op.Allows y ∧ op.apply x y = z := by
  cases op with
  | product => simp [multiply, Scaling.char, Scaling.Allows, Scaling.apply]
  | quotient =>
    cases hy : y == 0 <;> simp [multiply, Scaling.char, Scaling.Allows, Scaling.apply, hy]
  | remainder =>
    cases hy : y == 0 <;> simp [multiply, Scaling.char, Scaling.Allows, Scaling.apply, hy]

theorem outcome_sum :
    outcome (sum cs) = outcome (product cs) >>= fun r => outcome (sumTail r.1 r.2) := by
  rw [sum]
  rcases product cs with e | ⟨x, mid, hmid⟩
  · rfl
  · dsimp only
    change _ = outcome (sumTail x mid)
    rcases sumTail x mid with e | ⟨y, rest, hrest⟩ <;> rfl

theorem outcome_sumTail_cons (op : Sign) (x : Float) (cs : List Char) :
    outcome (sumTail x (op.char :: cs)) =
      outcome (product cs) >>= fun r => outcome (sumTail (op.apply x r.1) r.2) := by
  have hop : (op.char = '+' || op.char = '-') = true := by cases op <;> rfl
  rw [sumTail, if_pos hop]
  rcases product cs with e | ⟨y, mid, hmid⟩
  · rfl
  · change _ = outcome (sumTail (op.apply x y) mid)
    simp only [add_char]
    rcases sumTail (op.apply x y) mid with e | ⟨z, rest, hrest⟩ <;> rfl

theorem outcome_sumTail (h : ∀ op : Sign, cs.head? ≠ some op.char) :
    outcome (sumTail x cs) = .ok (x, cs) := by
  rw [sumTail.eq_def]
  cases cs with
  | nil => rfl
  | cons c cs =>
    have hplus : c ≠ '+' := fun hc => h .plus (congrArg some hc)
    have hminus : c ≠ '-' := fun hc => h .minus (congrArg some hc)
    simp only [hplus, hminus, decide_false, Bool.or_self, Bool.false_eq_true, if_false]
    rfl

theorem outcome_product :
    outcome (product cs) = outcome (signed cs) >>= fun r => outcome (productTail r.1 r.2) := by
  rw [product]
  rcases signed cs with e | ⟨x, mid, hmid⟩
  · rfl
  · dsimp only
    change _ = outcome (productTail x mid)
    rcases productTail x mid with e | ⟨y, rest, hrest⟩ <;> rfl

theorem outcome_productTail_cons (op : Scaling) (x : Float) (cs : List Char) :
    outcome (productTail x (op.char :: cs)) = outcome (signed cs) >>= fun r =>
      multiply op.char x r.1 >>= fun z => outcome (productTail z r.2) := by
  have hop : (op.char = '*' || op.char = '/' || op.char = '%') = true := by cases op <;> rfl
  rw [productTail, if_pos hop]
  rcases signed cs with e | ⟨y, mid, hmid⟩
  · rfl
  · dsimp only
    change _ = multiply op.char x y >>= fun z => outcome (productTail z mid)
    rcases multiply op.char x y with e | z
    · rfl
    · dsimp only
      change _ = outcome (productTail z mid)
      rcases productTail z mid with e | ⟨w, rest, hrest⟩ <;> rfl

theorem outcome_productTail (h : ∀ op : Scaling, cs.head? ≠ some op.char) :
    outcome (productTail x cs) = .ok (x, cs) := by
  rw [productTail.eq_def]
  cases cs with
  | nil => rfl
  | cons c cs =>
    have hproduct : c ≠ '*' := fun hc => h .product (congrArg some hc)
    have hquotient : c ≠ '/' := fun hc => h .quotient (congrArg some hc)
    have hremainder : c ≠ '%' := fun hc => h .remainder (congrArg some hc)
    simp only [hproduct, hquotient, hremainder, decide_false, Bool.or_self, Bool.false_eq_true,
      if_false]
    rfl

theorem outcome_signed_cons (op : Sign) (cs : List Char) :
    outcome (signed (op.char :: cs)) =
      outcome (signed cs) >>= fun r => .ok (op.signed r.1, r.2) := by
  cases op with
  | plus =>
    rw [Sign.char, signed]
    rcases signed cs with e | ⟨x, rest, hrest⟩ <;> rfl
  | minus =>
    rw [Sign.char, signed]
    rcases signed cs with e | ⟨x, rest, hrest⟩ <;> rfl

theorem outcome_signed (h : ∀ op : Sign, cs.head? ≠ some op.char) :
    outcome (signed cs) = outcome (atom cs) := by
  rw [signed]
  · exact fun rest hcs => h .minus (hcs ▸ rfl)
  · exact fun rest hcs => h .plus (hcs ▸ rfl)

theorem outcome_atom_group (cs : List Char) :
    outcome (atom ('(' :: cs)) = outcome (sum cs) >>= fun r =>
      match r.2 with
      | ')' :: rest => .ok (r.1, rest)
      | c :: _ => .error (.unexpected c)
      | [] => .error .unexpectedEnd := by
  rw [atom]
  rcases sum cs with e | ⟨x, rest, hrest⟩
  · rfl
  · cases rest with
    | nil => rfl
    | cons c rest =>
      by_cases hc : c = ')'
      · subst hc
        rfl
      · simp only [outcome, Except.map, Bind.bind, Except.bind]

theorem outcome_atom_number {c : Char} (hc : isNumberPart c) (cs : List Char) :
    outcome (atom (c :: cs)) =
      match Decimal.ofText? (.ofList (c :: cs.takeWhile isNumberPart)) with
      | some x => .ok (x, cs.dropWhile isNumberPart)
      | none => .error (.number (.ofList (c :: cs.takeWhile isNumberPart))) := by
  rw [atom, if_pos hc, number]
  · cases Decimal.ofText? (.ofList (c :: cs.takeWhile isNumberPart)) <;> rfl
  · rintro rfl
    exact absurd hc (by decide)

theorem outcome_atom_of_not {c : Char} (hopen : c ≠ '(') (hc : ¬ isNumberPart c) (cs : List Char) :
    outcome (atom (c :: cs)) = .error (.unexpected c) := by
  rw [atom, if_neg hc]
  · rfl
  · exact hopen

/-! ## Everything that is read is in the grammar -/

theorem exists_cons_or_head?_ne {ι : Type} (char : ι → Char) (cs : List Char) :
    (∃ i cs', cs = char i :: cs') ∨ ∀ i, cs.head? ≠ some (char i) := by
  refine or_iff_not_imp_left.2 fun h i hhead => ?_
  obtain ⟨cs', rfl⟩ := List.head?_eq_some_iff.1 hhead
  exact h ⟨i, cs', rfl⟩

theorem length_lt_of_outcome {cs : List Char} {result : Parsed cs}
    (h : outcome result = .ok (v, rest)) : rest.length < cs.length :=
  (outcome_eq_ok.1 h).1

mutual

theorem exists_sumTree {cs rest : List Char} {v : Float}
    (h : outcome (sum cs) = .ok (v, rest)) :
    ∃ t : SumTree, cs = t.chars ++ rest ∧ t.IsDefined ∧ t.value = v := by
  rw [outcome_sum] at h
  obtain ⟨⟨x, mid⟩, hfirst, hterms⟩ := exists_of_bind_eq_ok h
  dsimp only at hterms
  have hlt := length_lt_of_outcome hfirst
  obtain ⟨first, hcs, hdefined, hx⟩ := exists_productTree hfirst
  obtain ⟨terms, hmid, hdefined', hv⟩ := exists_termsTree hterms
  refine ⟨.mk first terms, ?_, ⟨hdefined, hdefined'⟩, ?_⟩
  · rw [hcs, hmid, SumTree.chars, List.append_assoc]
  · rw [SumTree.value, hx, hv]
termination_by (cs.length, 3)

theorem exists_termsTree {cs rest : List Char} {x v : Float}
    (h : outcome (sumTail x cs) = .ok (v, rest)) :
    ∃ t : TermsTree, cs = t.chars ++ rest ∧ t.IsDefined ∧ t.added x = v := by
  rcases exists_cons_or_head?_ne Sign.char cs with ⟨op, tail, hcs⟩ | hother
  · rw [hcs, outcome_sumTail_cons] at h
    obtain ⟨⟨y, mid⟩, hterm, hterms⟩ := exists_of_bind_eq_ok h
    dsimp only at hterms
    have hlt := length_lt_of_outcome hterm
    have hcons : cs.length = tail.length + 1 := hcs ▸ rfl
    obtain ⟨term, htail, hdefined, hy⟩ := exists_productTree hterm
    obtain ⟨terms, hmid, hdefined', hv⟩ := exists_termsTree hterms
    refine ⟨.cons op term terms, ?_, ⟨hdefined, hdefined'⟩, ?_⟩
    · rw [hcs, htail, hmid, TermsTree.chars, List.cons_append, List.append_assoc]
    · rw [TermsTree.added, hy, hv]
  · rw [outcome_sumTail hother] at h
    cases h
    exact ⟨.nil, rfl, trivial, rfl⟩
termination_by (cs.length, 0)

theorem exists_productTree {cs rest : List Char} {v : Float}
    (h : outcome (product cs) = .ok (v, rest)) :
    ∃ t : ProductTree, cs = t.chars ++ rest ∧ t.IsDefined ∧ t.value = v := by
  rw [outcome_product] at h
  obtain ⟨⟨x, mid⟩, hfirst, hfactors⟩ := exists_of_bind_eq_ok h
  dsimp only at hfactors
  have hlt := length_lt_of_outcome hfirst
  obtain ⟨first, hcs, hdefined, hx⟩ := exists_signedTree hfirst
  obtain ⟨factors, hmid, hdefined', hv⟩ := exists_factorsTree hfactors
  refine ⟨.mk first factors, ?_, ⟨hdefined, hdefined'⟩, ?_⟩
  · rw [hcs, hmid, ProductTree.chars, List.append_assoc]
  · rw [ProductTree.value, hx, hv]
termination_by (cs.length, 2)

theorem exists_factorsTree {cs rest : List Char} {x v : Float}
    (h : outcome (productTail x cs) = .ok (v, rest)) :
    ∃ t : FactorsTree, cs = t.chars ++ rest ∧ t.IsDefined ∧ t.multiplied x = v := by
  rcases exists_cons_or_head?_ne Scaling.char cs with ⟨op, tail, hcs⟩ | hother
  · rw [hcs, outcome_productTail_cons] at h
    obtain ⟨⟨y, mid⟩, hfactor, hnext⟩ := exists_of_bind_eq_ok h
    obtain ⟨z, hz, hfactors⟩ := exists_of_bind_eq_ok hnext
    dsimp only at hz hfactors
    have hlt := length_lt_of_outcome hfactor
    have hcons : cs.length = tail.length + 1 := hcs ▸ rfl
    obtain ⟨factor, htail, hdefined, hy⟩ := exists_signedTree hfactor
    obtain ⟨hallows, hz⟩ := multiply_eq_ok.1 hz
    obtain ⟨factors, hmid, hdefined', hv⟩ := exists_factorsTree hfactors
    refine ⟨.cons op factor factors, ?_, ⟨hdefined, hy ▸ hallows, hdefined'⟩, ?_⟩
    · rw [hcs, htail, hmid, FactorsTree.chars, List.cons_append, List.append_assoc]
    · rw [FactorsTree.multiplied, hy, hz, hv]
  · rw [outcome_productTail hother] at h
    cases h
    exact ⟨.nil, rfl, trivial, rfl⟩
termination_by (cs.length, 0)

theorem exists_signedTree {cs rest : List Char} {v : Float}
    (h : outcome (signed cs) = .ok (v, rest)) :
    ∃ t : SignedTree, cs = t.chars ++ rest ∧ t.IsDefined ∧ t.value = v := by
  rcases exists_cons_or_head?_ne Sign.char cs with ⟨sign, tail, hcs⟩ | hother
  · rw [hcs, outcome_signed_cons] at h
    obtain ⟨⟨x, mid⟩, hsigned, hv⟩ := exists_of_bind_eq_ok h
    have hcons : cs.length = tail.length + 1 := hcs ▸ rfl
    cases hv
    obtain ⟨tree, htail, hdefined, hx⟩ := exists_signedTree hsigned
    exact ⟨.sign sign tree, by rw [hcs, htail]; rfl, hdefined, by rw [SignedTree.value, hx]⟩
  · rw [outcome_signed hother] at h
    obtain ⟨tree, hcs, hdefined, hv⟩ := exists_atomTree h
    exact ⟨.atom tree, hcs, hdefined, hv⟩
termination_by (cs.length, 1)

theorem exists_atomTree {cs rest : List Char} {v : Float}
    (h : outcome (atom cs) = .ok (v, rest)) :
    ∃ t : AtomTree, cs = t.chars ++ rest ∧ t.IsDefined ∧ t.value = v := by
  match cs with
  | [] =>
    rw [atom] at h
    cases h
  | c :: tail =>
    by_cases hopen : c = '('
    · rw [hopen, outcome_atom_group] at h
      obtain ⟨⟨x, mid⟩, hsum, hclose⟩ := exists_of_bind_eq_ok h
      dsimp only at hclose
      split at hclose
      · cases hclose
        obtain ⟨tree, htail, hdefined, hv⟩ := exists_sumTree hsum
        refine ⟨.group tree, ?_, hdefined, hv⟩
        rw [hopen, htail, AtomTree.chars, List.cons_append, List.append_assoc,
          List.singleton_append]
      · cases hclose
      · cases hclose
    · by_cases hc : isNumberPart c
      · rw [outcome_atom_number hc] at h
        split at h
        · next x hread =>
          cases h
          refine ⟨.number ⟨c :: tail.takeWhile isNumberPart, v, List.cons_ne_nil _ _, ?_, hread⟩,
            ?_, trivial, rfl⟩
          · refine List.forall_mem_cons.2 ⟨hc, fun d hd => ?_⟩
            exact List.mem_takeWhile_imp hd
          · exact congrArg (c :: ·) List.takeWhile_append_dropWhile.symm
        · cases h
      · rw [outcome_atom_of_not hopen hc] at h
        cases h
termination_by (cs.length, 0)

end

/-! ## Everything in the grammar is read -/

/-- The text does not begin with a character that would go on with a number, nor with one of the
marks. -/
def Ends (marks : List Char) (rest : List Char) : Prop :=
  ∀ c ∈ rest.head?, ¬ isNumberPart c ∧ c ∉ marks

/-- The marks that go on with a product. -/
def factorMarks : List Char := ['*', '/', '%']

/-- The marks that go on with a sum, or with its last product. -/
def termMarks : List Char := ['+', '-', '*', '/', '%']

theorem Ends.mono {marks marks' : List Char} (h : Ends marks rest) (hsub : marks' ⊆ marks) :
    Ends marks' rest :=
  fun c hc => ⟨(h c hc).1, fun hmem => (h c hc).2 (hsub hmem)⟩

theorem Ends.head?_ne {ι : Type} {char : ι → Char} {marks : List Char} (h : Ends marks rest)
    (hmem : ∀ i, char i ∈ marks) (i : ι) : rest.head? ≠ some (char i) :=
  fun hhead => (h _ hhead).2 (hmem i)

theorem Sign.mem_termMarks (op : Sign) : op.char ∈ termMarks := by cases op <;> decide

theorem Scaling.mem_factorMarks (op : Scaling) : op.char ∈ factorMarks := by cases op <;> decide

/-- A product is over where a further term begins. -/
theorem Sign.ends (op : Sign) (rest : List Char) : Ends factorMarks (op.char :: rest) := by
  intro c hc
  cases hc
  cases op <;> decide

/-- An atom is over where a further factor begins. -/
theorem Scaling.ends (op : Scaling) (rest : List Char) : Ends [] (op.char :: rest) := by
  intro c hc
  cases hc
  cases op <;> decide

theorem ends_close (rest : List Char) : Ends termMarks (')' :: rest) := by
  intro c hc
  cases hc
  decide

theorem TermsTree.ends (t : TermsTree) (hrest : Ends termMarks rest) :
    Ends factorMarks (t.chars ++ rest) := by
  cases t with
  | nil => exact hrest.mono (by decide)
  | cons op term terms => exact op.ends _

theorem FactorsTree.ends (t : FactorsTree) (hrest : Ends factorMarks rest) :
    Ends [] (t.chars ++ rest) := by
  cases t with
  | nil => exact hrest.mono (by decide)
  | cons op factor factors => exact op.ends _

/-- A number is as long as there are digits and points. -/
theorem Literal.takeWhile_append (n : Literal) (hrest : Ends [] rest) :
    (n.chars ++ rest).takeWhile isNumberPart = n.chars := by
  have hstop : rest.takeWhile isNumberPart = [] := by
    cases rest with
    | nil => rfl
    | cons c rest => exact List.takeWhile_cons_of_neg (hrest c rfl).1
  rw [List.takeWhile_append_of_pos n.isNumberPart_of_mem, hstop, List.append_nil]

theorem Literal.dropWhile_append (n : Literal) (hrest : Ends [] rest) :
    (n.chars ++ rest).dropWhile isNumberPart = rest := by
  have hwhole : (n.chars ++ rest).takeWhile isNumberPart ++
      (n.chars ++ rest).dropWhile isNumberPart = n.chars ++ rest :=
    List.takeWhile_append_dropWhile
  rw [n.takeWhile_append hrest] at hwhole
  exact List.append_cancel_left hwhole

theorem Literal.head?_ne (n : Literal) (rest : List Char) {c : Char} (hc : ¬ isNumberPart c) :
    (n.chars ++ rest).head? ≠ some c := by
  obtain ⟨d, cs, hcs⟩ := List.exists_cons_of_ne_nil n.chars_ne_nil
  have hd : isNumberPart d := n.isNumberPart_of_mem d (hcs ▸ List.mem_cons_self)
  intro hhead
  rw [hcs] at hhead
  cases hhead
  exact hc hd

/-- An atom begins with a digit, a point or a parenthesis, so with no sign. -/
theorem AtomTree.head?_ne (t : AtomTree) (rest : List Char) (op : Sign) :
    (t.chars ++ rest).head? ≠ some op.char := by
  cases t with
  | number n => exact n.head?_ne rest (by cases op <;> decide)
  | group t => cases op <;> simp [AtomTree.chars, Sign.char]

mutual

theorem SumTree.outcome_append {rest : List Char} (t : SumTree) (hdefined : t.IsDefined)
    (hrest : Ends termMarks rest) : outcome (sum (t.chars ++ rest)) = .ok (t.value, rest) := by
  match t with
  | .mk first terms =>
    rw [SumTree.chars, List.append_assoc, outcome_sum,
      first.outcome_append hdefined.1 (terms.ends hrest)]
    exact terms.outcome_append hdefined.2 hrest first.value

theorem TermsTree.outcome_append {rest : List Char} (t : TermsTree) (hdefined : t.IsDefined)
    (hrest : Ends termMarks rest) (x : Float) :
    outcome (sumTail x (t.chars ++ rest)) = .ok (t.added x, rest) := by
  match t with
  | .nil => exact outcome_sumTail (hrest.head?_ne Sign.mem_termMarks)
  | .cons op term terms =>
    rw [TermsTree.chars, List.cons_append, List.append_assoc, outcome_sumTail_cons,
      term.outcome_append hdefined.1 (terms.ends hrest)]
    exact terms.outcome_append hdefined.2 hrest (op.apply x term.value)

theorem ProductTree.outcome_append {rest : List Char} (t : ProductTree) (hdefined : t.IsDefined)
    (hrest : Ends factorMarks rest) :
    outcome (product (t.chars ++ rest)) = .ok (t.value, rest) := by
  match t with
  | .mk first factors =>
    rw [ProductTree.chars, List.append_assoc, outcome_product,
      first.outcome_append hdefined.1 (factors.ends hrest)]
    exact factors.outcome_append hdefined.2 hrest first.value

theorem FactorsTree.outcome_append {rest : List Char} (t : FactorsTree) (hdefined : t.IsDefined)
    (hrest : Ends factorMarks rest) (x : Float) :
    outcome (productTail x (t.chars ++ rest)) = .ok (t.multiplied x, rest) := by
  match t with
  | .nil => exact outcome_productTail (hrest.head?_ne Scaling.mem_factorMarks)
  | .cons op factor factors =>
    obtain ⟨hfactor, hallows, hfactors⟩ := hdefined
    have hmultiply := (multiply_eq_ok (x := x)).2 ⟨hallows, rfl⟩
    rw [FactorsTree.chars, List.cons_append, List.append_assoc, outcome_productTail_cons,
      factor.outcome_append hfactor (factors.ends hrest)]
    change (multiply op.char x factor.value >>= fun z => outcome (productTail z _)) = _
    rw [hmultiply]
    exact factors.outcome_append hfactors hrest (op.apply x factor.value)

theorem SignedTree.outcome_append {rest : List Char} (t : SignedTree) (hdefined : t.IsDefined)
    (hrest : Ends [] rest) : outcome (signed (t.chars ++ rest)) = .ok (t.value, rest) := by
  match t with
  | .sign sign tree =>
    rw [SignedTree.chars, List.cons_append, outcome_signed_cons,
      tree.outcome_append hdefined hrest]
    rfl
  | .atom tree =>
    rw [SignedTree.chars, outcome_signed (tree.head?_ne rest)]
    exact tree.outcome_append hdefined hrest

theorem AtomTree.outcome_append {rest : List Char} (t : AtomTree) (hdefined : t.IsDefined)
    (hrest : Ends [] rest) : outcome (atom (t.chars ++ rest)) = .ok (t.value, rest) := by
  match t with
  | .number n =>
    obtain ⟨c, cs, hcs⟩ := List.exists_cons_of_ne_nil n.chars_ne_nil
    have hc : isNumberPart c := n.isNumberPart_of_mem c (hcs ▸ List.mem_cons_self)
    have htake := n.takeWhile_append hrest
    have hdrop := n.dropWhile_append hrest
    have hread := n.ofText?_chars
    rw [hcs, List.cons_append, List.takeWhile_cons_of_pos hc] at htake
    rw [hcs, List.cons_append, List.dropWhile_cons_of_pos hc] at hdrop
    rw [hcs] at hread
    rw [AtomTree.chars, hcs, List.cons_append, outcome_atom_number hc, htake, hread, hdrop]
    rfl
  | .group tree =>
    rw [AtomTree.chars, List.cons_append, List.append_assoc, List.singleton_append,
      outcome_atom_group, tree.outcome_append hdefined (ends_close rest)]
    rfl

end

/-! ## No text has two trees -/

theorem Sign.char_injective : Function.Injective Sign.char := by
  intro op op' h
  cases op <;> cases op' <;> first | rfl | cases h

theorem Scaling.char_injective : Function.Injective Scaling.char := by
  intro op op' h
  cases op <;> cases op' <;> first | rfl | cases h

theorem Literal.eq_of_chars {n n' : Literal} (h : n.chars = n'.chars) : n = n' := by
  obtain ⟨cs, v, hne, hparts, hread⟩ := n
  obtain ⟨cs', v', hne', hparts', hread'⟩ := n'
  obtain rfl : cs = cs' := h
  obtain rfl : v = v' := Option.some.inj (hread.symm.trans hread')
  rfl

mutual

theorem SumTree.eq_of_chars {rest rest' : List Char} (t t' : SumTree)
    (h : t.chars ++ rest = t'.chars ++ rest') (hrest : Ends termMarks rest)
    (hrest' : Ends termMarks rest') : t = t' ∧ rest = rest' := by
  match t, t' with
  | .mk first terms, .mk first' terms' =>
    rw [SumTree.chars, SumTree.chars, List.append_assoc, List.append_assoc] at h
    obtain ⟨rfl, hterms⟩ := first.eq_of_chars first' h (terms.ends hrest) (terms'.ends hrest')
    obtain ⟨rfl, hrest⟩ := terms.eq_of_chars terms' hterms hrest hrest'
    exact ⟨rfl, hrest⟩

theorem TermsTree.eq_of_chars {rest rest' : List Char} (t t' : TermsTree)
    (h : t.chars ++ rest = t'.chars ++ rest') (hrest : Ends termMarks rest)
    (hrest' : Ends termMarks rest') : t = t' ∧ rest = rest' := by
  match t, t' with
  | .nil, .nil => exact ⟨rfl, h⟩
  | .nil, .cons op term terms =>
    exact absurd (congrArg List.head? h) (hrest.head?_ne Sign.mem_termMarks op)
  | .cons op term terms, .nil =>
    exact absurd (congrArg List.head? h).symm (hrest'.head?_ne Sign.mem_termMarks op)
  | .cons op term terms, .cons op' term' terms' =>
    rw [TermsTree.chars, TermsTree.chars, List.cons_append, List.cons_append, List.append_assoc,
      List.append_assoc] at h
    obtain ⟨hop, htail⟩ := List.cons.inj h
    obtain rfl := Sign.char_injective hop
    obtain ⟨rfl, hterms⟩ := term.eq_of_chars term' htail (terms.ends hrest) (terms'.ends hrest')
    obtain ⟨rfl, hrest⟩ := terms.eq_of_chars terms' hterms hrest hrest'
    exact ⟨rfl, hrest⟩

theorem ProductTree.eq_of_chars {rest rest' : List Char} (t t' : ProductTree)
    (h : t.chars ++ rest = t'.chars ++ rest') (hrest : Ends factorMarks rest)
    (hrest' : Ends factorMarks rest') : t = t' ∧ rest = rest' := by
  match t, t' with
  | .mk first factors, .mk first' factors' =>
    rw [ProductTree.chars, ProductTree.chars, List.append_assoc, List.append_assoc] at h
    obtain ⟨rfl, hfactors⟩ :=
      first.eq_of_chars first' h (factors.ends hrest) (factors'.ends hrest')
    obtain ⟨rfl, hrest⟩ := factors.eq_of_chars factors' hfactors hrest hrest'
    exact ⟨rfl, hrest⟩

theorem FactorsTree.eq_of_chars {rest rest' : List Char} (t t' : FactorsTree)
    (h : t.chars ++ rest = t'.chars ++ rest') (hrest : Ends factorMarks rest)
    (hrest' : Ends factorMarks rest') : t = t' ∧ rest = rest' := by
  match t, t' with
  | .nil, .nil => exact ⟨rfl, h⟩
  | .nil, .cons op factor factors =>
    exact absurd (congrArg List.head? h) (hrest.head?_ne Scaling.mem_factorMarks op)
  | .cons op factor factors, .nil =>
    exact absurd (congrArg List.head? h).symm (hrest'.head?_ne Scaling.mem_factorMarks op)
  | .cons op factor factors, .cons op' factor' factors' =>
    rw [FactorsTree.chars, FactorsTree.chars, List.cons_append, List.cons_append,
      List.append_assoc, List.append_assoc] at h
    obtain ⟨hop, htail⟩ := List.cons.inj h
    obtain rfl := Scaling.char_injective hop
    obtain ⟨rfl, hfactors⟩ :=
      factor.eq_of_chars factor' htail (factors.ends hrest) (factors'.ends hrest')
    obtain ⟨rfl, hrest⟩ := factors.eq_of_chars factors' hfactors hrest hrest'
    exact ⟨rfl, hrest⟩

theorem SignedTree.eq_of_chars {rest rest' : List Char} (t t' : SignedTree)
    (h : t.chars ++ rest = t'.chars ++ rest') (hrest : Ends [] rest) (hrest' : Ends [] rest') :
    t = t' ∧ rest = rest' := by
  match t, t' with
  | .sign sign tree, .sign sign' tree' =>
    obtain ⟨hsign, htail⟩ := List.cons.inj h
    obtain rfl := Sign.char_injective hsign
    obtain ⟨rfl, hrest⟩ := tree.eq_of_chars tree' htail hrest hrest'
    exact ⟨rfl, hrest⟩
  | .sign sign tree, .atom tree' =>
    exact absurd (congrArg List.head? h).symm (tree'.head?_ne rest' sign)
  | .atom tree, .sign sign' tree' =>
    exact absurd (congrArg List.head? h) (tree.head?_ne rest sign')
  | .atom tree, .atom tree' =>
    obtain ⟨rfl, hrest⟩ := tree.eq_of_chars tree' h hrest hrest'
    exact ⟨rfl, hrest⟩

theorem AtomTree.eq_of_chars {rest rest' : List Char} (t t' : AtomTree)
    (h : t.chars ++ rest = t'.chars ++ rest') (hrest : Ends [] rest) (hrest' : Ends [] rest') :
    t = t' ∧ rest = rest' := by
  match t, t' with
  | .number n, .number n' =>
    have hchars : n.chars = n'.chars := by
      rw [← n.takeWhile_append hrest, ← n'.takeWhile_append hrest']
      exact congrArg _ h
    obtain rfl := Literal.eq_of_chars hchars
    exact ⟨rfl, List.append_cancel_left h⟩
  | .number n, .group tree =>
    exact absurd (congrArg List.head? h) (n.head?_ne rest (by decide))
  | .group tree, .number n =>
    exact absurd (congrArg List.head? h).symm (n.head?_ne rest' (by decide))
  | .group tree, .group tree' =>
    rw [AtomTree.chars, AtomTree.chars, List.cons_append, List.cons_append, List.append_assoc,
      List.append_assoc] at h
    obtain ⟨rfl, hclose⟩ := tree.eq_of_chars tree' (List.cons.inj h).2 (ends_close rest)
      (ends_close rest')
    exact ⟨rfl, (List.cons.inj hclose).2⟩

end

/-- The characters of a text that are not blank. -/
def solid (text : String) : List Char := text.toList.filter fun c => !isBlank c

/-- An expression has been read to its end. -/
theorem evaluate_eq_ok {text : String} :
    evaluate text = .ok v ↔ outcome (sum (solid text)) = .ok (v, []) := by
  rw [evaluate, solid]
  rcases sum (text.toList.filter fun c => !isBlank c) with e | ⟨x, _ | ⟨c, rest⟩, hrest⟩ <;>
    simp [outcome, Except.map]

/-- A text is evaluated if, without its blanks, it is a word of the grammar and nothing in it is
divided by zero, and then to the value of its tree. It has one tree, and any other text is
refused. -/
theorem evaluate_grammar (text : String) :
    (∀ v, evaluate text = .ok v ↔
      ∃ t : SumTree, t.chars = solid text ∧ t.IsDefined ∧ t.value = v) ∧
    (∀ t t' : SumTree, t.chars = solid text → t'.chars = solid text → t = t') ∧
    ((¬ ∃ t : SumTree, t.chars = solid text ∧ t.IsDefined) → ∃ e, evaluate text = .error e) := by
  have hend : Ends termMarks [] := fun c hc => by cases hc
  have hiff : ∀ v, evaluate text = .ok v ↔
      ∃ t : SumTree, t.chars = solid text ∧ t.IsDefined ∧ t.value = v := by
    intro v
    rw [evaluate_eq_ok]
    constructor
    · intro h
      obtain ⟨t, hchars, hdefined, hv⟩ := exists_sumTree h
      exact ⟨t, by rw [hchars, List.append_nil], hdefined, hv⟩
    · rintro ⟨t, hchars, hdefined, rfl⟩
      rw [← hchars, ← List.append_nil t.chars]
      exact t.outcome_append hdefined hend
  refine ⟨hiff, fun t t' h h' => ?_, fun hnone => ?_⟩
  · exact (t.eq_of_chars t' (by rw [h, h']) hend hend).1
  · cases heval : evaluate text with
    | error e => exact ⟨e, rfl⟩
    | ok v =>
      obtain ⟨t, hchars, hdefined, -⟩ := (hiff v).1 heval
      exact absurd ⟨t, hchars, hdefined⟩ hnone

end Wordsmith.Expression
