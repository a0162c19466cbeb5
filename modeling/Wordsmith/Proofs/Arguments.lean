import Wordsmith.Proofs.Scopes

/-!
# Arguments of a scope

The arguments of a scope are read one after the other, and each scan begins with no opener waiting.
It is the scan for the end of the scope, cut where a separator stands outside of all brackets: a
separator is no bracket, so behind it the longer scan has no opener waiting either, and the two go
on alike. So the arguments are read where the scope is, with the same error and up to the same
token, and they are the pieces of it between those separators.

Main result: `Scan.arguments_splits`.
-/

namespace Wordsmith

variable {s : Scope} {separator kind : TokenKind} {t : Token}
  {waiting before rest tokens : List Token}

/-! ## The first separator -/

namespace Scope

/-- Tokens are cut by the first separator that stands where nothing waits, if there is one. -/
theorem unsplit_or_split (s : Scope) (separator : TokenKind) (waiting tokens : List Token) :
    s.Unsplit (some separator) waiting tokens ∨
      ∃ before t rest, tokens = before ++ t :: rest ∧ t.kind = separator ∧
        s.through waiting before = some [] ∧ s.Unsplit (some separator) waiting before := by
  induction tokens generalizing waiting with
  | nil => exact .inl (by simp [Unsplit])
  | cons t tokens ih =>
    by_cases hhere : waiting = [] ∧ some separator = some t.kind
    · obtain ⟨rfl, hkind⟩ := hhere
      exact .inr ⟨[], t, tokens, rfl, (Option.some.inj hkind).symm, rfl, by simp [Unsplit]⟩
    by_cases hgoes : ∃ next, s.feed waiting t = .ok (some next)
    · obtain ⟨next, hfeed⟩ := hgoes
      have hcons : ∀ l, s.Unsplit (some separator) next l →
          s.Unsplit (some separator) waiting (t :: l) := fun l h =>
        unsplit_cons.2 ⟨hhere, fun next' hfeed' => by
          cases hfeed.symm.trans hfeed'
          exact h⟩
      rcases ih next with hunsplit | ⟨before, u, rest, rfl, hkind, hbefore, hunsplit⟩
      · exact .inl (hcons _ hunsplit)
      · exact .inr ⟨t :: before, u, rest, rfl, hkind, (through_cons hfeed).trans hbefore,
          hcons _ hunsplit⟩
    · exact .inl (unsplit_cons.2 ⟨hhere, fun next hfeed => absurd ⟨next, hfeed⟩ hgoes⟩)

/-- Where no separator cuts, a scan with it is the same as one without. -/
theorem cut_of_unsplit (h : s.Unsplit (some separator) waiting tokens) (p : Position) (i : Nat) :
    s.cut (some separator) p waiting i tokens = s.cut none p waiting i tokens := by
  induction tokens generalizing waiting i with
  | nil => rfl
  | cons t tokens ih =>
    obtain ⟨hgoes, hbehind⟩ := unsplit_cons.1 h
    rw [cut, if_neg hgoes, cut, if_neg (by simp)]
    split
    · rfl
    · rfl
    · next next hfeed => exact ih (hbehind next hfeed) (i + 1)

/-- The first separator ends the scan with it, and the scan without it goes on behind it. -/
theorem cut_of_split (hs : (s.opener, s.closer) ∈ BracketTable.all.pairs)
    (hseparator : s.IsNeutral separator) (ht : t.kind = separator)
    (h : s.through [] before = some []) (hunsplit : s.Unsplit (some separator) [] before)
    (p : Position) (i : Nat) (rest : List Token) :
    s.cut (some separator) p [] i (before ++ t :: rest) = ⟨.ok .separated, i + before.length⟩ ∧
      s.cut none p [] i (before ++ t :: rest) = s.cut none p [] (i + before.length + 1) rest := by
  constructor
  · rw [cut_append_of_through h hunsplit, cut, if_pos ⟨rfl, congrArg some ht.symm⟩]
  · rw [cut_append_of_through h unsplit_none, cut, if_neg (by simp),
      (Feeds.neutral (ht.symm ▸ hseparator)).feed_eq hs]

end Scope

namespace Passage

/-- The pieces of a passage from one index to another between those of some tokens. -/
def pieces (p : Passage) : Nat → List Nat → Nat → List Passage
  | first, [], stop => [p.range first stop]
  | first, i :: cuts, stop => p.range first i :: p.pieces (i + 1) cuts stop

theorem length_pieces (p : Passage) (first : Nat) (cuts : List Nat) (stop : Nat) :
    (p.pieces first cuts stop).length = cuts.length + 1 := by
  induction cuts generalizing first with
  | nil => rfl
  | cons i cuts ih => rw [pieces, List.length_cons, ih, List.length_cons]

end Passage

namespace Reader

variable {r : Reader} {j k : Nat}

theorem tokens_range_append (hstart : r.passage.start ≤ r.index) (hle : r.index ≤ j)
    (ht : r.passage.token? j = some t) (hlt : j < k) : (r.passage.range r.index k).tokens =
      (r.passage.range r.index j).tokens ++ t :: (r.passage.range (j + 1) k).tokens := by
  obtain ⟨hrest, hj⟩ := rest_eq_append hstart hle ht
  have hbehind : (r.passage.range (j + 1) k).tokens = _ :=
    tokens_range (r := { r with index := j + 1 }) (by dsimp only; omega) k
  have hlength : k - r.index =
      (r.passage.range r.index j).tokens.length + (k - (j + 1) + 1) := by omega
  rw [tokens_range hstart k, hbehind, hrest, hlength, List.take_length_add_append,
    List.take_succ_cons]

section Bracket

variable (hs : (s.opener, s.closer) ∈ BracketTable.all.pairs) (hstart : r.passage.start ≤ r.index)

include hs hstart

/-- What stands outside of all brackets behind a separator that does, stands outside of all. -/
theorem topLevel_behind (hseparator : s.IsNeutral separator) (hj : r.TopLevel s separator j)
    (hlt : j < k) :
    TopLevel { r with index := j + 1 } s kind k ↔ r.TopLevel s kind k := by
  obtain ⟨t, ht, hkind⟩ := Option.map_eq_some_iff.1 hj.kind
  have hbalanced : s.Balanced (r.passage.range r.index k).tokens ↔
      s.Balanced (r.passage.range (j + 1) k).tokens := by
    rw [Scope.balanced_iff hs, Scope.balanced_iff hs, tokens_range_append hstart hj.le ht hlt,
      Scope.through_append (hj.balanced.through hs []),
      Scope.through_cons ((Scope.Feeds.neutral (hkind.symm ▸ hseparator)).feed_eq hs)]
  have hle := hj.le
  exact ⟨fun h => ⟨by omega, h.kind, hbalanced.2 h.balanced⟩,
    fun h => ⟨hlt, h.kind, hbalanced.1 h.balanced⟩⟩

/-- Separators outside of all brackets stand before the closer that does. -/
theorem TopLevel.lt (hseparator : s.IsNeutral separator) (hj : r.TopLevel s separator j)
    (hk : r.TopLevel s s.closer k) : j < k := by
  obtain ⟨t, ht, hkind⟩ := Option.map_eq_some_iff.1 hk.kind
  by_contra hge
  rcases Nat.eq_or_lt_of_le (Nat.le_of_not_lt hge) with rfl | hlt
  · have hsame : separator = s.closer := Option.some.inj (hj.kind.symm.trans hk.kind)
    exact (hseparator _ List.mem_cons_self).2 hsame
  · have hthrough := (Scope.balanced_iff hs).1 hj.balanced
    rw [tokens_range_append hstart hk.le ht hlt, Scope.through_append (hk.balanced.through hs []),
      Scope.through, (Scope.Feeds.ends hkind).feed_eq hs] at hthrough
    cases hthrough

/-- The pieces of a scope between separators outside of all brackets are balanced. -/
theorem fits_and_balanced_of_mem_pieces (hseparator : s.IsNeutral separator) {cuts : List Nat}
    (hsorted : cuts.Pairwise (· < ·)) (hcuts : ∀ j ∈ cuts, r.TopLevel s separator j)
    (hk : r.TopLevel s s.closer k) :
    ∀ q ∈ r.passage.pieces r.index cuts k, q.Fits ∧ s.Balanced q.tokens := by
  induction cuts generalizing r with
  | nil => exact List.forall_mem_singleton.2 ⟨hk.fits hstart, hk.balanced⟩
  | cons j cuts ih =>
    obtain ⟨hj, hcuts⟩ := List.forall_mem_cons.1 hcuts
    obtain ⟨hlt, hsorted⟩ := List.pairwise_cons.1 hsorted
    have hbehind : ∀ {kind i}, j < i → r.TopLevel s kind i →
        TopLevel { r with index := j + 1 } s kind i := fun hi =>
      (topLevel_behind hs hstart hseparator hj hi).2
    refine List.forall_mem_cons.2 ⟨⟨hj.fits hstart, hj.balanced⟩, ?_⟩
    exact ih (Nat.le_succ_of_le (Nat.le_trans hstart hj.le)) hsorted
      (fun i hi => hbehind (hlt i hi) (hcuts i hi))
      (hbehind (hj.lt hs hstart hseparator hk) hk)

/-- Before the first separator there is none. -/
theorem le_of_unsplit (hrest : r.rest = before ++ rest)
    (hunsplit : s.Unsplit (some separator) [] before) (h : r.TopLevel s separator j) :
    r.index + before.length ≤ j := by
  obtain ⟨t, ht, hkind⟩ := Option.map_eq_some_iff.1 h.kind
  obtain ⟨hj, hindex⟩ := rest_eq_append hstart h.le ht
  rcases List.append_eq_append_iff.1 (hrest.symm.trans hj) with ⟨l, hl, -⟩ | ⟨l, hl, hbehind⟩
  · have hlength := congrArg List.length hl
    rw [List.length_append] at hlength
    omega
  · cases l with
    | nil =>
      have hlength := congrArg List.length hl
      rw [List.append_nil] at hlength
      omega
    | cons u l =>
      obtain ⟨rfl, -⟩ := List.cons.inj hbehind
      exact absurd (congrArg some hkind.symm)
        (hunsplit _ t l hl (h.balanced.through hs []))

end Bracket

end Reader

namespace Scan

variable {r r' r₁ : Reader} {k : Nat} {a : Passage} {p : Position}

theorem argumentsFrom_of_error {e : ScopeError}
    (h : argument s separator p r = (.error e, r')) :
    argumentsFrom s separator p r = (.error e, r') := by
  rw [argumentsFrom]
  split
  · next h' =>
    cases h.symm.trans h'
    rfl
  · next h' => cases h.symm.trans h'
  · next h' => cases h.symm.trans h'

theorem argumentsFrom_of_closed (h : argument s separator p r = (.ok (a, .closed), r')) :
    argumentsFrom s separator p r = (.ok [a], r') := by
  rw [argumentsFrom]
  split
  · next h' => cases h.symm.trans h'
  · next h' =>
    cases h.symm.trans h'
    rfl
  · next h' => cases h.symm.trans h'

theorem argumentsFrom_of_separated (h : argument s separator p r = (.ok (a, .separated), r₁)) :
    argumentsFrom s separator p r = match argumentsFrom s separator p r₁ with
      | (.error e, r') => (.error e, r')
      | (.ok ps, r') => (.ok (a :: ps), r') := by
  rw [argumentsFrom]
  split
  · next h' => cases h.symm.trans h'
  · next h' => cases h.symm.trans h'
  · next h' =>
    cases h.symm.trans h'
    rfl

/-- Arguments that are taken one by one are the first of all, and the others can be read behind
them. -/
theorem Finds.someArguments {ps : List Passage} (h : Finds s separator r ps r') (p : Position)
    {n : Nat} (hn : n < ps.length) : ∃ r₁,
      someArguments s separator p n r = ((ps.take n).map .ok, r₁) ∧
        Finds s separator r₁ (ps.drop n) r' := by
  induction h generalizing n with
  | closed h =>
    obtain rfl : n = 0 := Nat.lt_one_iff.1 hn
    exact ⟨_, rfl, .closed h⟩
  | separated h hothers ih =>
    cases n with
    | zero => exact ⟨_, rfl, .separated h hothers⟩
    | succ n =>
      obtain ⟨r₁, htaken, hleft⟩ := ih (Nat.lt_of_succ_lt_succ hn)
      refine ⟨r₁, ?_, hleft⟩
      rw [Scan.someArguments, argument_congr h p]
      dsimp only
      rw [htaken]
      rfl

/-- The passages are the arguments of the scope that ends at an index: the pieces of it between the
separators outside of all brackets, without the blanks at their edges. -/
structure Splits (r : Reader) (s : Scope) (separator : TokenKind) (k : Nat) (ps : List Passage)
    (cuts : List Nat) : Prop where
  closer : r.TopLevel s s.closer k
  sorted : cuts.Pairwise (· < ·)
  mem_cuts : ∀ j, j ∈ cuts ↔ j < k ∧ r.TopLevel s separator j
  tokens : ps.map Passage.tokens =
    (r.passage.pieces r.index cuts k).map fun q => unpadded q.tokens
  length : ps.length = cuts.length + 1
  balanced_pieces : ∀ q ∈ r.passage.pieces r.index cuts k, s.Balanced q.tokens
  balanced : ∀ a ∈ ps, s.Balanced a.tokens

section Bracket

variable (hs : (s.opener, s.closer) ∈ BracketTable.all.pairs) (hseparator : s.IsNeutral separator)

include hs hseparator

/-- There is no separator outside of all brackets, and the scan for an argument is that for the end
of the scope, or the argument ends at the first one, and the scan for the end goes on behind it. -/
theorem unseparated_or_separated (hstart : r.passage.start ≤ r.index) (p : Position) :
    ((∀ j, ¬r.TopLevel s separator j) ∧ s.cut (some separator) p [] r.index r.rest =
        s.cut none p [] r.index r.rest) ∨
      ∃ j, r.TopLevel s separator j ∧ (∀ i, r.TopLevel s separator i → j ≤ i) ∧
        argument s separator p r =
          (.ok ((r.passage.range r.index j).trim, .separated), { r with index := j + 1 }) ∧
        s.cut none p [] r.index r.rest =
          s.cut none p [] (j + 1) (Reader.rest { r with index := j + 1 }) := by
  obtain hunsplit | ⟨before, t, rest, hrest, hkind, hbefore, hunsplit⟩ :=
    s.unsplit_or_split separator [] r.rest
  · refine .inl ⟨fun j h => ?_, Scope.cut_of_unsplit hunsplit p r.index⟩
    have hle := Reader.le_of_unsplit hs hstart (List.append_nil _).symm hunsplit h
    obtain ⟨t, ht, -⟩ := Option.map_eq_some_iff.1 h.kind
    obtain ⟨hrest, hj⟩ := Reader.rest_eq_append hstart h.le ht
    have hlength := congrArg List.length hrest
    rw [List.length_append, List.length_cons] at hlength
    omega
  · obtain ⟨ht, htokens⟩ := Reader.token?_of_rest hstart hrest
    have hfirst := fun i => Reader.le_of_unsplit (j := i) hs hstart hrest hunsplit
    obtain ⟨hseparated, hbehind⟩ :=
      Scope.cut_of_split hs hseparator hkind hbefore hunsplit p r.index rest
    have hle := Nat.le_add_right r.index before.length
    generalize r.index + before.length = j at *
    have hrest₁ : Reader.rest { r with index := j + 1 } = rest := by
      have hsame := (Reader.rest_eq_append hstart hle ht).1
      rw [hrest, htokens] at hsame
      exact (List.cons.inj (List.append_cancel_left hsame)).2.symm
    refine .inr ⟨j, ⟨hle, ?_, htokens.symm ▸ (Scope.balanced_iff hs).2 hbefore⟩, hfirst, ?_, ?_⟩
    · rw [ht, ← hkind]
      rfl
    · simp only [argument, hrest, hseparated]
    · rw [hrest₁, hrest, hbehind]

/-- Arguments are read where the scope is, and separators outside of all brackets cut it. -/
theorem argumentsFrom_eq (hstart : r.passage.start ≤ r.index) (p : Position) :
    ∃ cuts : List Nat, cuts.Pairwise (· < ·) ∧ (∀ j, j ∈ cuts ↔ r.TopLevel s separator j) ∧
      argumentsFrom s separator p r = match s.cut none p [] r.index r.rest with
        | ⟨.error e, i⟩ => (.error e, { r with index := i })
        | ⟨.ok _, i⟩ => (.ok ((r.passage.pieces r.index cuts i).map Passage.trim),
          { r with index := i + 1 }) := by
  -- on the tokens that are left: the scan for the end goes on where the next argument begins
  induction hk : r.remaining using Nat.strongRecOn generalizing r with
  | ind n ih =>
    obtain ⟨hnone, hsame⟩ | ⟨j, hj, hfirst, hargument, hbehind⟩ :=
      unseparated_or_separated hs hseparator hstart p
    · refine ⟨[], .nil, fun j => ⟨nofun, fun h => absurd h (hnone j)⟩, ?_⟩
      rcases hcut : s.cut none p [] r.index r.rest with ⟨e | ending, i⟩
      · exact argumentsFrom_of_error (by simp only [argument, hsame, hcut])
      · obtain rfl : ending = .closed := Scope.eq_closed_of_cut (congrArg (·.outcome) hcut)
        exact argumentsFrom_of_closed (by simp only [argument, hsame, hcut])
    · obtain ⟨cuts, hsorted, hcuts, heq⟩ := ih _ (hk ▸ argument_remaining_lt hargument)
        (Nat.le_succ_of_le (Nat.le_trans hstart hj.le)) rfl
      refine ⟨j :: cuts, List.pairwise_cons.2 ⟨fun i hi => ((hcuts i).1 hi).le, hsorted⟩,
        fun i => ?_, ?_⟩
      · rw [List.mem_cons, hcuts]
        constructor
        · rintro (rfl | h)
          · exact hj
          · exact (Reader.topLevel_behind hs hstart hseparator hj h.le).1 h
        · intro h
          rcases Nat.eq_or_lt_of_le (hfirst i h) with rfl | hlt
          · exact .inl rfl
          · exact .inr ((Reader.topLevel_behind hs hstart hseparator hj hlt).2 h)
      · rw [argumentsFrom_of_separated hargument, heq, hbehind]
        dsimp only
        generalize s.cut none p [] (j + 1) _ = cut
        rcases cut with ⟨_ | _, i⟩ <;> rfl

/-- A scope and its arguments are found together, or fail alike. -/
theorem arguments_eq (hstart : r.passage.start ≤ r.index) :
    (∃ e r', body s r = (.error e, r') ∧ arguments s separator r = (.error e, r')) ∨
      ∃ a k cuts, body s r = (.ok a, { r with index := k + 1 }) ∧ cuts.Pairwise (· < ·) ∧
        (∀ j, j ∈ cuts ↔ r.TopLevel s separator j) ∧ arguments s separator r =
          (.ok ((r.passage.pieces r.index cuts k).map Passage.trim), { r with index := k + 1 }) := by
  obtain ⟨cuts, hsorted, hcuts, heq⟩ := argumentsFrom_eq hs hseparator hstart r.previousPosition
  rcases hcut : s.cut none r.previousPosition [] r.index r.rest with ⟨e | ending, k⟩
  · rw [hcut] at heq
    exact .inl ⟨e, _, by simp only [body, hcut], heq⟩
  · rw [hcut] at heq
    exact .inr ⟨(r.passage.range r.index k).trim, k, cuts, by simp only [body, hcut], hsorted,
      hcuts, heq⟩

theorem splits_of_arguments (hstart : r.passage.start ≤ r.index) {ps : List Passage}
    (h : arguments s separator r = (.ok ps, r')) :
    ∃ k cuts, Splits r s separator k ps cuts ∧ r' = { r with index := k + 1 } := by
  obtain ⟨e, r₁, -, hfails⟩ | ⟨a, k, cuts, hbody, hsorted, hcuts, heq⟩ :=
    arguments_eq hs hseparator hstart
  · cases h.symm.trans hfails
  obtain ⟨hps, rfl⟩ := Prod.mk.inj (h.symm.trans heq)
  obtain rfl := Except.ok.inj hps
  obtain ⟨i, hi, hindex⟩ := exists_topLevel_of_body hs hstart hbody
  obtain rfl : k = i := Nat.succ.inj (congrArg Reader.index hindex)
  have hpieces := Reader.fits_and_balanced_of_mem_pieces hs hstart hseparator hsorted
    (fun j hj => (hcuts j).1 hj) hi
  have htrim : ∀ q ∈ r.passage.pieces r.index cuts k, q.trim.tokens = unpadded q.tokens :=
    fun q hq => Passage.tokens_trim (hpieces q hq).1
  refine ⟨k, cuts, ⟨hi, hsorted, fun j => ?_, ?_, ?_, fun q hq => (hpieces q hq).2, ?_⟩, rfl⟩
  · rw [hcuts]
    exact ⟨fun hj => ⟨hj.lt hs hstart hseparator hi, hj⟩, And.right⟩
  · rw [List.map_map]
    exact List.map_congr_left htrim
  · rw [List.length_map, Passage.length_pieces]
  · refine List.forall_mem_map.2 fun q hq => ?_
    rw [htrim q hq]
    exact (hpieces q hq).2.unpadded hs

/-- The arguments of a scope are found where the scope is, and up to the same token, and otherwise
with the same error. They are the pieces of the scope between the separators outside of all
brackets, without blanks at the edges. When some of them have been taken, the others can still be
read from where the reader is. -/
theorem arguments_splits (hstart : r.passage.start ≤ r.index) :
    (∀ e r', arguments s separator r = (.error e, r') ↔ body s r = (.error e, r')) ∧
      (∀ r', (∃ ps, arguments s separator r = (.ok ps, r')) ↔ ∃ a, body s r = (.ok a, r')) ∧
      ∀ ps r', arguments s separator r = (.ok ps, r') →
        (∃ k cuts, Splits r s separator k ps cuts ∧ r' = { r with index := k + 1 }) ∧
        ∀ n < ps.length, ∃ r₁,
          someArguments s separator r.previousPosition n r = ((ps.take n).map .ok, r₁) ∧
            arguments s separator r₁ = (.ok (ps.drop n), r') := by
  have htogether := arguments_eq hs hseparator hstart
  refine ⟨fun e r' => ?_, fun r' => ?_, fun ps r' h => ⟨?_, fun n hn => ?_⟩⟩
  · rcases htogether with ⟨e₁, r₁, hbody, harguments⟩ | ⟨a, k, cuts, hbody, -, -, harguments⟩
    · rw [hbody, harguments]
      constructor <;> rintro ⟨⟩ <;> rfl
    · rw [hbody, harguments]
      exact ⟨nofun, nofun⟩
  · rcases htogether with ⟨e₁, r₁, hbody, harguments⟩ | ⟨a, k, cuts, hbody, -, -, harguments⟩
    · rw [hbody, harguments]
      constructor <;> rintro ⟨_, ⟨⟩⟩
    · rw [hbody, harguments]
      constructor <;> rintro ⟨_, ⟨⟩⟩ <;> exact ⟨_, rfl⟩
  · exact splits_of_arguments hs hseparator hstart h
  · obtain ⟨r₁, htaken, hleft⟩ :=
      (finds_of_argumentsFrom h).someArguments r.previousPosition hn
    exact ⟨r₁, htaken, hleft.argumentsFrom r₁.previousPosition⟩

end Bracket

/-- A pattern with a scope of two arguments, and a separator in the second that does not split. -/
def separated : Pattern where
  name := "separated"
  code := "(a; <;>)"
  tokens := #[⟨.leftParen, "(", ⟨1, 1, 0⟩⟩, ⟨.text, "a", ⟨1, 2, 1⟩⟩, ⟨.semicolon, ";", ⟨1, 3, 2⟩⟩,
    ⟨.whitespace, " ", ⟨1, 4, 3⟩⟩, ⟨.leftAngle, "<", ⟨1, 5, 4⟩⟩, ⟨.semicolon, ";", ⟨1, 6, 5⟩⟩,
    ⟨.rightAngle, ">", ⟨1, 7, 6⟩⟩, ⟨.rightParen, ")", ⟨1, 8, 7⟩⟩]
  tokenize_code := by with_unfolding_all rfl

/-- Both arguments are found, and the second also when only the first has been taken. -/
theorem arguments_splits_separated :
    let s : Scope := ⟨.leftParen, .rightParen, .all⟩
    let r : Reader := ⟨separated.passage, 1⟩
    ∃ ps r' r₁, arguments s .semicolon r = (.ok ps, r') ∧ (body s r).2 = r' ∧
      ps.map (fun a => a.tokens.map (·.kind)) =
        [[.text], [.leftAngle, .semicolon, .rightAngle]] ∧
      someArguments s .semicolon r.previousPosition 1 r = ((ps.take 1).map .ok, r₁) ∧
      arguments s .semicolon r₁ = (.ok (ps.drop 1), r') := by
  intro s r
  have hs : (s.opener, s.closer) ∈ BracketTable.all.pairs := by decide
  have hseparator : s.IsNeutral .semicolon := by decide
  have hsplits := arguments_splits hs hseparator (r := r) (by decide)
  have hkinds : (arguments s .semicolon r).1.toOption.map
      (List.map fun a => a.tokens.map (·.kind)) =
        some [[.text], [.leftAngle, .semicolon, .rightAngle]] := by decide +kernel
  rcases h : arguments s .semicolon r with ⟨e | ps, r'⟩
  · simp [h, Except.toOption] at hkinds
  · obtain ⟨a, hbody⟩ := (hsplits.2.1 r').1 ⟨ps, h⟩
    have hps : ps.map (fun a => a.tokens.map (·.kind)) =
        [[.text], [.leftAngle, .semicolon, .rightAngle]] := by
      simpa [h, Except.toOption] using hkinds
    have hlength : 1 < ps.length := by
      have := congrArg List.length hps
      rw [List.length_map] at this
      rw [this]
      decide
    obtain ⟨r₁, htaken, hleft⟩ := (hsplits.2.2 ps r' h).2 1 hlength
    exact ⟨ps, r', r₁, rfl, congrArg Prod.snd hbody, hps, htaken, hleft⟩

end Scan

end Wordsmith
