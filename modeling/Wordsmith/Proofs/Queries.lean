import Wordsmith.Proofs.Escapes
import Wordsmith.Proofs.Parts
import Wordsmith.Vocabulary.Query

/-!
# Queries read back

A query is cut at its delimiters one after the other, and blanks are taken off every part. So a part
may hold whatever does not delimit it: dollar signs in names, points in forms, colons wherever no
two of them meet. A query that was read is put together again from its parts. No blank stands at the
edge of a part then, no delimiter comes to stand where there was none, and two colons that did not
meet before do not meet now, since between any two parts there is a sign that is no colon. The only
place where they could is in front of the carriers, and there a blank is put.

Main result: `Query.ofText_written`.
-/

namespace Wordsmith

open Lexer Text

/-! ## How queries are written -/

/-- How a rule is written. -/
def ClassRule.written (r : ClassRule) : List Char :=
  if r.negated then '!' :: r.className.toList else r.className.toList

/-- The sign of a kind of carrier. -/
def CarrierKind.sign : CarrierKind → Char
  | same => '='
  | unique => '!'

/-- How a carrier is written. -/
def Carrier.written (c : Carrier) : List Char := c.kind.sign :: c.id.toList

namespace Query

/-- How the table and the form are written. -/
def writtenName (name : String) (subtype : Option String) : List Char :=
  name.toList ++ subtype.elim [] fun s => '.' :: s.toList

/-- How the table and the form are written, and behind them the sign for exclusive classes. -/
def writtenTarget (q : Query) : List Char :=
  writtenName q.name q.subtype ++ if q.exclusive then ['$'] else []

/-- How a group of rules is written. -/
def writtenGroup (group : List ClassRule) : List Char :=
  List.intercalate ['|'] (group.map ClassRule.written)

/-- How the groups of rules are written. -/
def writtenFilters (q : Query) : List Char :=
  q.filters.flatMap fun group => '-' :: writtenGroup group

/-- How the carriers are written, if there are any. -/
def writtenCarriers (q : Query) : List Char :=
  match q.carriers with
  | [] => []
  | carriers => ' ' :: ':' :: ':' :: List.intercalate [' '] (carriers.map Carrier.written)

/-- How a query is written. -/
def written (q : Query) : String :=
  .ofList (q.writtenTarget ++ q.writtenFilters ++ q.writtenCarriers)

end Query

/-! ## The colons of the carriers -/

namespace Query

theorem splitCarriers_prefix (cs : List Char) : (splitCarriers cs).1 <+: cs := by
  fun_induction splitCarriers cs with
  | case1 => exact List.nil_prefix
  | case2 => exact List.nil_prefix
  | case3 c rest _ head carriers h ih =>
    rw [h] at ih
    exact List.cons_prefix_cons.2 ⟨rfl, ih⟩

/-- No colons meet in front of the carriers. -/
theorem isChain_splitCarriers (cs : List Char) : (splitCarriers cs).1.IsChain Apart := by
  fun_induction splitCarriers cs with
  | case1 => exact .nil
  | case2 => exact .nil
  | case3 c rest hnot head carriers h ih =>
    rw [h] at ih
    refine List.isChain_cons.2 ⟨fun d hd hmeet => ?_, ih⟩
    obtain ⟨head', rfl⟩ := List.head?_eq_some_iff.1 hd
    obtain ⟨rest', hrest⟩ := h ▸ splitCarriers_prefix rest
    exact hnot _ hmeet.1 (by rw [← hrest, hmeet.2]; rfl)

theorem splitCarriers_of_isChain {cs : List Char} (h : cs.IsChain Apart) :
    splitCarriers cs = (cs, none) := by
  fun_induction splitCarriers cs with
  | case1 rest => exact absurd ⟨rfl, rfl⟩ (List.isChain_cons_cons.1 h).1
  | case2 => rfl
  | case3 c rest _ head carriers hrest ih =>
    rw [ih h.tail] at hrest
    cases hrest
    rfl

/-- The carriers stand behind the first two colons that meet. -/
theorem splitCarriers_append {cs : List Char} (h : cs.IsChain Apart)
    (hlast : ∀ c ∈ cs.getLast?, c ≠ ':') (rest : List Char) :
    splitCarriers (cs ++ ':' :: ':' :: rest) = (cs, some rest) := by
  induction cs with
  | nil => rfl
  | cons c cs ih =>
    have hne : ∀ more, c = ':' → cs ++ ':' :: ':' :: rest = ':' :: more → False := by
      intro more hc hcs
      cases cs with
      | nil => exact hlast c rfl hc
      | cons d cs => exact (List.isChain_cons_cons.1 h).1 ⟨hc, (List.cons.inj hcs).1⟩
    have hrest := ih h.tail fun d hd => hlast d (by
      cases cs with
      | nil => cases hd
      | cons => exact hd)
    rw [List.cons_append, splitCarriers.eq_3 _ _ hne, hrest]

end Query

/-! ## Parts -/

/-- A text of a query with no dash in it, no colons that meet, and no blank at the end. -/
structure IsPiece (cs : List Char) : Prop where
  ne : cs ≠ []
  last : EndsSolid cs
  dash : '-' ∉ cs
  colons : cs.IsChain Apart

namespace IsPiece

variable {a b : List Char} {c : Char}

theorem cons (hb : IsPiece b) (hdash : c ≠ '-') (hcolon : c ≠ ':') : IsPiece (c :: b) where
  ne := List.cons_ne_nil c b
  last := EndsSolid.append (a := [c]) hb.ne hb.last
  dash := List.not_mem_cons_of_ne_of_not_mem hdash.symm hb.dash
  colons := isChain_append_cons (a := []) .nil hb.colons hcolon

theorem append_cons (ha : IsPiece a) (hb : EndsSolid b) (hbdash : '-' ∉ b)
    (hbcolons : b.IsChain Apart) (hblank : isBlank c = false) (hdash : c ≠ '-') (hcolon : c ≠ ':') :
    IsPiece (a ++ c :: b) where
  ne := List.append_ne_nil_of_left_ne_nil ha.ne _
  last := .append (List.cons_ne_nil c b) (.cons hblank hb)
  dash := by simp [ha.dash, hdash.symm, hbdash]
  colons := isChain_append_cons ha.colons hbcolons hcolon

theorem intercalate {parts : List (List Char)} (hne : parts ≠ [])
    (h : ∀ part ∈ parts, IsPiece part) (hdash : c ≠ '-') (hcolon : c ≠ ':') :
    IsPiece (List.intercalate [c] parts) := by
  obtain ⟨part, hpart⟩ := List.exists_mem_of_ne_nil _ hne
  exact ⟨intercalate_ne_nil hpart (h part hpart).ne,
    .intercalate (fun part hpart => (h part hpart).ne) fun part hpart => (h part hpart).last,
    notMem_intercalate hdash.symm fun part hpart => (h part hpart).dash,
    isChain_intercalate hcolon fun part hpart => (h part hpart).colons⟩

end IsPiece

/-- A name, a form or a class as a query holds it. -/
structure IsPart (cs : List Char) : Prop extends IsPiece cs where
  head : ∀ c ∈ cs.head?, isBlank c = false

namespace IsPart

variable {cs : List Char}

theorem trim_eq (h : IsPart cs) : trim cs = cs := trim_eq_self h.head h.last

/-- What is left of a text without its blanks is a part. -/
theorem of_trim (hne : trim cs ≠ []) (hdash : '-' ∉ cs) (hcolons : cs.IsChain Apart) :
    IsPart (trim cs) where
  ne := hne
  head := (edges_trim isBlank cs).1
  last := (edges_trim isBlank cs).2
  dash := fun hmem => hdash ((trim_infix_self cs).subset hmem)
  colons := List.IsChain.infix hcolons (trim_infix_self cs)

end IsPart

/-! ## Rules -/

namespace ClassRule

/-- The class of the rule is a part that no bar delimits and no sign negates but its own. -/
structure IsSound (r : ClassRule) : Prop where
  part : IsPart r.className.toList
  bar : '|' ∉ r.className.toList
  sign : r.negated = false → ∀ c ∈ r.className.toList.head?, c ≠ '!'

theorem written_eq_append (r : ClassRule) : ∃ sign, (sign = [] ∨ sign = ['!']) ∧
    r.written = sign ++ r.className.toList := by
  unfold written
  cases r.negated
  · exact ⟨[], .inl rfl, rfl⟩
  · exact ⟨['!'], .inr rfl, rfl⟩

end ClassRule

namespace Query

/-- A rule that is read is sound. -/
theorem isSound_of_rule? {cs : List Char} {r : ClassRule} (h : rule? cs = some r) (hdash : '-' ∉ cs)
    (hbar : '|' ∉ cs) (hcolons : cs.IsChain Apart) : r.IsSound := by
  have htrim := trim_infix_self cs
  unfold rule? at h
  split at h
  next name negated hsplit =>
    split at h
    · cases h
    · next hne =>
      cases h
      split at hsplit
      · next rest hsign =>
        cases hsplit
        -- what stands behind the sign is trimmed by itself
        have hrest : rest <:+: cs := (List.suffix_cons '!' rest).isInfix.trans (hsign ▸ htrim)
        have hchain := List.IsChain.infix hcolons hrest
        have hpart := IsPart.of_trim hne (fun hmem => hdash (hrest.subset hmem)) hchain
        refine ⟨by rwa [String.toList_ofList], fun hmem => ?_, nofun⟩
        rw [String.toList_ofList] at hmem
        exact hbar (hrest.subset ((trim_infix_self rest).subset hmem))
      · next hsign =>
        cases hsplit
        have hpart := IsPart.of_trim hne hdash hcolons
        refine ⟨by rwa [String.toList_ofList], fun hmem => ?_, fun _ c hc hmark => ?_⟩
        · rw [String.toList_ofList] at hmem
          exact hbar (htrim.subset hmem)
        · rw [String.toList_ofList] at hc
          obtain ⟨rest, hrest⟩ := List.head?_eq_some_iff.1 hc
          exact hsign rest (hmark ▸ hrest)

/-- A sound rule is read as it is written. -/
theorem rule?_written {r : ClassRule} (h : r.IsSound) : rule? r.written = some r := by
  obtain ⟨name, negated⟩ := r
  have hname : String.ofList name.toList = name := String.ofList_toList
  have hne := h.part.ne
  have htrim := h.part.trim_eq
  cases negated with
  | true =>
    have hwritten : trim ('!' :: name.toList) = '!' :: name.toList :=
      trim_eq_self (fun c hc => Option.some.inj hc ▸ (by decide))
        (EndsSolid.cons (by decide) h.part.last)
    simp only [rule?, ClassRule.written, if_true, hwritten, htrim]
    rw [if_neg hne, hname]
  | false =>
    have hsign : ∀ rest, name.toList = '!' :: rest → False := fun rest hrest =>
      h.sign rfl '!' (by rw [hrest]; rfl) rfl
    simp only [rule?, ClassRule.written, Bool.false_eq_true, if_false, htrim]
    rw [if_neg hne, hname]

theorem rule?_append_blank (cs : List Char) : rule? (cs ++ [' ']) = rule? cs := by
  simp only [rule?, trim_append_blank]

/-! ## Groups -/

theorem isSound_of_group? {cs : List Char} {group : List ClassRule} (h : group? cs = some group)
    (hdash : '-' ∉ cs) (hcolons : cs.IsChain Apart) :
    group ≠ [] ∧ ∀ r ∈ group, r.IsSound := by
  constructor
  · rintro rfl
    have hnil := mapM_eq_some_iff.1 h
    exact pieces_ne_nil '|' cs (List.map_eq_nil_iff.1 hnil)
  · intro r hr
    obtain ⟨part, hpart, hrule⟩ := exists_of_mem_mapM h hr
    have hpiece := infix_of_mem_pieces hpart
    have hchain := List.IsChain.infix hcolons hpiece
    exact isSound_of_rule? hrule (fun hmem => hdash (hpiece.subset hmem))
      (notMem_of_mem_pieces hpart) hchain

theorem bar_notMem_written {r : ClassRule} (h : r.IsSound) : '|' ∉ r.written := by
  obtain ⟨sign, hsign, hwritten⟩ := r.written_eq_append
  rw [hwritten, List.mem_append, not_or]
  exact ⟨by rcases hsign with rfl | rfl <;> decide, h.bar⟩

theorem group?_written {group : List ClassRule} (hne : group ≠ []) (h : ∀ r ∈ group, r.IsSound) :
    group? (writtenGroup group) = some group := by
  rw [group?, writtenGroup, pieces_intercalate (mt List.map_eq_nil_iff.1 hne) fun part hpart => by
    obtain ⟨r, hr, rfl⟩ := List.mem_map.1 hpart
    exact bar_notMem_written (h r hr)]
  exact mapM_map fun r hr => rule?_written (h r hr)

theorem group?_append_blank (cs : List Char) : group? (cs ++ [' ']) = group? cs := by
  obtain ⟨parts, last, hpieces, hmore⟩ :=
    exists_pieces_append (show '|' ∉ [' '] by decide) cs
  rw [group?, group?, hmore, hpieces, List.mapM_append, List.mapM_append, List.mapM_cons,
    List.mapM_cons, rule?_append_blank]

/-! ## Targets -/

theorem eq_of_splitFirst {mark : Char} {cs before after : List Char}
    (h : splitFirst mark cs = some (before, after)) :
    cs = before ++ mark :: after ∧ mark ∉ before := by
  by_cases hmem : mark ∈ cs
  · obtain ⟨as, bs, rfl, has⟩ := List.eq_append_cons_of_mem hmem
    cases (Escape.splitFirst_append has bs).symm.trans h
    exact ⟨rfl, has⟩
  · cases (Escape.splitFirst_of_notMem hmem).symm.trans h

theorem notMem_of_splitFirst {mark : Char} {cs : List Char} (h : splitFirst mark cs = none) :
    mark ∉ cs := fun hmem => by
  obtain ⟨as, bs, rfl, has⟩ := List.eq_append_cons_of_mem hmem
  cases (Escape.splitFirst_append has bs).symm.trans h

/-- Blanks are taken off the front only where the last character is not blank. -/
theorem getLast?_trim {cs : List Char} (h : EndsSolid cs) (hne : trim cs ≠ []) :
    (trim cs).getLast? = cs.getLast? := by
  obtain ⟨lead, hlead⟩ := List.dropWhile_suffix isBlank (l := cs)
  have hstart : cs.dropWhile isBlank ≠ [] := fun hnil => hne (by
    rw [trim, trimStart, hnil]
    rfl)
  have hlast : (cs.dropWhile isBlank).getLast? = cs.getLast? := by
    rw [← List.getLast?_append_of_ne_nil lead hstart, hlead]
  have htrim : trim cs = cs.dropWhile isBlank := List.rdropWhile_eq_self_iff.2 fun hne' => by
    simp [h _ (hlast ▸ List.getLast?_eq_some_getLast hne')]
  rw [htrim, hlast]

/-- The name of a table and a form, as a query holds them. -/
structure IsSoundName (name : String) (subtype : Option String) : Prop where
  table : IsPart name.toList
  point : '.' ∉ name.toList
  form : ∀ s ∈ subtype, IsPart s.toList

/-- What is read from a target that has no sign behind it. -/
def name? (cs : List Char) : Option (String × Option String) :=
  match splitFirst '.' cs with
  | some (name, subtype) =>
    if trim name = [] || trim subtype = [] then none
    else some (.ofList (trim name), some (.ofList (trim subtype)))
  | none => if cs = [] then none else some (.ofList cs, none)

theorem target?_eq (cs : List Char) : target? cs =
    if (trim cs).getLast? = some '$' then
      (name? (trimEnd (trim cs).dropLast)).map fun (name, subtype) => (name, subtype, true)
    else (name? (trim cs)).map fun (name, subtype) => (name, subtype, false) := by
  simp only [target?, name?]
  by_cases hsign : (trim cs).getLast? = some '$'
  · rw [if_pos hsign, if_pos hsign]
    rcases splitFirst '.' (trimEnd (trim cs).dropLast) with _ | ⟨name, subtype⟩ <;>
      (dsimp only; split <;> rfl)
  · rw [if_neg hsign, if_neg hsign]
    rcases splitFirst '.' (trim cs) with _ | ⟨name, subtype⟩ <;> (dsimp only; split <;> rfl)

theorem target?_append_blank (cs : List Char) : target? (cs ++ [' ']) = target? cs := by
  rw [target?_eq, target?_eq, trim_append_blank]

/-- What is read without a sign is sound, and its last character is that of the text. -/
theorem isSoundName_of_name? {cs : List Char} {name : String} {subtype : Option String}
    (h : name? cs = some (name, subtype)) (hhead : ∀ c ∈ cs.head?, isBlank c = false)
    (hlast : EndsSolid cs) (hdash : '-' ∉ cs) (hcolons : cs.IsChain Apart) :
    IsSoundName name subtype ∧ (writtenName name subtype).getLast? = cs.getLast? := by
  unfold name? at h
  split at h
  · next before after hsplit =>
    obtain ⟨rfl, hpoint⟩ := eq_of_splitFirst hsplit
    split at h
    · cases h
    · next hne =>
      cases h
      rw [Bool.or_eq_true, decide_eq_true_eq, decide_eq_true_eq, not_or] at hne
      obtain ⟨hdash, hdash'⟩ := not_or.1 (mt List.mem_append.2 hdash)
      have hafter : after ≠ [] := fun hnil => hne.2 (by rw [hnil]; rfl)
      have hend : (before ++ '.' :: after).getLast? = after.getLast? := by
        rw [List.append_cons, List.getLast?_append_of_ne_nil _ hafter]
      have hbefore := List.IsChain.infix hcolons (List.prefix_append before _).isInfix
      have hbehind : after <:+ before ++ '.' :: after :=
        (List.suffix_cons '.' after).trans (List.suffix_append _ _)
      have hchain := List.IsChain.infix hcolons hbehind.isInfix
      have hname := IsPart.of_trim hne.1 hdash hbefore
      have hform := IsPart.of_trim hne.2 (fun hmem => hdash' (List.mem_cons_of_mem _ hmem)) hchain
      refine ⟨⟨by rwa [String.toList_ofList], fun hmem => ?_, fun s hs => ?_⟩, ?_⟩
      · rw [String.toList_ofList] at hmem
        exact hpoint ((trim_infix_self before).subset hmem)
      · cases hs
        rwa [String.toList_ofList]
      · rw [writtenName, Option.elim_some, String.toList_ofList, String.toList_ofList,
          List.append_cons, List.getLast?_append_of_ne_nil _ hne.2, hend]
        exact getLast?_trim (fun c hc => hlast c (hend ▸ hc)) hne.2
  · next hsplit =>
    split at h
    · cases h
    · next hne =>
      cases h
      have hpoint := notMem_of_splitFirst hsplit
      refine ⟨⟨?_, ?_, nofun⟩, ?_⟩
      · rw [String.toList_ofList]
        exact ⟨⟨hne, hlast, hdash, hcolons⟩, hhead⟩
      · rwa [String.toList_ofList]
      · rw [writtenName, Option.elim_none, List.append_nil, String.toList_ofList]

theorem name?_written {name : String} {subtype : Option String} (h : IsSoundName name subtype) :
    name? (writtenName name subtype) = some (name, subtype) := by
  cases subtype with
  | none =>
    rw [writtenName, Option.elim_none, List.append_nil, name?, Escape.splitFirst_of_notMem h.point]
    dsimp only
    rw [if_neg h.table.ne, String.ofList_toList]
  | some form =>
    have hform := h.form form rfl
    have hne : ¬((trim name.toList = [] || trim form.toList = []) = true) := by
      rw [h.table.trim_eq, hform.trim_eq]
      simp [h.table.ne, hform.ne]
    rw [writtenName, Option.elim_some, name?, Escape.splitFirst_append h.point]
    dsimp only
    rw [if_neg hne, h.table.trim_eq, hform.trim_eq, String.ofList_toList, String.ofList_toList]

/-- What is read as a target is sound, and if there is no sign for exclusive classes the name does
not end with one. -/
theorem isSoundName_of_target? {cs : List Char} {name : String} {subtype : Option String}
    {exclusive : Bool} (h : target? cs = some (name, subtype, exclusive)) (hdash : '-' ∉ cs)
    (hcolons : cs.IsChain Apart) : IsSoundName name subtype ∧
      (exclusive = false → (writtenName name subtype).getLast? ≠ some '$') := by
  obtain ⟨hhead, hlast⟩ : (∀ c ∈ (trim cs).head?, isBlank c = false) ∧ EndsSolid (trim cs) :=
    edges_trim isBlank cs
  have hdash' : '-' ∉ trim cs := fun hmem => hdash ((trim_infix_self cs).subset hmem)
  have hcolons' : (trim cs).IsChain Apart := List.IsChain.infix hcolons (trim_infix_self cs)
  rw [target?_eq] at h
  split at h
  · obtain ⟨p, hp, heq⟩ := Option.map_eq_some_iff.1 h
    cases heq
    have hfront : trimEnd (trim cs).dropLast <+: trim cs :=
      (List.rdropWhile_prefix isBlank _).trans (List.dropLast_prefix _)
    have hchain := List.IsChain.infix hcolons' hfront.isInfix
    refine ⟨(isSoundName_of_name? hp (fun c hc => ?_) (fun c hc => ?_)
      (fun hmem => hdash' (hfront.subset hmem)) hchain).1, nofun⟩
    · obtain ⟨rest, hrest⟩ := List.head?_eq_some_iff.1 hc
      obtain ⟨more, hmore⟩ := hfront
      exact hhead c (by rw [← hmore, hrest]; rfl)
    · obtain ⟨hne, rfl⟩ := List.mem_getLast?_eq_getLast hc
      exact Bool.eq_false_iff.2 (List.rdropWhile_last_not isBlank _ hne)
  · next hsign =>
    obtain ⟨p, hp, heq⟩ := Option.map_eq_some_iff.1 h
    cases heq
    obtain ⟨hsound, hend⟩ := isSoundName_of_name? hp hhead hlast hdash' hcolons'
    exact ⟨hsound, fun _ => hend ▸ hsign⟩

end Query

/-! ## Carriers -/

/-- The id of the carrier is a word. -/
structure Carrier.IsSound (c : Carrier) : Prop where
  ne : c.id.toList ≠ []
  solid : ∀ x ∈ c.id.toList, isBlank x = false

namespace Query

theorem eq_written_of_carrier? {w : List Char} {c : Carrier} (h : carrier? w = some c) :
    w = c.written ∧ c.id.toList ≠ [] := by
  unfold carrier? at h
  split at h
  · cases h
    exact ⟨by simp [Carrier.written, CarrierKind.sign], by simp⟩
  · cases h
    exact ⟨by simp [Carrier.written, CarrierKind.sign], by simp⟩
  · cases h

theorem carrier?_written {c : Carrier} (h : c.IsSound) : carrier? c.written = some c := by
  obtain ⟨kind, id⟩ := c
  obtain ⟨x, xs, hid⟩ := List.exists_cons_of_ne_nil h.ne
  have hback : String.ofList (x :: xs) = id := by rw [← hid, String.ofList_toList]
  have hwritten : Carrier.written ⟨kind, id⟩ = kind.sign :: x :: xs := congrArg (kind.sign :: ·) hid
  rw [hwritten]
  cases kind <;> simp [carrier?, CarrierKind.sign, hback]

theorem isSound_of_carriers {cs : List Char} {carriers : List Carrier}
    (h : (words cs).mapM carrier? = some carriers) : ∀ c ∈ carriers, c.IsSound := by
  intro c hc
  obtain ⟨w, hw, hread⟩ := exists_of_mem_mapM h hc
  obtain ⟨rfl, hne⟩ := eq_written_of_carrier? hread
  exact ⟨hne, fun x hx => (mem_words hw).2 x (List.mem_cons_of_mem _ hx)⟩

theorem solid_written {c : Carrier} (h : c.IsSound) : ∀ x ∈ c.written, isBlank x = false := by
  refine List.forall_mem_cons.2 ⟨?_, h.solid⟩
  cases c.kind <;> decide

theorem carriers_written {carriers : List Carrier} (h : ∀ c ∈ carriers, c.IsSound) :
    (words (List.intercalate [' '] (carriers.map Carrier.written))).mapM carrier? =
      some carriers := by
  rw [words_intercalate fun w hw => by
    obtain ⟨c, hc, rfl⟩ := List.mem_map.1 hw
    exact ⟨List.cons_ne_nil _ _, solid_written (h c hc)⟩]
  exact mapM_map fun c hc => carrier?_written (h c hc)

/-! ## Whole queries -/

/-- The parts of a query are such as are read. -/
structure IsSound (q : Query) : Prop where
  name : IsSoundName q.name q.subtype
  dollar : q.exclusive = false → (writtenName q.name q.subtype).getLast? ≠ some '$'
  filters : ∀ group ∈ q.filters, group ≠ [] ∧ ∀ r ∈ group, r.IsSound
  carriers : ∀ c ∈ q.carriers, c.IsSound

/-- What is read from the pieces between dashes. -/
def readHead? (parts : List (List Char)) :
    Option ((String × Option String × Bool) × List (List ClassRule)) :=
  match parts with
  | [] => none
  | target :: groups =>
    (target? target).bind fun named => (groups.mapM group?).map fun filters => (named, filters)

theorem readHead?_eq_some_iff {parts : List (List Char)} {named : String × Option String × Bool}
    {filters : List (List ClassRule)} : readHead? parts = some (named, filters) ↔
      ∃ target groups, parts = target :: groups ∧ target? target = some named ∧
        groups.mapM group? = some filters := by
  cases parts with
  | nil => simp [readHead?]
  | cons target groups => simp [readHead?, Option.bind_eq_some_iff]

/-- A blank behind the last piece does not count. -/
theorem readHead?_append_blank (parts : List (List Char)) (last : List Char) :
    readHead? (parts ++ [last ++ [' ']]) = readHead? (parts ++ [last]) := by
  cases parts with
  | nil => simp only [readHead?, List.nil_append, target?_append_blank]
  | cons target groups =>
    simp only [readHead?, List.cons_append, List.mapM_append, List.mapM_cons, group?_append_blank]

theorem ofText?_eq_some_iff {text : String} {q : Query} : ofText? text = some q ↔
    readHead? (pieces '-' (splitCarriers (trim text.toList)).1) =
        some ((q.name, q.subtype, q.exclusive), q.filters) ∧
      (words ((splitCarriers (trim text.toList)).2.getD [])).mapM carrier? = some q.carriers := by
  rw [ofText?]
  generalize splitCarriers (trim text.toList) = cut
  obtain ⟨head, tail⟩ := cut
  dsimp only
  rw [readHead?_eq_some_iff]
  cases pieces '-' head with
  | nil => simp
  | cons target groups =>
    constructor
    · intro h
      obtain ⟨⟨name, subtype, exclusive⟩, htarget, h⟩ := Option.bind_eq_some_iff.1 h
      obtain ⟨filters, hfilters, h⟩ := Option.bind_eq_some_iff.1 h
      obtain ⟨carriers, hcarriers, h⟩ := Option.map_eq_some_iff.1 h
      cases h
      exact ⟨⟨target, groups, rfl, htarget, hfilters⟩, hcarriers⟩
    · rintro ⟨⟨_, _, hparts, htarget, hfilters⟩, hcarriers⟩
      cases hparts
      dsimp only
      rw [htarget, Option.bind_some, hfilters, Option.bind_some, hcarriers, Option.map_some]

/-- A query that is read is sound. -/
theorem isSound_of_ofText? {text : String} {q : Query} (h : ofText? text = some q) : q.IsSound := by
  obtain ⟨hhead, hcarriers⟩ := ofText?_eq_some_iff.1 h
  obtain ⟨target, groups, hpieces, htarget, hgroups⟩ := readHead?_eq_some_iff.1 hhead
  have hcolons := isChain_splitCarriers (trim text.toList)
  have hpiece : ∀ part ∈ target :: groups, part <:+: (splitCarriers (trim text.toList)).1 :=
    fun part hpart => infix_of_mem_pieces (hpieces ▸ hpart)
  have hdash : ∀ part ∈ target :: groups, '-' ∉ part :=
    fun part hpart => notMem_of_mem_pieces (hpieces ▸ hpart)
  have hchain : ∀ part ∈ target :: groups, part.IsChain Apart :=
    fun part hpart => List.IsChain.infix hcolons (hpiece part hpart)
  obtain ⟨hname, hdollar⟩ := isSoundName_of_target? htarget (hdash _ List.mem_cons_self)
    (hchain _ List.mem_cons_self)
  refine ⟨hname, hdollar, fun group hgroup => ?_, isSound_of_carriers hcarriers⟩
  obtain ⟨part, hpart, hread⟩ := exists_of_mem_mapM hgroups hgroup
  have hmem := List.mem_cons_of_mem target hpart
  exact isSound_of_group? hread (hdash _ hmem) (hchain _ hmem)

/-! ## Reading what was written -/

theorem isPiece_writtenName {name : String} {subtype : Option String}
    (h : IsSoundName name subtype) : IsPiece (writtenName name subtype) := by
  cases subtype with
  | none =>
    rw [writtenName, Option.elim_none, List.append_nil]
    exact h.table.toIsPiece
  | some form =>
    have hform := h.form form rfl
    exact h.table.append_cons hform.last hform.dash hform.colons (by decide) (by decide) (by decide)

/-- What is written begins with the table. -/
theorem head?_writtenName_append {name : String} {subtype : Option String}
    (h : IsSoundName name subtype) (rest : List Char) :
    ∀ c ∈ (writtenName name subtype ++ rest).head?, isBlank c = false := by
  rw [writtenName, List.append_assoc, List.head?_append_of_ne_nil _ h.table.ne]
  exact h.table.head

theorem isPiece_writtenTarget {q : Query} (h : IsSoundName q.name q.subtype) :
    IsPiece q.writtenTarget := by
  have hname := isPiece_writtenName h
  unfold writtenTarget
  split
  · exact hname.append_cons nofun List.not_mem_nil .nil (by decide) (by decide) (by decide)
  · rwa [List.append_nil]

theorem isPiece_writtenGroup {group : List ClassRule} (hne : group ≠ [])
    (h : ∀ r ∈ group, r.IsSound) : IsPiece (writtenGroup group) := by
  refine .intercalate (mt List.map_eq_nil_iff.1 hne) (fun part hpart => ?_) (by decide) (by decide)
  obtain ⟨r, hr, rfl⟩ := List.mem_map.1 hpart
  obtain ⟨sign, hsign, hwritten⟩ := r.written_eq_append
  have hclass := (h r hr).part.toIsPiece
  rw [hwritten]
  rcases hsign with rfl | rfl
  · exact hclass
  · exact hclass.cons (by decide) (by decide)

/-- The parts in front of the carriers, with dashes between them. -/
theorem append_flatMap_writtenGroup (target : List Char) (filters : List (List ClassRule)) :
    target ++ filters.flatMap (fun group => '-' :: writtenGroup group) =
      List.intercalate ['-'] (target :: filters.map writtenGroup) := by
  induction filters generalizing target with
  | nil => rw [List.map_nil, List.intercalate_singleton, List.flatMap_nil, List.append_nil]
  | cons group filters ih =>
    rw [List.flatMap_cons, List.map_cons, List.intercalate_cons_cons, ← ih, List.cons_append,
      List.append_assoc, List.singleton_append]

namespace IsSound

variable {q : Query}

/-- The table, the form and the sign are read as they are written. -/
theorem target?_written (h : q.IsSound) :
    target? q.writtenTarget = some (q.name, q.subtype, q.exclusive) := by
  have htrim : trim q.writtenTarget = q.writtenTarget :=
    trim_eq_self (head?_writtenName_append h.name _) (isPiece_writtenTarget h.name).last
  have hname := name?_written h.name
  rw [target?_eq, htrim, writtenTarget]
  cases hexclusive : q.exclusive with
  | true =>
    have hend : trimEnd (writtenName q.name q.subtype) = writtenName q.name q.subtype :=
      List.rdropWhile_eq_self_iff.2 fun hne => by
        simp [(isPiece_writtenName h.name).last _ (List.getLast?_eq_some_getLast hne)]
    rw [if_pos rfl, if_pos List.getLast?_concat, List.dropLast_concat, hend, hname, Option.map_some]
  | false =>
    rw [if_neg Bool.false_ne_true, List.append_nil, if_neg (h.dollar hexclusive), hname,
      Option.map_some]

/-- The target and the groups are pieces. -/
theorem isPiece_of_mem (h : q.IsSound) :
    ∀ part ∈ q.writtenTarget :: q.filters.map writtenGroup, IsPiece part := by
  refine List.forall_mem_cons.2 ⟨isPiece_writtenTarget h.name, fun part hpart => ?_⟩
  obtain ⟨group, hgroup, rfl⟩ := List.mem_map.1 hpart
  exact isPiece_writtenGroup (h.filters group hgroup).1 (h.filters group hgroup).2

/-- The target and the groups are found again. -/
theorem pieces_written (h : q.IsSound) : pieces '-' (q.writtenTarget ++ q.writtenFilters) =
    q.writtenTarget :: q.filters.map writtenGroup := by
  rw [writtenFilters, append_flatMap_writtenGroup]
  exact pieces_intercalate (List.cons_ne_nil _ _)
    fun part hpart => (h.isPiece_of_mem part hpart).dash

theorem readHead?_written (h : q.IsSound) :
    readHead? (pieces '-' (q.writtenTarget ++ q.writtenFilters)) =
      some ((q.name, q.subtype, q.exclusive), q.filters) :=
  readHead?_eq_some_iff.2 ⟨_, _, h.pieces_written, h.target?_written, mapM_map fun group hgroup =>
    group?_written (h.filters group hgroup).1 (h.filters group hgroup).2⟩

/-- No colons meet in front of the carriers. -/
theorem isChain_written (h : q.IsSound) : (q.writtenTarget ++ q.writtenFilters).IsChain Apart := by
  rw [writtenFilters, append_flatMap_writtenGroup]
  exact isChain_intercalate (by decide) fun part hpart => (h.isPiece_of_mem part hpart).colons

/-- There is no blank at the edges of what is written. -/
theorem trim_written (h : q.IsSound) : trim q.written.toList = q.written.toList := by
  rw [written, String.toList_ofList]
  refine trim_eq_self ?_ ?_
  · rw [writtenTarget, List.append_assoc, List.append_assoc]
    exact head?_writtenName_append h.name _
  · unfold writtenCarriers
    split
    · rw [List.append_nil, writtenFilters, append_flatMap_writtenGroup]
      exact EndsSolid.intercalate (fun part hpart => (h.isPiece_of_mem part hpart).ne)
        fun part hpart => (h.isPiece_of_mem part hpart).last
    · have hcarriers : EndsSolid (List.intercalate [' '] (q.carriers.map Carrier.written)) := by
        refine .intercalate (fun part hpart => ?_) fun part hpart c hc => ?_
        all_goals obtain ⟨carrier, hcarrier, rfl⟩ := List.mem_map.1 hpart
        · exact List.cons_ne_nil _ _
        · exact solid_written (h.carriers carrier hcarrier) c (List.mem_of_getLast? hc)
      exact EndsSolid.append (List.cons_ne_nil _ _) (.append (a := [' ']) (List.cons_ne_nil _ _)
        (.cons (by decide) (.cons (by decide) hcarriers)))

end IsSound

/-- A sound query is read as it is written. -/
theorem ofText?_written {q : Query} (h : q.IsSound) : ofText? q.written = some q := by
  have hhead := h.readHead?_written
  rw [ofText?_eq_some_iff, h.trim_written, written, String.toList_ofList, writtenCarriers]
  split
  · next hcarriers =>
    rw [List.append_nil, splitCarriers_of_isChain h.isChain_written, hcarriers]
    exact ⟨hhead, rfl⟩
  · -- the blank keeps a colon at the end of the last part from the carriers' colons
    rw [List.append_cons _ ' ', splitCarriers_append
      (isChain_append_cons h.isChain_written .nil (by decide))
      (by simp) _]
    obtain ⟨parts, last, hpieces, hmore⟩ := exists_pieces_append
      (show '-' ∉ [' '] by decide) (q.writtenTarget ++ q.writtenFilters)
    rw [hpieces] at hhead
    exact ⟨by rw [hmore, readHead?_append_blank, hhead], carriers_written h.carriers⟩

end Query

/-! ## Main result -/

/-- A query that was read is read again from its parts as they are written. -/
theorem Query.ofText_written {text : String} {q : Query} (h : Query.ofText text = .ok q) :
    Query.ofText q.written = .ok q := by
  have hread : Query.ofText? text = some q := by
    unfold Query.ofText at h
    split at h
    · next hsome => rw [hsome, Except.ok.inj h]
    · cases h
  have hback := Query.ofText?_written (Query.isSound_of_ofText? hread)
  rw [Query.ofText, hback]

theorem Query.ofText_written_stray :
    let q : Query := ⟨"a:$", some "b.c$", [[⟨"d:", true⟩, ⟨"e!", false⟩], [⟨"f:", false⟩]], true,
      [⟨.same, "x"⟩, ⟨.unique, "y::"⟩]⟩
    Query.ofText " a:$ . b.c$ $ - !d: | e! - f: :: =x  !y:: " = .ok q ∧
      q.written = "a:$.b.c$$-!d:|e!-f: ::=x !y::" ∧ Query.ofText q.written = .ok q := by
  have h : Query.ofText " a:$ . b.c$ $ - !d: | e! - f: :: =x  !y:: " = .ok
      ⟨"a:$", some "b.c$", [[⟨"d:", true⟩, ⟨"e!", false⟩], [⟨"f:", false⟩]], true,
        [⟨.same, "x"⟩, ⟨.unique, "y::"⟩]⟩ := by cbv
  exact ⟨h, by decide +kernel, Query.ofText_written h⟩

end Wordsmith
