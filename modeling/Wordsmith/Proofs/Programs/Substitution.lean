import Wordsmith.Proofs.Programs.Lines
import Wordsmith.Proofs.Programs.Running

/-!
# Programs print what substitution gives

A machine never replaces anything in code. It keeps the values of the arguments in a table, looks
them up where they are named, and takes the table away when the call is over. But while the tokens of
a body run, nothing but that table is on top, so what they print is the value of the body for the
arguments in the table; and behind the call all is as it was before, but for what was printed.

How many frames a piece of code takes is bounded by its size and by what the bodies take that it
calls.

Main results: `Writes.prints`, code prints its value, and `Program.run_eq_value`.
-/

namespace Wordsmith

open Machine

/-! ## Tables of arguments -/

/-- The arguments of a call by the names of the parameters. -/
def Subroutine.table (called : Subroutine) (arguments : List Argument) : Named Argument :=
  (called.parameters.zip arguments).foldl (fun t (p, a) => t.insert p.name a) .empty

/-- The subroutine that a definition makes known, given its body. -/
def Definition.subroutine (d : Definition) (body : Passage) : Subroutine :=
  ⟨d.name, d.parameters.map fun p => ⟨p, false⟩, body⟩

/-- In the tables, the parameters have the values that are passed for them. -/
def Passes (parameters : List String) (tables : List (Named Argument))
    (passed : List (String × String)) : Prop :=
  ∀ p ∈ parameters, ∃ value, passed.lookup p = some value ∧
    tables.head?.bind (·.get? p) = some (.text value)

theorem Definition.passes_table {d : Definition} (hdistinct : d.parameters.Nodup) (body : Passage)
    {values : List String} (hlength : values.length = d.parameters.length)
    (A : List (Named Argument)) :
    Passes d.parameters ((d.subroutine body).table (values.map .text) :: A)
      (d.parameters.zip values) := by
  have hstored : ∀ (ps vs : List String) (t : Named Argument), ps.Nodup → vs.length = ps.length →
      let stored := ((ps.map fun p => (⟨p, false⟩ : Parameter)).zip (vs.map .text)).foldl
        (fun t (p, a) => t.insert p.name a) t
      (∀ p ∈ ps, ∃ value, (ps.zip vs).lookup p = some value ∧ stored.get? p = some (.text value)) ∧
        ∀ p ∉ ps, stored.get? p = t.get? p := by
    intro ps
    induction ps with
    | nil => exact fun vs t _ _ => ⟨by simp, by simp⟩
    | cons p ps ih =>
      intro vs t hnodup hlength
      obtain ⟨hp, hnodup⟩ := List.nodup_cons.1 hnodup
      cases vs with
      | nil => cases hlength
      | cons v vs =>
        obtain ⟨hin, hout⟩ := ih vs (t.insert p (.text v)) hnodup (Nat.succ.inj hlength)
        refine ⟨fun q hq => ?_, fun q hq => ?_⟩
        · rcases List.mem_cons.1 hq with rfl | hq
          · exact ⟨v, by simp, (hout q hp).trans (Named.get?_insert_self ..)⟩
          · obtain ⟨value, hlookup, hget⟩ := hin q hq
            have hne : q ≠ p := fun h => hp (h ▸ hq)
            refine ⟨value, ?_, hget⟩
            rw [List.zip_cons_cons, List.lookup_cons, beq_eq_false_iff_ne.2 hne]
            exact hlookup
        · obtain ⟨hne, hq⟩ := not_or.1 (mt List.mem_cons.2 hq)
          refine (hout q hq).trans ?_
          rw [Named.get?_insert, if_neg (Ne.symm hne)]
  exact (hstored d.parameters values .empty hdistinct hlength).1

/-! ## Text -/

namespace Phrase

variable {calls : Meaning} {passed : List (String × String)}

theorem value_ofText_append (text : String) (a : Phrase) :
    (ofText text ++ a).value calls passed = text ++ a.value calls passed := by
  have h : ∀ cs : List Char, value calls passed (cs.map .char ++ a) =
      .ofList cs ++ value calls passed a := fun cs => by
    induction cs with
    | nil => simp
    | cons c cs ih =>
      rw [List.map_cons, List.cons_append, value, ih, ← String.append_assoc]
      congr 1
      exact String.toList_inj.1 (by simp)
  rw [ofText, h, String.ofList_toList]

theorem value_ofText (text : String) : (ofText text).value calls passed = text := by
  have h : (ofText text ++ []).value calls passed = text ++ value calls passed [] :=
    value_ofText_append text []
  rwa [List.append_nil, value, String.append_empty] at h

end Phrase

/-- Where a passage needs no frame, it is the text that it writes. -/
theorem Passage.Writes.text_eq_value {p : Passage} {a : Phrase} (h : p.Writes a)
    (hplain : Slot.isPlain p = true) (calls : Phrase.Meaning) (passed : List (String × String)) :
    p.text = a.trim.value calls passed := by
  have hkinds : ∀ t ∈ p.tokens, t.kind ≠ .leftSquare := fun t ht hkind => by
    have hall := List.all_eq_true.1 hplain t ht
    simp [hkind] at hall
  rw [Wordsmith.Writes.eq_ofText h hkinds, Phrase.value_ofText]
  rfl

/-! ## Arguments -/

/-- An argument that is passed as text is printed. -/
theorem Call.run_argument (call : Call) {scene : Scene} {value : String}
    (h : scene.registers.arguments.head?.bind (·.get? (call.text 0)) = some (.text value)) :
    call.argument.run scene = (Act.print value >>= fun _ => pure Next.stay).run scene := by
  rw [argument, Act.run_read_bind, h]

namespace Machine

variable {s : Setting} {m : Machine s} {c : Surroundings} {text value : String}
  {tokens : List Token}

/-- The tag for arguments prints the text that its own argument names. -/
theorem At.callArgument (h : m.At c text tokens) (name : Token) {parameter : String}
    (hparameter : IsParameterName parameter)
    (hpassed : c.registers.arguments.head?.bind (·.get? parameter) = some (.text value)) :
    ∃ m', m.callTag .argument name [.text parameter] = .ok m' ∧ m'.At c (text ++ value) tokens := by
  let call : Call := ⟨name.text, [.text parameter]⟩
  have hm := h.moveTo name.position
  obtain ⟨m', hprint, hm'⟩ := hm.print value
  refine ⟨m', ?_, hm'⟩
  have hname : call.text 0 = parameter := by
    have htext : call.text 0 = Text.trimmed parameter := rfl
    rw [htext, hparameter.trimmed_eq]
  rw [← hm.arguments, ← hname] at hpassed
  have hact : (m.moveTo name.position).act (Tag.perform s (m.moveTo name.position).patternCode
      call .argument) = .ok (.stay, m') :=
    (act_congr (m := m.moveTo name.position) (call.run_argument hpassed)).trans
      (act_of_perform hprint Next.stay)
  rw [callTag_of_act hact]
  rfl

/-- What lies around the body of a subroutine that was called. Behind the body, the machine is where
the call was made. -/
theorem At.callSubroutine (h : m.At c text tokens) (hroom : c.below.length + 2 ≤ s.maxDepth)
    (called : Subroutine) (name : Token) (arguments : List Argument) :
    ∃ (m' : Machine s) (c' : Surroundings), m.callSubroutine called name arguments = .ok m' ∧
      m'.At c' text called.body.tokens ∧ c'.below.length = c.below.length + 1 ∧
      c'.registers.subroutines = c.registers.subroutines ∧
      c'.registers.arguments = called.table arguments :: c.registers.arguments ∧
      c'.frame.pre = [] ∧ ∀ (m₁ : Machine s) (text₁ : String), m₁.At c' text₁ [] →
        ∃ m₂, Leads 2 m₁ m₂ ∧ m₂.At c text₁ tokens := by
  obtain ⟨r, hstart, hrest, hframes⟩ := h.frames
  obtain ⟨b, hb, hregisters⟩ := h.registers
  let call (q : Registers) : Registers :=
    { q with arguments := called.table arguments :: q.arguments }
  let base : Frame := { c.frame with reader := r, pre := .dropArguments :: c.frame.pre }
  let c' : Surroundings := ⟨⟨m.nextId, .ofPassage called.body, false, m.results.length, [], []⟩,
    base :: c.below, c.others, c.results, call c.registers⟩
  let m₀ : Machine s := ((m.moveTo name.position).change call).defer .dropArguments
  have hframes₀ : m₀.frames = base :: c.below := by
    simp [m₀, base, Machine.defer, modifyTop, Machine.change, Machine.moveTo, hframes]
  have hlength : m₀.frames.length + 1 ≤ s.maxDepth := by
    rw [hframes₀]
    exact hroom
  refine ⟨_, c', push_eq_ok hlength called.body false [] [], ⟨⟨.ofPassage called.body, ?_, ?_, ?_⟩,
    h.outputs, h.results, ⟨b, hb, ?_⟩, h.blocks⟩, rfl, rfl, rfl, rfl, fun m₁ text₁ hm₁ => ?_⟩
  · exact Nat.le_refl _
  · exact Reader.rest_ofPassage _
  · exact congrArg (_ :: ·) hframes₀
  · exact congrArg call hregisters
  · -- The frame of the body goes, and the arguments are dropped.
    obtain ⟨houtputs, hresults⟩ := hm₁.pop_of_shares rfl
    have hpop : m₁.pop.At ({ c with registers := call c.registers }.defer .dropArguments) text₁
        tokens :=
      ⟨⟨r, hstart, hrest, hm₁.frames_pop⟩, houtputs ▸ hm₁.outputs, hresults, hm₁.registers, hm₁.blocks⟩
    obtain ⟨m₂, hm₂, hstep⟩ := hpop.step_take
    exact ⟨_, .step hm₁.frames_ne_nil (hm₁.step_pop rfl rfl) (.single hpop.frames_ne_nil hstep),
      hm₂.change (f := fun q => { q with arguments := q.arguments.tail }) fun _ _ => rfl⟩

end Machine

/-! ## Pieces -/

/-- A passage that writes the name of a parameter has that name as its value. -/
theorem IsParameterName.isArgument {parameter : String} (h : IsParameterName parameter)
    {p : Passage} (hp : p.Writes (.ofText parameter)) (R : Named Subroutine)
    (A : List (Named Argument)) (room : Nat) : p.IsArgument R A room parameter := by
  have hargument : p.IsArgument R A room (Text.trimmed parameter) := hp.isArgument
  rwa [h.trimmed_eq] at hargument

namespace Prints

variable {R : Named Subroutine} {A : List (Named Argument)} {room room₁ room₂ : Nat} {k : List Token}
  {opener dollar name closer : Token} {value : String}

/-- An argument that is passed as text takes one frame for its name. -/
theorem argument {parameter : String} (hopener : opener.kind = .leftSquare)
    (hname : name.kind = .text) (htext : name.text = "arg") (hk : Listed [.ofText parameter] k)
    (hcloser : closer.kind = .rightSquare) (hparameter : IsParameterName parameter)
    (hpassed : A.head?.bind (·.get? parameter) = some (.text value)) :
    Prints R A 1 (opener :: name :: (k ++ [closer])) value := by
  refine ⟨fun {s} m c before rest hR hA hpre hdepth hm => ?_⟩
  have hfree : ∀ b ∈ [Phrase.ofText parameter], .char ';' ∉ b := by
    refine List.forall_mem_singleton.2 fun hmem => ?_
    obtain ⟨c, hc, heq⟩ := List.mem_map.1 hmem
    exact (hparameter.unmarked c hc).2 (Piece.char.inj heq)
  obtain ⟨m₁, b, hm₁, ⟨ps, rfl, hps⟩, hstep⟩ :=
    hm.step_bracket hpre hopener (Bracket.reads_tag hname hk hfree hcloser)
  cases hps with
  | @cons p _ _ _ hp hnone =>
    cases hnone
    let called : Signature := ⟨.argument, [.text], false⟩
    have hfind : TagEntry.find? name.text = some ⟨"arg", [called]⟩ := by
      rw [htext]
      decide +kernel
    have hcode : ∀ i, called.takesCode i = false := fun i => by cases i <;> rfl
    obtain ⟨m₂, hm₂, hcall⟩ := (hm₁.moveTo name.position).takeAfter
      (fun m l => m.callTag .argument name l) (.callTag .argument name) (fun _ _ => rfl) hcode hR hA
      hdepth (.cons (hparameter.isArgument hp R A 0) .nil) s.shortcuts.literals
    obtain ⟨m', hcalled, hm'⟩ := hm₂.callArgument name hparameter (hA ▸ hpassed)
    obtain ⟨n, m₀, htake, hlead⟩ := hcall m' hcalled
    have hrun : m₁.runTag name [p] = .ok m₀ := (runTag_of_find hfind rfl).trans htake
    exact ⟨n + 1, m', .step hm.frames_ne_nil (hstep.trans hrun) hlead, hm'⟩

/-- A call prints what the body prints for the values of the arguments. -/
theorem call {as : List Phrase} {values : List String} {called : Subroutine}
    (hopener : opener.kind = .leftSquare) (hdollar : dollar.kind = .dollar)
    (hname : name.kind = .text) (hk : Listed as k) (hfree : ∀ b ∈ as, .char ';' ∉ b)
    (hcloser : closer.kind = .rightSquare) (hget : R.get? name.text = some called)
    (harity : called.arity = as.length) (hcode : ∀ i, called.takesCode i = false)
    (hvalues : ∀ ps, List.Forall₂ Passage.Writes ps as →
      List.Forall₂ (Passage.IsArgument R A room₁) ps values)
    (hbody : Prints R (called.table (values.map .text) :: A) room₂ called.body.tokens value)
    (hroom₁ : room₁ + as.length ≤ room) (hroom₂ : room₂ + 1 ≤ room) :
    Prints R A room (opener :: dollar :: name :: (k ++ [closer])) value := by
  refine ⟨fun {s} m c before rest hR hA hpre hdepth hm => ?_⟩
  obtain ⟨m₁, b, hm₁, ⟨ps, rfl, hps⟩, hstep⟩ :=
    hm.step_bracket hpre hopener (Bracket.reads_call hdollar hname hk hfree hcloser)
  have hlength := hps.length_eq
  have hget' : m₁.registers.subroutines.get? name.text = some called := by
    rw [hm₁.subroutines, hR, hget]
  -- The arguments are run, and the body is on top.
  obtain ⟨m₂, hm₂, hcall⟩ := (hm₁.moveTo name.position).takeAfter
    (fun m l => m.callSubroutine called name l) (.callSubroutine called name) (fun _ _ => rfl)
    hcode hR hA (by omega) (hvalues ps hps) s.shortcuts.literals
  obtain ⟨m₃, c', hcalled, hm₃, hbelow, hsubroutines, harguments, hpre', hdone⟩ :=
    hm₂.callSubroutine (by omega) called name (values.map .text)
  obtain ⟨n, m₀, htake, hlead⟩ := hcall m₃ hcalled
  have hrun : m₁.runCall name ps = .ok m₀ :=
    (runCall_of_get hget' (harity.trans hlength.symm)).trans htake
  -- The body is run, and its frame goes.
  rw [← List.append_nil called.body.tokens] at hm₃
  obtain ⟨n', m₄, hlead', hm₄⟩ := hbody.leads m₃ c' before [] (hsubroutines.trans hR)
    (by rw [harguments, hA]) hpre' (by omega) hm₃
  obtain ⟨m₅, hreturn, hm₅⟩ := hdone m₄ _ hm₄
  exact ⟨_, m₅, .step hm.frames_ne_nil (hstep.trans hrun) (hlead.trans (hlead'.trans hreturn)), hm₅⟩

end Prints

/-! ## Code -/

/-- Subroutines are known that print what their calls are said to print. -/
def Provides (R : Named Subroutine) (room : Nat) (known : List Definition)
    (calls : Phrase.Meaning) : Prop :=
  ∀ d ∈ known, ∃ body : Passage, R.get? d.name = some (d.subroutine body) ∧
    ∀ (A : List (Named Argument)) (values : List String), values.length = d.parameters.length →
      Prints R ((d.subroutine body).table (values.map .text) :: A) room body.tokens
        (calls d.name values)

theorem Definition.takesCode_subroutine (d : Definition) (body : Passage) (i : Nat) :
    (d.subroutine body).takesCode i = false := by
  simp only [Subroutine.takesCode, subroutine, List.getElem?_map, Option.map_map]
  cases d.parameters[i]? <;> rfl

theorem Definition.arity_subroutine (d : Definition) (body : Passage) :
    (d.subroutine body).arity = d.parameters.length := List.length_map _

namespace Phrase

variable {known : List Definition} {parameters : List String} {a : Phrase}

theorem IsSound.of_argument {parameter : String}
    (h : IsSound known parameters (.argument parameter :: a)) : parameter ∈ parameters := by
  cases h with
  | argument hparameter => exact hparameter

theorem IsSound.of_call {name : String} {arguments : List Phrase}
    (h : IsSound known parameters (.call name arguments :: a)) : ∃ d ∈ known, d.name = name ∧
      arguments.length = d.parameters.length ∧
      ∀ b ∈ arguments, IsSound known parameters b ∧ .char ';' ∉ b := by
  cases h with
  | call hd hcount harguments hseparators =>
    exact ⟨_, hd, rfl, hcount, fun b hb => ⟨harguments b hb, hseparators b hb⟩⟩

theorem one_le_sizeOf (a : Phrase) : 1 ≤ sizeOf a := by
  cases a with
  | nil => simp
  | cons =>
    rw [List.cons.sizeOf_spec]
    omega

theorem length_le_sizeOf (as : List Phrase) : as.length ≤ sizeOf as := by
  induction as with
  | nil => exact Nat.zero_le _
  | cons a as ih =>
    rw [List.length_cons, List.cons.sizeOf_spec]
    omega

theorem sizeOf_trim_add_length_le {arguments : List Phrase} {b : Phrase} (h : b ∈ arguments) :
    sizeOf b.trim + arguments.length ≤ sizeOf arguments := by
  have htrim := sizeOf_trim_le b
  induction arguments with
  | nil => cases h
  | cons first others ih =>
    rw [List.length_cons, List.cons.sizeOf_spec]
    rcases List.mem_cons.1 h with rfl | h
    · have hothers := length_le_sizeOf others
      omega
    · have hrest := ih h
      omega

theorem sizeOf_append_lt {text : String} (htext : text ≠ "") (a : Phrase) :
    sizeOf a < sizeOf (ofText text ++ a) := by
  obtain ⟨c, cs, hcs⟩ := List.exists_cons_of_ne_nil (mt String.toList_eq_nil_iff.1 htext)
  have hle : ∀ cs : List Char, sizeOf a ≤ sizeOf (cs.map Piece.char ++ a) := fun cs => by
    induction cs with
    | nil => exact Nat.le_refl _
    | cons c cs ih =>
      rw [List.map_cons, List.cons_append, List.cons.sizeOf_spec]
      exact Nat.le_trans ih (Nat.le_add_left _ _)
  rw [ofText, hcs, List.map_cons, List.cons_append, List.cons.sizeOf_spec]
  have := hle cs
  omega

end Phrase

/-- What is related to the members of a list is related to their images. -/
theorem forall₂_map_of_mem {α β γ : Type} {R : α → β → Prop} {S : α → γ → Prop} {f : β → γ}
    {xs : List α} {ys : List β} (h : List.Forall₂ R xs ys)
    (hS : ∀ x, ∀ y ∈ ys, R x y → S x (f y)) : List.Forall₂ S xs (ys.map f) := by
  induction h with
  | nil => exact .nil
  | cons hxy _ ih =>
    obtain ⟨hy, hys⟩ : _ ∧ _ := ⟨fun x => hS x _ List.mem_cons_self,
      fun x y hy => hS x y (List.mem_cons_of_mem _ hy)⟩
    exact .cons (hy _ hxy) (ih hys)

section

variable {R : Named Subroutine} {room : Nat} {known : List Definition} {calls : Phrase.Meaning}
  {parameters : List String} {A : List (Named Argument)} {passed : List (String × String)}

/-- Code of at most some size prints its value, if it makes sense. -/
def PrintsUpTo (R : Named Subroutine) (A : List (Named Argument)) (room : Nat)
    (known : List Definition) (parameters : List String) (calls : Phrase.Meaning)
    (passed : List (String × String)) (size : Nat) : Prop :=
  ∀ (a : Phrase) (tokens : List Token), sizeOf a < size → Writes [a] tokens →
    a.IsSound known parameters → Prints R A (room + sizeOf a) tokens (a.value calls passed)

/-- A call prints its value if the code in it does. -/
theorem Prints.call_of_writes (hprovides : Provides R room known calls) {arguments : List Phrase}
    {opener dollar name closer : Token} {a : Phrase} {k rest : List Token}
    (ih : PrintsUpTo R A room known parameters calls passed
      (sizeOf (Piece.call name.text arguments :: a)))
    (hsound : Phrase.IsSound known parameters (.call name.text arguments :: a))
    (hopener : opener.kind = .leftSquare) (hdollar : dollar.kind = .dollar)
    (hname : name.kind = .text) (hk : Listed arguments k) (hcloser : closer.kind = .rightSquare)
    (ha : Writes [a] rest) :
    Prints R A (room + sizeOf (Piece.call name.text arguments :: a))
      (opener :: dollar :: name :: (k ++ [closer]) ++ rest)
      (Phrase.value calls passed (.call name.text arguments :: a)) := by
  obtain ⟨d, hd, htext, hcount, harguments⟩ := hsound.of_call
  obtain ⟨body, hget, hbody⟩ := hprovides d hd
  have hsize : sizeOf arguments + sizeOf a < sizeOf (Piece.call name.text arguments :: a) := by
    simp only [List.cons.sizeOf_spec, Piece.call.sizeOf_spec]
    omega
  have hlength : arguments.length ≤ sizeOf arguments := Phrase.length_le_sizeOf arguments
  have hvalues : ∀ ps, List.Forall₂ Passage.Writes ps arguments → List.Forall₂
      (Passage.IsArgument R A (room + sizeOf arguments - arguments.length)) ps
      (arguments.map fun b => b.trim.value calls passed) := fun ps hps =>
    forall₂_map_of_mem hps fun p b hb hp => by
      have hle := Phrase.sizeOf_trim_add_length_le hb
      have hprints := ih _ _ (by omega) hp ((harguments b hb).1.subset b.trim_subset)
      exact ⟨hprints.mono (by omega), fun hplain => hp.text_eq_value hplain calls passed⟩
  have hbody := hbody A (arguments.map fun b => b.trim.value calls passed)
    ((List.length_map _).trans hcount)
  rw [htext] at hget hbody
  have hpiece : Prints R A (room + sizeOf (Piece.call name.text arguments :: a))
      (opener :: dollar :: name :: (k ++ [closer])) _ :=
    .call hopener hdollar hname hk (fun b hb => (harguments b hb).2) hcloser hget
      ((d.arity_subroutine body).trans hcount.symm) (d.takesCode_subroutine body) hvalues hbody
      (by omega) (by omega)
  have hrest := ih a rest (by omega) ha (hsound.subset (List.subset_cons_self _ _))
  rw [Phrase.value]
  exact hpiece.append (hrest.mono (by omega))

/-- Code prints its value. -/
theorem Writes.prints (hprovides : Provides R room known calls)
    (hparameters : ∀ p ∈ parameters, IsParameterName p) (hpassed : Passes parameters A passed)
    {a : Phrase} {tokens : List Token} (h : Writes [a] tokens) (hsound : a.IsSound known parameters) :
    Prints R A (room + sizeOf a) tokens (a.value calls passed) := by
  induction hn : sizeOf a using Nat.strongRecOn generalizing a tokens with
  | ind n ih =>
    subst hn
    replace ih : PrintsUpTo R A room known parameters calls passed (sizeOf a) :=
      fun b l hlt hb hsound => ih _ hlt hb hsound rfl
    generalize hrow : [a] = row at h
    cases h with
    | nil =>
      obtain ⟨rfl, -⟩ := List.cons.inj hrow
      rw [Phrase.value]
      exact .nil
    | @plain t b others rest ht h =>
      obtain ⟨rfl, rfl⟩ := List.cons.inj hrow
      have hlt := Phrase.sizeOf_append_lt ht.ne b
      have hrest := ih b rest hlt h (hsound.subset (List.subset_append_right _ _))
      rw [Phrase.value_ofText_append]
      exact (Prints.plain ht).append (hrest.mono (by omega))
    | @argument opener tag colon closer parameter b others inner rest hopener htag hname hcolon
        hinner hcloser h =>
      obtain ⟨rfl, rfl⟩ := List.cons.inj hrow
      have hparameter := hsound.of_argument
      obtain ⟨value, hlookup, hget⟩ := hpassed parameter hparameter
      have hsize : 1 ≤ sizeOf b ∧ sizeOf b < sizeOf (Piece.argument parameter :: b) := by
        have hpos := Phrase.one_le_sizeOf b
        simp only [List.cons.sizeOf_spec]
        omega
      have hpiece : Prints R A 1 (opener :: tag :: (colon :: inner ++ [closer])) value :=
        .argument hopener htag hname (.some hcolon hinner) hcloser (hparameters _ hparameter) hget
      have hrest := ih b rest hsize.2 h (hsound.subset (List.subset_cons_self _ _))
      rw [Phrase.value, hlookup, Option.getD_some]
      have hall := (hpiece.mono (by omega)).append (hrest.mono (Nat.add_le_add_left hsize.2.le room))
      simpa using hall
    | callBare hopener hdollar hname hcloser h =>
      obtain ⟨rfl, rfl⟩ := List.cons.inj hrow
      exact .call_of_writes hprovides ih hsound hopener hdollar hname .none hcloser h
    | call hopener hdollar hname hcolon hinner hcloser h =>
      obtain ⟨rfl, rfl⟩ := List.cons.inj hrow
      have hall := Prints.call_of_writes hprovides ih hsound hopener hdollar hname
        (.some hcolon hinner) hcloser h
      simpa using hall
    | separator ht h => exact absurd (List.cons.inj hrow).2.symm h.ne_nil

end

/-! ## Definitions -/

/-- The surroundings with other subroutines known. -/
def Surroundings.knowing (c : Surroundings) (R : Named Subroutine) : Surroundings :=
  { c with registers := { c.registers with subroutines := R } }

namespace Machine

variable {s : Setting} {m : Machine s} {c : Surroundings} {text : String}
  {tokens rest : List Token}

theorem At.define (h : m.At c text tokens) (made : Subroutine) : (m.define made).At
    (c.knowing (c.registers.subroutines.insert made.name made)) text tokens :=
  h.change fun _ _ => rfl

/-- A definition makes its subroutine known. -/
theorem At.step_definition {d : Definition} (h : m.At c text (tokens ++ rest))
    (hpre : c.frame.pre = []) (hd : d.Writes tokens) (hnames : ∀ p ∈ d.parameters, IsParameterName p) :
    ∃ (body : Passage) (m' : Machine s), body.Writes d.body ∧ m.step = .ok m' ∧
      m'.At (c.knowing (c.registers.subroutines.insert d.name (d.subroutine body))) text rest := by
  cases hd with
  | @mk opener dollar opener' name closer' colon closer header inner hopener hdollar hopener' hname
      htext hheader hcloser' hcolon hinner hcloser =>
    have htokens : [opener, dollar, opener', name] ++ header ++ [closer', colon] ++ inner ++
        [closer] ++ rest = opener :: (dollar :: opener' :: name :: (header ++ [closer'] ++
          colon :: (inner ++ [closer])) ++ rest) := by
      simp
    rw [htokens] at h
    obtain ⟨m₁, b, hm₁, ⟨body, rfl, hbody⟩, hstep⟩ := h.step_bracket hpre hopener
      (Bracket.reads_definition hdollar hopener' hname hheader hnames hcloser' hcolon hinner hcloser)
    rw [htext] at hstep
    exact ⟨body, _, hbody, hstep, hm₁.define (d.subroutine body)⟩

/-- Definitions make their subroutines known, one after the other. -/
theorem At.leads_definitions {ds : List Definition} {lines : List (List Token)}
    (hlines : List.Forall₂ Definition.Writes ds lines) (hdistinct : (ds.map (·.name)).Nodup)
    (hnames : ∀ d ∈ ds, ∀ p ∈ d.parameters, IsParameterName p) (hpre : c.frame.pre = [])
    (h : m.At c text (lines.flatten ++ rest)) :
    ∃ n m' R, Leads n m m' ∧ m'.At (c.knowing R) text rest ∧
      (∀ d ∈ ds, ∃ body : Passage, body.Writes d.body ∧ R.get? d.name = some (d.subroutine body)) ∧
      ∀ name ∉ ds.map (·.name), R.get? name = c.registers.subroutines.get? name := by
  induction hlines generalizing m c with
  | nil => exact ⟨0, m, c.registers.subroutines, .refl m, h, by simp, by simp⟩
  | @cons d line ds lines hd _ ih =>
    obtain ⟨hname, hdistinct⟩ := List.nodup_cons.1 hdistinct
    obtain ⟨hparameters, hnames⟩ := List.forall_mem_cons.1 hnames
    rw [List.flatten_cons, List.append_assoc] at h
    obtain ⟨body, m₁, hbody, hstep, hm₁⟩ := h.step_definition hpre hd hparameters
    have hpre' : (c.knowing (c.registers.subroutines.insert d.name (d.subroutine body))).frame.pre =
      [] := hpre
    obtain ⟨n, m', R, hlead, hm', hknown, hothers⟩ := ih (c := c.knowing _) hdistinct hnames hpre' hm₁
    refine ⟨n + 1, m', R, .step h.frames_ne_nil hstep hlead, hm', List.forall_mem_cons.2
      ⟨⟨body, hbody, ?_⟩, hknown⟩, fun other hother => ?_⟩
    · rw [hothers d.name hname]
      exact Named.get?_insert_self ..
    · obtain ⟨hne, hother⟩ := not_or.1 (mt List.mem_cons.2 hother)
      rw [hothers other hother]
      exact (Named.get?_insert ..).trans (if_neg (Ne.symm hne))

end Machine

/-- The frames that calls take at most. -/
noncomputable def Definition.room (ds : List Definition) : Nat :=
  total (ds.map fun d => sizeOf d.body.trim)

/-- Once they are defined, subroutines print what substitution gives. -/
theorem Definition.provides {R : Named Subroutine} (ds : List Definition)
    (hknown : ∀ d ∈ ds, ∃ body : Passage, body.Writes d.body ∧
      R.get? d.name = some (d.subroutine body))
    (hsound : ∀ known d others, ds = known ++ d :: others → d.IsSound known) :
    Provides R (room ds) ds (meaning ds) := by
  induction ds using List.reverseRecOn with
  | nil => exact fun d hd => by cases hd
  | append_singleton ds d ih =>
    have hd : d.IsSound ds := hsound ds d [] rfl
    have hbefore : Provides R (room ds) ds (meaning ds) :=
      ih (fun d hd => hknown d (List.mem_append_left _ hd)) fun known d' others hsplit =>
        hsound known d' (others ++ [d]) (by rw [hsplit]; simp)
    have hmeaning : meaning (ds ++ [d]) = d.extend (meaning ds) := by simp [meaning]
    have hroom : room (ds ++ [d]) = room ds + sizeOf d.body.trim := by simp [room]
    rw [hmeaning, hroom]
    refine List.forall_mem_append.2 ⟨fun d' hd' => ?_, List.forall_mem_singleton.2 ?_⟩
    · obtain ⟨body, hget, hprints⟩ := hbefore d' hd'
      refine ⟨body, hget, fun A values hlength => ?_⟩
      rw [extend, if_neg (hd.fresh d' hd')]
      exact (hprints A values hlength).mono (Nat.le_add_right _ _)
    · obtain ⟨body, hbody, hget⟩ := hknown d (by simp)
      refine ⟨body, hget, fun A values hlength => ?_⟩
      rw [extend, if_pos rfl]
      exact Writes.prints hbefore hd.parameters (passes_table hd.distinct body hlength A) hbody
        (hd.body.subset d.body.trim_subset)

/-! ## Programs -/

namespace Program

variable {P : Program}

theorem IsSound.nodup (h : P.IsSound) : (P.definitions.map (·.name)).Nodup := by
  have hall : ∀ ds : List Definition,
      (∀ known d others, ds = known ++ d :: others → d.IsSound known) →
      (ds.map (·.name)).Nodup := fun ds hds => by
    induction ds using List.reverseRecOn with
    | nil => simp
    | append_singleton ds d ih =>
      have hd : d.IsSound ds := hds ds d [] rfl
      rw [List.map_append, List.nodup_append]
      refine ⟨ih fun known d' others hsplit => hds known d' (others ++ [d]) (by rw [hsplit]; simp),
        by simp, fun name hname other hother => ?_⟩
      obtain ⟨d', hd', rfl⟩ := List.mem_map.1 hname
      obtain rfl : other = d.name := by simpa using hother
      exact hd.fresh d' hd'
  exact hall P.definitions h.definitions

/-- A program that makes sense prints what substitution gives, with room for enough frames. -/
theorem run_eq_value (h : P.IsSound) : ∃ depth, ∀ (e : Engine) (name : String) (g : Generator),
    depth ≤ e.config.maxDepth → e.config.charLimit = none →
      (e.runSource name P.source g).1 = .ok ⟨[(ChannelStack.mainName, P.value)]⟩ := by
  refine ⟨1 + (Definition.room P.definitions + sizeOf P.main.trim), fun e name g hdepth hlimit => ?_⟩
  obtain ⟨tokens, htokens, hwrites⟩ := h.tokenize_source
  obtain ⟨p, hp, hcode⟩ := Pattern.exists_compile htokens name
  obtain ⟨m₀, hreach, hm₀⟩ := Engine.exists_reaches_at (by omega) hlimit p g
  rw [hcode] at hm₀
  cases hwrites with
  | @mk lines last hlines hlast =>
    have hnames : ∀ d ∈ P.definitions, ∀ p ∈ d.parameters, IsParameterName p := fun d hd => by
      obtain ⟨known, others, hsplit⟩ := List.append_of_mem hd
      exact (h.definitions known d others hsplit).parameters
    obtain ⟨n, m₁, R, hlead, hm₁, hknown, -⟩ :=
      hm₀.leads_definitions hlines h.nodup hnames rfl
    have hnone : Passes [] [] [] := fun p hp => by cases hp
    have hprints := hlast.prints (Definition.provides P.definitions hknown h.definitions)
      (List.forall_mem_nil _) hnone (h.main.subset P.main.trim_subset)
    rw [← List.append_nil last] at hm₁
    obtain ⟨k, m₂, hlead', hm₂⟩ := hprints.leads m₁ ((Engine.around p _).knowing R) "" [] rfl rfl rfl
      hdepth hm₁
    rw [String.empty_append] at hm₂
    rw [Engine.runSource_of_ok hp]
    exact Engine.run_of_reaches_at ((hreach.lead hlead).lead hlead') hm₂

/-- A program with calls in a body and in an argument. -/
def nested : Program :=
  let twice : Definition := ⟨"twice", ["a"], [.argument "a", .argument "a"]⟩
  let pair : Definition := ⟨"pair", ["x", "y"],
    [.argument "x", .char '-', .call "twice" [[.argument "y"]]]⟩
  ⟨[twice, pair], [.call "pair" [[.call "twice" [Phrase.ofText "b"]], Phrase.ofText " c "]]⟩

theorem source_nested : nested.source =
    "[$[twice:a]:[arg:a][arg:a]]\n[$[pair:x;y]:[arg:x]-[$twice:[arg:y]]]\n[$pair:[$twice:b]; c ]" := by
  simp [source, nested, Definition.source, Phrase.source, Phrase.listed, Phrase.ofText,
    List.intercalate]

theorem value_nested : nested.value = "bb-cc" := by
  simp [value, nested, Definition.meaning, Definition.extend, Phrase.value, Phrase.trim,
    Phrase.ofText, Piece.isBlank, Text.isBlank]
  decide

theorem isSound_nested : nested.IsSound where
  definitions := by
    intro known d others hsplit
    obtain _ | ⟨d₁, _ | ⟨d₂, known⟩⟩ := known
    · obtain ⟨rfl, -⟩ := List.cons.inj hsplit
      refine ⟨⟨by decide, by decide⟩, by simp, List.forall_mem_singleton.2 ?_, by decide, ?_, by simp⟩
      · exact ⟨by decide, by decide, by decide, by decide⟩
      · exact .argument (by decide) (.argument (by decide) .nil)
    · obtain ⟨rfl, hrest⟩ := List.cons.inj hsplit
      obtain ⟨rfl, -⟩ := List.cons.inj hrest
      refine ⟨⟨by decide, by decide⟩, by simp, List.forall_mem_cons.2 ⟨?_,
        List.forall_mem_singleton.2 ?_⟩, by decide, .argument (by decide) (.char (by decide) ?_),
        by simp⟩
      · exact ⟨by decide, by decide, by decide, by decide⟩
      · exact ⟨by decide, by decide, by decide, by decide⟩
      · exact .call List.mem_cons_self rfl (List.forall_mem_singleton.2 (.argument (by decide) .nil))
          (by simp) (by simp) .nil
    · have hlength := congrArg List.length hsplit
      simp [nested] at hlength
  main := by
    have htext : ∀ text : String, (∀ c ∈ text.toList, IsUnmarked c) →
        Phrase.IsSound nested.definitions [] (.ofText text) := fun _ => .ofText
    refine .call (d := nested.definitions[1]) (by simp) rfl (List.forall_mem_cons.2 ⟨?_,
      List.forall_mem_singleton.2 (htext _ (by decide))⟩) (by simp [Phrase.ofText]) (by simp) .nil
    exact .call (d := nested.definitions[0]) (by simp) rfl
      (List.forall_mem_singleton.2 (htext _ (by decide))) (by simp [Phrase.ofText])
      (by simp [Phrase.ofText]) .nil

theorem run_eq_value_nested : nested.IsSound ∧ ∃ depth, ∀ (e : Engine) (name : String)
    (g : Generator), depth ≤ e.config.maxDepth → e.config.charLimit = none →
      (e.runSource name
        "[$[twice:a]:[arg:a][arg:a]]\n[$[pair:x;y]:[arg:x]-[$twice:[arg:y]]]\n[$pair:[$twice:b]; c ]"
        g).1 = .ok ⟨[("main", "bb-cc")]⟩ := by
  refine ⟨isSound_nested, ?_⟩
  have h := run_eq_value isSound_nested
  rwa [source_nested, value_nested] at h

end Program

end Wordsmith
