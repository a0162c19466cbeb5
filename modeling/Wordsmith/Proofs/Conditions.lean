import Wordsmith.Proofs.Steadiness

/-!
# Conditions and their alternatives

A condition runs its code if it holds, and an alternative right behind it runs its own if the last
condition failed. There is one last verdict for the whole run, and whatever runs between a condition
and its alternative may give another. So a condition that fails leaves it to the alternative, and of
a condition that holds the alternative only runs if the code gave a last verdict of its own and that
was a failure.

Main results: `Machine.Verdict.elseArmed`, the verdict that is remembered is the last one given, and
`Machine.condition_then_alternative`, with `Engine.condition_and_alternative` where both are run.
-/

namespace Wordsmith

/-! ## Verdicts -/

/-- Whether a condition holds, if the tag is one and its condition is known. -/
def Call.holds? (c : Call) (q : Registers) : Tag → Option Bool
  | .ifDefined => some (q.hasFlag (c.text 0))
  | .unlessDefined => some !(q.hasFlag (c.text 0))
  | .ifCompared =>
    match q.comparisons.head? with
    | none => none
    | some comparison =>
      if c.conditions.all fun x => (comparison.holds? x).isSome then
        some (c.conditions.any fun x => comparison.holds? x == some true)
      else none
  | _ => none

namespace Tag

/-- The tag runs its code if something holds. -/
def IsCondition : Tag → Prop
  | ifDefined | unlessDefined | ifCompared => True
  | _ => False

end Tag

namespace Call

variable {c : Call} {q : Registers} {o : ChannelStack} {comparison : Comparison}

/-- One more condition is checked. -/
def check (c : Call) (comparison : Comparison) (found : Bool) (condition : String) : Act Bool :=
  match comparison.holds? condition with
  | some holds => return found || holds
  | none => c.complain (.unknownCondition condition)

theorem check_of_some {condition : String} {holds : Bool}
    (h : comparison.holds? condition = some holds) (c : Call) (found : Bool) :
    c.check comparison found condition = return found || holds := by
  rw [check, h]

theorem foldlM_check_of_known (c : Call) {conditions : List String}
    (h : ∀ x ∈ conditions, (comparison.holds? x).isSome) (found : Bool) (scene : Scene) :
    (conditions.foldlM (c.check comparison) found).run scene =
      .ok (found || conditions.any fun x => comparison.holds? x == some true, scene) := by
  induction conditions generalizing found with
  | nil =>
    rw [List.any_nil, Bool.or_false]
    rfl
  | cons condition conditions ih =>
    obtain ⟨hknown, hothers⟩ := List.forall_mem_cons.1 h
    obtain ⟨holds, hholds⟩ := Option.isSome_iff_exists.1 hknown
    have hsame : (some holds == some true) = holds := by cases holds <;> rfl
    rw [List.foldlM_cons, check_of_some hholds, pure_bind, ih hothers, List.any_cons, hholds, hsame,
      Bool.or_assoc]

theorem foldlM_check_of_unknown (c : Call) {conditions : List String}
    (h : ∃ x ∈ conditions, comparison.holds? x = none) (found : Bool) (scene : Scene) :
    ∃ e, (conditions.foldlM (c.check comparison) found).run scene = .error e := by
  induction conditions generalizing found with
  | nil => simp at h
  | cons condition conditions ih =>
    cases hholds : comparison.holds? condition with
    | none =>
      refine ⟨.invalidArgument c.name (.unknownCondition condition), ?_⟩
      have hcheck : c.check comparison found condition =
          c.complain (.unknownCondition condition) := by rw [check, hholds]
      rw [List.foldlM_cons, hcheck]
      rfl
    | some holds =>
      have hothers : ∃ x ∈ conditions, comparison.holds? x = none := by
        obtain ⟨x, hx, hnone⟩ := h
        rcases List.mem_cons.1 hx with rfl | hx
        · cases hholds.symm.trans hnone
        · exact ⟨x, hx, hnone⟩
      rw [List.foldlM_cons, check_of_some hholds, pure_bind]
      exact ih hothers _

/-- The conditions are checked against the innermost comparison. -/
theorem anyHolds_of_comparison (h : q.comparisons.head? = some comparison) :
    c.anyHolds.run ⟨q, o⟩ = (c.conditions.foldlM (c.check comparison) false).run ⟨q, o⟩ := by
  have hread : c.anyHolds.run ⟨q, o⟩ = StateT.run (match q.comparisons.head? with
    | none => c.complain .noComparison
    | some comparison => c.conditions.foldlM (c.check comparison) false : Act Bool) ⟨q, o⟩ := rfl
  rw [hread, h]

theorem anyHolds_of_none (h : q.comparisons.head? = none) :
    c.anyHolds.run ⟨q, o⟩ = .error (.invalidArgument c.name .noComparison) := by
  have hread : c.anyHolds.run ⟨q, o⟩ = StateT.run (match q.comparisons.head? with
    | none => c.complain .noComparison
    | some comparison => c.conditions.foldlM (c.check comparison) false : Act Bool) ⟨q, o⟩ := rfl
  rw [hread, h]
  rfl

end Call

namespace Tag

variable {c : Call} {q : Registers} {o : ChannelStack} {tag : Tag} {b : Bool} {s : Setting}
  {source : String}

theorem run_branchOn (c : Call) (holds : Bool) (q : Registers) (o : ChannelStack) :
    (c.branchOn holds).run ⟨q, o⟩ =
      .ok (if holds then c.run 1 else .stay, ⟨{ q with elseArmed := !holds }, o⟩) := rfl

/-- A condition remembers its verdict, and runs its code if it holds. -/
theorem perform_of_holds (h : c.holds? q tag = some b) :
    (tag.perform s source c).run ⟨q, o⟩ =
      .ok (if b then c.run 1 else .stay, ⟨{ q with elseArmed := !b }, o⟩) := by
  unfold Call.holds? at h
  split at h
  · rw [perform, Act.run_read_bind, ← Option.some.inj h]
    exact run_branchOn c _ q o
  · rw [perform, Act.run_read_bind, ← Option.some.inj h]
    exact run_branchOn c _ q o
  · split at h
    · simp at h
    · next comparison hq =>
      split at h
      · next hall =>
        have hknown := Call.foldlM_check_of_known c (List.all_eq_true.1 hall) false ⟨q, o⟩
        rw [← Call.anyHolds_of_comparison hq, Bool.false_or, Option.some.inj h] at hknown
        rw [perform, StateT.run_bind, hknown]
        exact run_branchOn c b q o
      · simp at h
  · simp at h

/-- A condition without a verdict fails. -/
theorem perform_of_not_holds (htag : tag.IsCondition) (h : c.holds? q tag = none) :
    ∃ e, (tag.perform s source c).run ⟨q, o⟩ = .error e := by
  unfold Call.holds? at h
  split at h
  · simp at h
  · simp at h
  · split at h
    · next hq =>
      refine ⟨.invalidArgument c.name .noComparison, ?_⟩
      rw [perform, StateT.run_bind, Call.anyHolds_of_none hq]
      rfl
    · next comparison hq =>
      split at h
      · simp at h
      · next hall =>
        have hsome : ∃ x ∈ c.conditions, comparison.holds? x = none := by simpa using hall
        obtain ⟨e, he⟩ := Call.foldlM_check_of_unknown c hsome false ⟨q, o⟩
        rw [← Call.anyHolds_of_comparison hq] at he
        refine ⟨e, ?_⟩
        rw [perform, StateT.run_bind, he]
        rfl
  · next hdefined hundefined hcompared =>
    cases tag with
    | ifDefined => exact absurd rfl hdefined
    | unlessDefined => exact absurd rfl hundefined
    | ifCompared => exact absurd rfl hcompared
    | _ => exact htag.elim

end Tag

namespace Registers

theorem elseArmed_undo (r : Registers) (action : Deferred) :
    (r.undo action).elseArmed = r.elseArmed := by
  cases action with
  | finish q => cases q <;> rfl
  | _ => rfl

end Registers

namespace Machine

variable {s : Setting} {m m₁ m' : Machine s} {tag : Tag} {name : Token} {slots : List Slot}
  {b : Bool}

theorem elseArmed_giveUp (r : Registers) (frames : List Frame) :
    (giveUp r frames).elseArmed = r.elseArmed := by
  unfold giveUp
  generalize frames.flatMap (fun f => f.pre ++ f.post) = actions
  induction actions generalizing r with
  | nil => rfl
  | cons action actions ih => exact (ih _).trans (r.elseArmed_undo action)

theorem elseArmed_leave (m : Machine s) : m.leave.registers.elseArmed = m.registers.elseArmed := by
  have hleaves := m.leave_stage
  show m.leave.stage.registers.elseArmed = m.stage.registers.elseArmed
  generalize m.leave.stage = y at hleaves
  cases hleaves with
  | idle => rfl
  | lost => rfl
  | cut => exact elseArmed_giveUp _ _

/-! ## Calls of conditions -/

/-- A condition remembers its verdict, and its code is run if it holds. -/
theorem take_condition (h : (m.call name slots).holds? m.registers tag = some b) :
    m.take (.callTag tag name slots) =
      (m.afterCall name slots ⟨{ m.registers with elseArmed := !b }, m.output⟩).follow
        (if b then (m.call name slots).run 1 else .stay) := by
  rw [take_callTag, Tag.perform_of_holds h]

/-- A condition without a verdict fails. -/
theorem take_condition_error (htag : tag.IsCondition)
    (h : (m.call name slots).holds? m.registers tag = none) :
    ∃ e, m.take (.callTag tag name slots) = .error e := by
  obtain ⟨e, he⟩ := Tag.perform_of_not_holds (s := s) (o := m.output) htag h
  exact ⟨(m.moveTo name.position).fault e, by rw [take_callTag, he]⟩

/-- An alternative is run if the last condition failed, and no other follows. -/
theorem take_alternative (m : Machine s) (name : Token) (slots : List Slot) :
    m.take (.callTag .otherwise name slots) =
      (m.afterCall name slots ⟨{ m.registers with elseArmed := false }, m.output⟩).follow
        (if m.registers.elseArmed then (m.call name slots).run 0 else .stay) := by
  rw [take_callTag, Tag.perform, Act.run_read_bind]
  cases harmed : m.registers.elseArmed with
  | true => rfl
  | false =>
    have hsame : m.registers = { m.registers with elseArmed := false } := by rw [← harmed]
    rw [← hsame]
    rfl

/-! ## Verdicts along a run -/

/-- The next step gives a verdict: it calls a condition, or an alternative, which counts as one that
holds because no other may follow it. -/
inductive Judges (m : Machine s) : Bool → Prop
  | condition {tag : Tag} {name : Token} {slots : List Slot} {m₁ : Machine s} {b : Bool}
      (h : m.Takes (.callTag tag name slots) m₁)
      (hholds : (m₁.call name slots).holds? m.registers tag = some b) : Judges m b
  | alternative {name : Token} {slots : List Slot} {m₁ : Machine s}
      (h : m.Takes (.callTag .otherwise name slots) m₁) : Judges m true

/-- What is remembered is the verdict that was given. -/
theorem Judges.elseArmed (h : m.Judges b) (hstep : m.step = .ok m') :
    m'.registers.elseArmed = !b := by
  have hfollow : ∀ (n : Machine s) (c : Call) (i : Nat) (runs : Bool),
      n.follow (if runs then c.run i else .stay) = .ok m' →
        m'.registers.elseArmed = n.registers.elseArmed := fun n c i runs hn =>
    ((n.steady_follow (c.isSteady_ite_run i _)).of_ok m' hn).registers.elseArmed
  cases h with
  | condition h hholds =>
    rw [← h.registers] at hholds
    rw [h.step, take_condition hholds] at hstep
    exact hfollow _ _ _ _ hstep
  | alternative h =>
    rw [h.step, take_alternative] at hstep
    exact hfollow _ _ _ _ hstep

/-- A call that does nothing but change the branches leaves the last verdict alone. -/
theorem elseArmed_afterCall (m : Machine s) (name : Token) (slots : List Slot) (r : Registers)
    (g : Generator) (o : ChannelStack) :
    (m.afterCall name slots ⟨{ r with generator := g }, o⟩).registers.elseArmed = r.elseArmed := rfl

theorem elseArmed_runThen (m : Machine s) (c : Call) (i : Nat) (q : Sequel) :
    Ensures (m.follow (c.runThen i q)) fun m' =>
      m'.registers.elseArmed = m.registers.elseArmed :=
  ((m.defer (.finish q)).steady_pushAny _ [] [] rfl).weaken fun _ h => h.registers.elseArmed

/-- A tag that branches or merges leaves the last verdict alone, and so does one that leaves a
block. -/
theorem elseArmed_take {action : Deferred} (hsteady : ¬action.IsSteady)
    (haction : ∀ tag name slots, action = .callTag tag name slots →
      ¬tag.IsCondition ∧ tag ≠ .otherwise) :
    Ensures (m.take action) fun m' => m'.registers.elseArmed = m.registers.elseArmed := by
  cases action with
  | finish q =>
    cases q with
    | merge => exact .pure rfl
    | _ => exact absurd trivial hsteady
  | callTag tag name slots =>
    obtain ⟨hcondition, halternative⟩ := haction tag name slots rfl
    cases tag with
    | ifDefined | unlessDefined | ifCompared => exact absurd trivial hcondition
    | otherwise => exact absurd rfl halternative
    | branch =>
      rw [take_branch]
      exact .ok (elseArmed_afterCall ..)
    | branchFor =>
      rw [take_branchFor]
      exact (elseArmed_runThen ..).weaken fun _ h => h.trans (elseArmed_afterCall ..)
    | merge =>
      rw [take_merge]
      exact .ok rfl
    | leave =>
      rw [take_leave]
      exact .ok (elseArmed_leave _)
    | _ => exact absurd trivial hsteady
  | _ => exact absurd trivial hsteady

/-- A step that gives no verdict leaves the last one as it is. -/
theorem elseArmed_of_quiet (hquiet : ∀ b, ¬m.Judges b) (hstep : m.step = .ok m') :
    m'.registers.elseArmed = m.registers.elseArmed := by
  rcases m.step_steady.of_ok m' hstep with hsteady | ⟨action, m₁, h, haction⟩
  · exact hsteady.registers.elseArmed
  · rw [h.step] at hstep
    rw [← h.registers]
    refine (elseArmed_take haction ?_).of_ok m' hstep
    rintro tag name slots rfl
    refine ⟨fun htag => ?_, ?_⟩
    · cases hholds : (m₁.call name slots).holds? m.registers tag with
      | some b => exact hquiet b (.condition h hholds)
      | none =>
        rw [← h.registers] at hholds
        obtain ⟨e, he⟩ := take_condition_error htag hholds
        cases he.symm.trans hstep
    · rintro rfl
      exact hquiet true (.alternative h)

/-- The run goes from one machine to another, and the last verdict on the way is given, if there is
one. -/
inductive Verdict (m : Machine s) : Option Bool → Machine s → Prop
  | start : Verdict m none m
  | quiet {v : Option Bool} {n n' : Machine s} (h : Verdict m v n) (hstep : n.step = .ok n')
      (hquiet : ∀ b, ¬n.Judges b) : Verdict m v n'
  | judged {v : Option Bool} {b : Bool} {n n' : Machine s} (h : Verdict m v n)
      (hstep : n.step = .ok n') (hjudges : n.Judges b) : Verdict m (some b) n'

/-- An alternative may follow if the last verdict is a failure, or if it might before. -/
theorem Verdict.elseArmed {v : Option Bool} (h : m.Verdict v m') :
    m'.registers.elseArmed = v.elim m.registers.elseArmed (!·) := by
  induction h with
  | start => rfl
  | quiet _ hstep hquiet ih => rw [elseArmed_of_quiet hquiet hstep, ih]
  | judged _ hstep hjudges _ => exact hjudges.elseArmed hstep

theorem Verdict.trans_leads {v : Option Bool} {n n' : Machine s} (h : m.Verdict v n) {k : Nat}
    (hlead : Leads k n n') : ∃ v', m.Verdict v' n' := by
  induction hlead generalizing v with
  | refl => exact ⟨v, h⟩
  | @step _ n n₁ n' _ hstep _ ih =>
    by_cases hjudges : ∃ b, n.Judges b
    · obtain ⟨b, hb⟩ := hjudges
      exact ih (h.judged hstep hb)
    · exact ih (h.quiet hstep fun b hb => hjudges ⟨b, hb⟩)

/-! ## A condition and its alternative -/

section Alternative

variable {f : Frame} {below : List Frame} {r : Reader} {x : Slot} {code alternative : Passage}
  {other : Token}

/-- A condition runs its code just if it holds. -/
theorem runsIf_condition (htakes : m.Takes (.callTag tag name [x, .code code]) m₁)
    (hholds : (m₁.call name [x, .code code]).holds? m.registers tag = some b) :
    m.RunsIf m₁.frames code (b = true) := by
  have hrun : (m₁.call name [x, .code code]).run 1 = .run code := by cases x <;> rfl
  have hstep := htakes.step
  rw [← htakes.registers] at hholds
  rw [take_condition hholds, hrun] at hstep
  refine ⟨m₁.afterCall name [x, .code code]
    ⟨{ m₁.registers with elseArmed := !b }, m₁.output⟩, rfl, ?_⟩
  rw [hstep]
  cases b <;> rfl

/-- An alternative that is about to be read runs its code just if it may follow. -/
theorem runsIf_alternative (hframes : m.frames = f :: below)
    (hfaces : f.Faces other [alternative] r) (hother : Text.asciiLower other.text = "else") :
    m.RunsIf ({ f with reader := r } :: below) alternative (m.registers.elseArmed = true) := by
  have hspelled : Text.asciiLower "else" = "else" := by decide +kernel
  have hfind : TagEntry.find? other.text = some ⟨"else", [⟨.otherwise, [.code], false⟩]⟩ :=
    (TagEntry.find?_congr (hother.trans hspelled.symm)).trans (by decide +kernel)
  let m₁ := (m.withReader r).moveTo other.position
  have htakes : m.Takes (.callTag .otherwise other [.code alternative]) m₁ :=
    .tag hframes hfaces hfind rfl (by cases s.shortcuts.literals <;> rfl)
  have hstep := htakes.step
  rw [take_alternative, htakes.registers] at hstep
  refine ⟨m₁.afterCall other [.code alternative]
    ⟨{ m.registers with elseArmed := false }, m₁.output⟩, frames_withReader hframes r, ?_⟩
  rw [hstep]
  cases m.registers.elseArmed <;> rfl

/-- A condition that fails does not run its code, and the alternative right behind it runs its own.
A condition that holds runs its code; once that is over, the alternative runs its own just if the
last verdict that was given meanwhile is a failure. -/
theorem condition_then_alternative (htakes : m.Takes (.callTag tag name [x, .code code]) m₁)
    (hholds : (m₁.call name [x, .code code]).holds? m.registers tag = some b)
    (hframes : m₁.frames = f :: below) (hfaces : f.Faces other [alternative] r)
    (hother : Text.asciiLower other.text = "else") :
    (b = false → ∃ m₂, m.step = .ok m₂ ∧ m₂.frames = f :: below ∧
      m₂.RunsIf ({ f with reader := r } :: below) alternative True) ∧
    (b = true → ∃ m₂ : Machine s, m₂.frames = f :: below ∧ m.step = m₂.run code ∧
      ∀ m₃ n m₄, m.step = .ok m₃ → Leads n m₃ m₄ → m₄.frames = f :: below →
        ∃ v, m₃.Verdict v m₄ ∧
          m₄.RunsIf ({ f with reader := r } :: below) alternative (v = some false)) := by
  obtain ⟨m₂, hframes₂, hstep⟩ := runsIf_condition htakes hholds
  rw [hframes] at hframes₂
  have harmed : ∀ m₃, m.step = .ok m₃ → m₃.registers.elseArmed = !b := fun m₃ hm₃ =>
    (Judges.condition htakes hholds).elseArmed hm₃
  -- What decides is whether an alternative may follow once the alternative is read.
  have hdecides : ∀ (m₄ : Machine s) (c : Prop) [Decidable c], m₄.frames = f :: below →
      (m₄.registers.elseArmed = true ↔ c) →
        m₄.RunsIf ({ f with reader := r } :: below) alternative c := by
    intro m₄ c _ hframes₄ hc
    obtain ⟨m₅, hframes₅, hstep₅⟩ := runsIf_alternative hframes₄ hfaces hother
    exact ⟨m₅, hframes₅, hstep₅.trans (if_congr hc rfl rfl)⟩
  constructor
  · rintro rfl
    exact ⟨m₂, hstep, hframes₂, hdecides m₂ True hframes₂ (by simp [harmed m₂ hstep])⟩
  · rintro rfl
    refine ⟨m₂, hframes₂, hstep, fun m₃ n m₄ hm₃ hlead hframes₄ => ?_⟩
    obtain ⟨v, hv⟩ := Verdict.start.trans_leads hlead
    refine ⟨v, hv, hdecides m₄ _ hframes₄ ?_⟩
    rw [hv.elseArmed, harmed m₃ hm₃]
    rcases v with _ | _ | _ <;> simp

end Alternative

end Machine

namespace Engine

open Machine

/-- A condition that holds, of which nothing but the code and the alternative behind it are left to
be run. -/
theorem condition_then_alternative_holding : ∃ (p : Pattern)
    (m m₁ : Machine (build .standard .empty .empty).setting) (f : Frame) (below : List Frame)
    (name other : Token) (x : Slot) (code alternative : Passage) (r : Reader),
    (build .standard .empty .empty).Reaches p (.ofSeed 42) m ∧
      m.Takes (.callTag .ifDefined name [x, .code code]) m₁ ∧
      (m₁.call name [x, .code code]).holds? m.registers .ifDefined = some true ∧
      m₁.frames = f :: below ∧ f.Faces other [alternative] r ∧
      Text.asciiLower other.text = "else" ∧
        ∃ m₂ : Machine _, m₂.frames = f :: below ∧ m.step = m₂.run code ∧
          ∀ m₃ n m₄, m.step = .ok m₃ → Leads n m₃ m₄ → m₄.frames = f :: below →
            ∃ v, m₃.Verdict v m₄ ∧
              m₄.RunsIf ({ f with reader := r } :: below) alternative (v = some false) := by
  have hseen : (Pattern.compile "held" "[define:f][ifdef:{f};A][else:B]").toOption.bind (fun p =>
      (((build .standard .empty .empty).start p (.ofSeed 42)).bind
        (Machine.after 9)).toOption.bind fun m => m.due?.bind fun (tag, name, x, code, f, _) =>
          f.facing?.map fun (other, arguments, _) => (tag, Text.asciiLower other.text,
            arguments.length, ((m.modifyTop fun f => { f with pre := [] }).call name
              [x, .code code]).holds? m.registers tag)) =
      some (.ifDefined, "else", 1, some true) := by decide +kernel
  obtain ⟨p, -, hrun⟩ := Option.bind_eq_some_iff.1 hseen
  obtain ⟨m, hafter, hm⟩ := Option.bind_eq_some_iff.1 hrun
  obtain ⟨⟨tag, name, x, code, f, below⟩, hdue, hm⟩ := Option.bind_eq_some_iff.1 hm
  obtain ⟨⟨other, arguments, r⟩, hfacing, heq⟩ := Option.map_eq_some_iff.1 hm
  obtain ⟨rfl, heq⟩ := Prod.mk.inj heq
  obtain ⟨hother, heq⟩ := Prod.mk.inj heq
  obtain ⟨hone, hholds⟩ := Prod.mk.inj heq
  obtain ⟨alternative, rfl⟩ := List.length_eq_one_iff.1 hone
  obtain ⟨m', hreach, rfl⟩ := exists_reaches_of_after (f := id) (a := m) (by rw [hafter]; rfl)
  obtain ⟨htakes, hframes⟩ := takes_of_due? hdue
  have hfaces := Frame.faces_of_facing? hfacing
  exact ⟨p, m', _, f, below, name, other, x, code, alternative, r, hreach, htakes, hholds, hframes,
    hfaces, hother, (condition_then_alternative htakes hholds hframes hfaces hother).2 rfl⟩

/-- The code of a condition that holds ends with another that fails, and the alternative is run as
well. -/
theorem condition_and_alternative :
    ((build .standard .empty .empty).runSource "both"
      "[define:f][ifdef:f;[ifdef:g;x]A][else:B]" (.ofSeed 42)).1 = .ok ⟨[("main", "AB")]⟩ :=
  runSource_eq_of_after (n := 20) (by decide +kernel)

end Engine

end Wordsmith
