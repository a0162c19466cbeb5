import Wordsmith.Proofs.Growth
import Wordsmith.Proofs.Passages
import Wordsmith.Proofs.Stepping

/-!
# Tests of what was printed

Two tags run a text and then a piece of code, if the text printed nothing or if it printed something.
Which of the two holds is told from the size of the whole output before and after the text. This is
right as long as no article that is due is longer than the text: the output grows behind a text then,
in whatever channels it is written and in whatever case, and it stays the same behind an empty one. A
single letter that takes one letter off an article before it goes unnoticed.

Main results: `Engine.output_tests`, and `Engine.output_test_unnoticed` for such a letter.
-/

namespace Wordsmith

/-! ## Outputs of a run -/

open ChannelStack in
/-- Whatever is done to an output leaves it in good order. -/
theorem Scene.Turn.sound {s t : Scene} (h : s.Turn t) (hs : s.output.Sound) : t.output.Sound := by
  cases h with
  | memory => exact hs
  | mode mode => exact hs.modifyActive (Channel.maintains_setMode mode)
  | visit => exact hs.push _ _
  | close => exact hs.pop _
  | mark name => exact hs.modifyActive (Channel.maintains_setMarker name)
  | target name => exact hs.modifyActive (Channel.maintains_createTarget name)
  | clear name => exact hs.modifyActive (Channel.maintains_clearTarget name)
  | print text hwrite =>
    unfold ChannelStack.write at hwrite
    split at hwrite
    · cases hwrite
      exact hs
    · split at hwrite
      · cases hwrite
      · cases hwrite
        exact hs.modifyActive (Channel.maintains_write text)
  | article hwrite =>
    unfold ChannelStack.writeArticle at hwrite
    split at hwrite
    · cases hwrite
    · cases hwrite
      exact hs.modifyActive Channel.maintains_writeArticle
  | send name value overwrite hwrite =>
    unfold ChannelStack.writeTarget at hwrite
    split at hwrite
    · cases hwrite
    · cases hwrite
      exact hs.modifyActive (Channel.maintains_writeTarget name value overwrite)

namespace Stage

variable {x y : Stage} {due : Option Deferred} {literals : Bool}

/-- All outputs are in good order. -/
def IsSound (x : Stage) : Prop := ∀ o ∈ x.outputs, o.Sound

namespace IsSound

theorem use (h : x.IsSound) (n : Nat) : (x.use n).IsSound := h

theorem change (h : x.IsSound) (f : Registers → Registers) : (x.change f).IsSound := h

theorem defer (h : x.IsSound) (action : Deferred) : (x.defer action).IsSound := h

theorem turn (h : x.IsSound) {s : Scene} (hturns : x.scene.Turns s) : (x.turn s).IsSound := by
  have hscene : x.scene.output.Sound := by
    cases hx : x.outputs with
    | nil => simpa [scene, hx] using ChannelStack.sound_initial
    | cons o os => simpa [scene, hx] using h o (by simp [hx])
  refine List.forall_mem_cons.2 ⟨?_, fun o ho => h o (List.mem_of_mem_tail ho)⟩
  exact hturns.keeps (P := fun s => s.output.Sound) (fun _ _ hturn => hturn.sound) hscene

theorem enter (h : x.IsSound) (o : Opening) : (x.enter o).IsSound := by
  unfold IsSound Stage.enter
  dsimp only
  split
  · exact List.forall_mem_cons.2 ⟨ChannelStack.sound_initial, h⟩
  · exact h

theorem enterAll (h : x.IsSound) (os : List Opening) : (x.enterAll os).IsSound := by
  induction os generalizing x with
  | nil => exact h
  | cons o os ih => exact ih (h.enter o)

theorem leaves (h : x.IsSound) (hleaves : x.Leaves y) : y.IsSound := by
  cases hleaves with
  | idle => exact h
  | lost => exact h
  | cut => exact fun o ho => h o (List.mem_of_mem_drop ho)

theorem effect (h : x.IsSound) (heffect : x.Effect literals due y) : y.IsSound := by
  cases heffect with
  | act _ hturns => exact (h.use _).turn hturns
  | run _ hturns => exact ((h.use _).turn hturns).enter _
  | runThen _ hturns => exact (((h.use _).turn hturns).defer _).enterAll _
  | compare => exact (((h.use _).change _).defer _).enterAll _
  | call => exact (((h.use _).change _).defer _).enter _
  | leave hleaves => exact (h.use _).leaves hleaves
  | undo | advance | suppress | gone => exact h
  | iterate _ _ hturns => exact ((h.turn hturns).defer _).enterAll _
  | block _ hturns => exact h.turn hturns
  | await => exact (h.defer _).enterAll _
  | «matches» => exact ((h.use 1).defer _).enterAll _

theorem step (h : x.IsSound) (hstep : x.Step literals y) : y.IsSound := by
  cases hstep with
  | @go _ f' below _ _ hframes _ heffect =>
    exact effect (x := { x with frames := f' :: below }) h heffect
  | pop =>
    unfold IsSound Stage.pop
    dsimp only
    split
    · exact fun o ho => h o (List.mem_of_mem_tail ho)
    · exact h

end IsSound

end Stage

namespace Engine

variable {e : Engine} {p : Pattern} {g : Generator} {m : Machine e.setting}

/-- The output that is printed to is in good order, wherever a run is. -/
theorem Reaches.sound_output (h : e.Reaches p g m) : m.output.Sound := by
  have hsound : m.stage.IsSound := by
    refine h.keepsStage ?_ fun x y _ hstep hx => hx.step hstep
    exact Stage.IsSound.enter (x := (Machine.initial e.setting (e.registers g)).stage) nofun _
  unfold Machine.output
  cases houtputs : m.outputs with
  | nil => exact ChannelStack.sound_initial
  | cons o os => exact hsound o (by simp [Machine.stage, houtputs])

end Engine

/-! ## Rows of texts -/

/-- Without any text, nothing is written. -/
theorem Channel.foldl_write_of_total_eq_zero {texts : List String}
    (h : total (texts.map (·.length)) = 0) (c : Channel) : texts.foldl Channel.write c = c := by
  induction texts with
  | nil => rfl
  | cons text texts ih =>
    rw [List.map_cons, total_cons] at h
    have hempty : text.isEmpty = true := String.isEmpty_iff.2 (String.length_eq_zero_iff.1 (by omega))
    have hself : c.write text = c := if_pos hempty
    rw [List.foldl_cons, hself]
    exact ih (by omega)

namespace ChannelStack

variable {o : ChannelStack} {texts : List String}

/-- What a row of texts makes of an output. -/
def writeAll (o : ChannelStack) (texts : List String) : ChannelStack :=
  texts.foldl (fun o text => o.modifyActive (·.write text)) o

theorem writeAll_eq (h : o.Sound) (texts : List String) :
    o.writeAll texts = o.modifyActive fun c => texts.foldl Channel.write c :=
  foldl_modifyActive (f := fun text c => c.write text) (fun text c => c.write_visibility text)
    h.active_nodup texts

/-- Unless an article that is due is longer than all texts together, the size tells whether there was
any text. -/
theorem Sound.size_writeAll_eq_iff (h : o.Sound)
    (hdue : total (texts.map (·.length)) ≠ 0 →
      ∀ c ∈ o.ofActive id, c.due ≤ total (texts.map (·.length))) :
    (o.writeAll texts).size = o.size ↔ total (texts.map (·.length)) = 0 := by
  rw [writeAll_eq h]
  constructor
  · intro hsize
    by_contra hne
    have hlt : o.size < (o.modifyActive fun c => texts.foldl Channel.write c).size := by
      refine h.size_lt_modifyActive fun c hc => ?_
      refine Channel.lt_length_foldl_write (h.channels c ?_) (Nat.pos_of_ne_zero hne) (hdue hne c hc)
      obtain ⟨i, -, hi⟩ := List.mem_filterMap.1 hc
      rw [Option.map_id] at hi
      exact Array.mem_toList_iff.2 (Array.mem_of_getElem? hi)
    omega
  · intro hzero
    rw [modifyActive_self h.active_nodup fun c => Channel.foldl_write_of_total_eq_zero hzero c]

end ChannelStack

/-! ## Runs that a limit may end -/

/-- The computation gives something with a property, unless a limit is reached. -/
def Affords {α : Type} (x : Except RunError α) (P : α → Prop) : Prop :=
  (∃ a, x = .ok a ∧ P a) ∨ ∃ name position e, x = .error (.fault name position (.exceeded e))

namespace Machine

variable {s : Setting} {m m₁ : Machine s} {P Q : Machine s → Prop} {n : Nat}

/-- The run comes to a machine with a property, unless a limit is reached on the way. -/
def ComesTo (m : Machine s) (P : Machine s → Prop) : Prop :=
  ∃ n m', Leads n m m' ∧
    (P m' ∨ m'.frames ≠ [] ∧ ∃ name position e,
      m'.step = .error (.fault name position (.exceeded e)))

namespace ComesTo

theorem here (h : P m) : m.ComesTo P := ⟨0, m, .refl m, .inl h⟩

theorem trans (h : m.ComesTo P) (hP : ∀ m', P m' → m'.ComesTo Q) : m.ComesTo Q := by
  obtain ⟨n, m', hlead, hm' | hstopped⟩ := h
  · obtain ⟨k, m'', hlead', hm''⟩ := hP m' hm'
    exact ⟨n + k, m'', hlead.trans hlead', hm''⟩
  · exact ⟨n, m', hlead, .inr hstopped⟩

theorem step (hframes : m.frames ≠ []) (h : Affords m.step P) : m.ComesTo P := by
  rcases h with ⟨m', hstep, hm'⟩ | hstopped
  · exact ⟨1, m', .single hframes hstep, .inl hm'⟩
  · exact ⟨0, m, .refl m, .inr ⟨hframes, hstopped⟩⟩

end ComesTo

theorem affords_push (m : Machine s) (p : Passage) (owns : Bool) (pre post : List Deferred) :
    Affords (m.push p owns pre post) fun m' =>
      m'.frames = ⟨m.nextId, .ofPassage p, owns, m.results.length, pre, post⟩ :: m.frames ∧
        m'.outputs = if owns then .initial :: m.outputs else m.outputs := by
  by_cases hdepth : m.frames.length + 1 ≤ s.maxDepth
  · exact .inl ⟨_, push_eq_ok hdepth p owns pre post, rfl, rfl⟩
  · exact .inr ⟨_, _, _, push_eq_error (Nat.lt_of_not_le hdepth) p owns pre post⟩

/-- A text is written to every channel that a write reaches. -/
theorem affords_print (h : m.output.active.Nodup) (text : String) :
    Affords (m.perform (Act.print text)) fun m' =>
      m'.frames = m.frames ∧ m'.output = m.output.modifyActive (·.write text) := by
  rw [perform, act_eq]
  simp only [StateT.run, Act.print, Act.spend]
  cases hwrite : m.output.write text m.registers.budget with
  | error e => exact .inr ⟨_, _, e, rfl⟩
  | ok written =>
    refine .inl ⟨_, rfl, rfl, ?_⟩
    unfold ChannelStack.write at hwrite
    split at hwrite
    · next hempty =>
      cases hwrite
      have hself : ∀ c : Channel, c.write text = c := fun c => if_pos hempty
      exact (ChannelStack.modifyActive_self h hself).symm
    · split at hwrite
      · cases hwrite
      · cases hwrite
        rfl

/-! ## Tests -/

variable {f : Frame} {below : List Frame} {r : Reader} {tokens : List Token} {text code : Passage}

/-- Tokens that are printed as they are written are printed one after the other. -/
theorem comesTo_plain (hframes : m.frames = { f with reader := r } :: below) (hpre : f.pre = [])
    (hstart : r.passage.start ≤ r.index) (hrest : r.rest = tokens)
    (hplain : ∀ t ∈ tokens, t.kind = .text ∨ t.kind = .whitespace) (hsound : m.output.Sound) :
    m.ComesTo fun m' => ∃ r', r'.passage.start ≤ r'.index ∧ r'.rest = [] ∧
      m'.frames = { f with reader := r' } :: below ∧
        m'.output = m.output.writeAll (tokens.map (·.text)) := by
  induction tokens generalizing m r with
  | nil => exact .here ⟨r, hstart, hrest, hframes, rfl⟩
  | cons t tokens ih =>
    obtain ⟨ht, htokens⟩ := List.forall_mem_cons.1 hplain
    obtain ⟨hread, hnext⟩ := Reader.read?_of_rest hstart hrest
    have hmoved : (m.moveTo t.position).frames = { f with reader := r } :: below := hframes
    have hprint := affords_print (m := (m.moveTo t.position).withReader r.next)
      hsound.active_nodup t.text
    rw [← runToken_plain ht, ← step_read hframes hpre hread, frames_withReader hmoved] at hprint
    refine (ComesTo.step (by simp [hframes]) hprint).trans fun m₁ ⟨hframes₁, houtput₁⟩ => ?_
    have hsound₁ : m₁.output.Sound := by
      rw [houtput₁]
      exact ChannelStack.Sound.modifyActive hsound (Channel.maintains_write t.text)
    have hrest₁ := ih hframes₁ (Nat.le_succ_of_le hstart) hnext htokens hsound₁
    rwa [houtput₁] at hrest₁

/-- A frame with nothing left but its tokens prints them, and goes. -/
theorem comesTo_text (hframes : m.frames = f :: below) (hreader : f.reader = .ofPassage text)
    (howns : f.owns = false) (hpre : f.pre = []) (hpost : f.post = [])
    (hplain : Slot.isPlain text = true) (hsound : m.output.Sound) :
    m.ComesTo fun m' => m'.frames = below ∧
      m'.output = m.output.writeAll (text.tokens.map (·.text)) := by
  have hkinds : ∀ t ∈ text.tokens, t.kind = .text ∨ t.kind = .whitespace := by
    simpa [Slot.isPlain] using hplain
  have hframe : m.frames = { f with reader := .ofPassage text } :: below := by
    rw [hframes, ← hreader]
  have hprinted := comesTo_plain hframe hpre (Nat.le_refl _) (Reader.rest_ofPassage text) hkinds
    hsound
  refine hprinted.trans fun m₁ ⟨r, hstart, hrest, hframes₁, houtput₁⟩ => ?_
  have hstep := step_pop hframes₁ hpre (Reader.read?_of_rest_nil hstart hrest) hpost
  refine .step (by simp [hframes₁]) (.inl ⟨_, hstep, ?_, ?_⟩)
  · exact congrArg List.tail hframes₁
  · have hshared : m₁.top?.any (·.owns) = false := by simp [top?, hframes₁, howns]
    rw [← houtput₁]
    simp [output, pop, hshared]

/-- A tag that tests the output runs its text, and then what depends on it is done. -/
theorem comesTo_test {tag : Tag} {name : Token} {sequel : Nat → Passage → Sequel}
    (hperform : ∀ source c (scene : Scene), (tag.perform s source c).run scene =
      .ok (c.test (sequel scene.output.size), scene))
    (hframes : m.frames = f :: below) (hpre : f.pre = []) (hne : m₁.frames ≠ [])
    (hcall : m₁.step = m.callTag tag name [.code text, .code code])
    (hplain : Slot.isPlain text = true) (hsound : m.output.Sound) :
    m₁.ComesTo fun m' => ∃ m₂ : Machine s, m₂.frames = f :: below ∧
      m₂.output = m.output.writeAll (text.tokens.map (·.text)) ∧
        m'.frames ≠ [] ∧ m'.step = m₂.finish (sequel m.output.size code) := by
  let m₂ : Machine s := { m.moveTo name.position with outputs := m.output :: m.outputs.tail }
  let action : Deferred := .finish (sequel m.output.size code)
  have hact : (m.moveTo name.position).act (tag.perform s (m.moveTo name.position).patternCode
      ⟨name.text, [.code text, .code code]⟩) =
        .ok (.runThen (some text) (sequel m.output.size code), m₂) := by
    exact act_of_run (hperform _ _ _)
  have hpushed := affords_push (m₂.defer action) text false [] []
  have hstep : m₁.step = (m₂.defer action).push text false [] [] := by
    rw [hcall, callTag_of_act hact]
    rfl
  rw [← hstep] at hpushed
  have hdeferred : (m₂.defer action).frames = { f with pre := [action] } :: below := by
    show m.frames.modifyHead _ = _
    rw [hframes, List.modifyHead_cons, hpre]
  refine (ComesTo.step hne hpushed).trans fun m₃ ⟨hframes₃, houtputs₃⟩ => ?_
  have houtput₃ : m₃.output = m.output := congrArg (·.headD .initial) houtputs₃
  have hprinted := comesTo_text hframes₃ rfl rfl rfl rfl hplain (houtput₃ ▸ hsound)
  refine hprinted.trans fun m₄ ⟨hframes₄, houtput₄⟩ => ?_
  rw [hdeferred] at hframes₄
  refine .here ⟨m₄.modifyTop fun f => { f with pre := [] }, ?_, ?_, ?_, step_take hframes₄ rfl⟩
  · show m₄.frames.modifyHead _ = _
    rw [hframes₄, List.modifyHead_cons, ← hpre]
  · show m₄.output = _
    rw [houtput₄, houtput₃]
  · simp [hframes₄]

end Machine

theorem Passage.total_lengths (p : Passage) :
    total ((p.tokens.map (·.text)).map (·.length)) = p.text.length :=
  String.length_join.symm

namespace Engine

variable {e : Engine} {p : Pattern} {g : Generator} {m : Machine e.setting} {f : Frame}
  {below : List Frame} {name : Token} {text code : Passage} {r : Reader}

/-- A tag that tests the output is called at once, and the size of the output tells whether its text
is empty. -/
theorem comesTo_test_of_faces {tag : Tag} {spelling : String} (sequel : Nat → Passage → Sequel)
    (hfind : TagEntry.find? spelling = some ⟨spelling, [⟨tag, [.code, .code], false⟩]⟩)
    (hperform : ∀ source c (scene : Scene), (tag.perform e.setting source c).run scene =
      .ok (c.test (sequel scene.output.size), scene))
    (h : e.Reaches p g m) (hframes : m.frames = f :: below) (hfaces : f.Faces name [text, code] r)
    (hname : Text.asciiLower name.text = Text.asciiLower spelling)
    (hplain : Slot.isPlain text = true)
    (hdue : text.text ≠ "" → ∀ c ∈ m.output.ofActive id, c.due ≤ text.text.length) :
    m.ComesTo fun m' => ∃ m₂ : Machine e.setting, m₂.frames = { f with reader := r } :: below ∧
      (m₂.output.size = m.output.size ↔ text.text = "") ∧
        m'.step = m₂.finish (sequel m.output.size code) := by
  have hcode : ∀ i < [text, code].length,
      Signature.takesCode ⟨tag, [.code, .code], false⟩ i = true := fun i hi => by
    match i, hi with
    | 0, _ | 1, _ => rfl
  have hstep := Machine.step_tag hframes hfaces
  rw [Machine.runTag_code ((TagEntry.find?_congr hname).trans hfind) rfl hcode] at hstep
  have hread := Machine.frames_withReader hframes r
  have htested := Machine.comesTo_test hperform hread hfaces.pre (by simp [hframes]) hstep hplain
    h.sound_output
  refine htested.trans fun m' ⟨m₂, hframes₂, houtput₂, _, hstep'⟩ => .here ⟨m₂, hframes₂, ?_, hstep'⟩
  have hempty : text.text.length = 0 ↔ text.text = "" := String.length_eq_zero_iff
  rw [houtput₂, ← hempty, ← text.total_lengths]
  refine ChannelStack.Sound.size_writeAll_eq_iff h.sound_output fun hne c hc => ?_
  rw [text.total_lengths] at hne ⊢
  exact hdue (fun hnone => hne (hempty.2 hnone)) c hc

/-- A tag that runs code if a plain text printed nothing, and one that does so if it printed
something, are right about the text, unless an article that is due is longer. -/
theorem output_tests (h : e.Reaches p g m) (hframes : m.frames = f :: below)
    (hfaces : f.Faces name [text, code] r) (hplain : Slot.isPlain text = true)
    (hdue : text.text ≠ "" → ∀ c ∈ m.output.ofActive id, c.due ≤ text.text.length) :
    (Text.asciiLower name.text = "alt" →
      m.ComesTo (Machine.RunsIf ({ f with reader := r } :: below) code (text.text = ""))) ∧
    (Text.asciiLower name.text = "any" →
      m.ComesTo (Machine.RunsIf ({ f with reader := r } :: below) code (text.text ≠ ""))) := by
  constructor
  · intro hname
    have halt : TagEntry.find? "alt" = some ⟨"alt", [⟨.ifNothing, [.code, .code], false⟩]⟩ := by
      decide +kernel
    have hspelled : Text.asciiLower "alt" = "alt" := by decide +kernel
    have htested := comesTo_test_of_faces .ifNothing halt (fun _ _ _ => rfl) h hframes
      hfaces (hname.trans hspelled.symm) hplain hdue
    refine htested.trans fun m' ⟨m₂, hframes₂, hsize, hstep⟩ => .here ⟨m₂, hframes₂, ?_⟩
    exact hstep.trans (if_congr hsize rfl rfl)
  · intro hname
    have hany : TagEntry.find? "any" = some ⟨"any", [⟨.ifAnything, [.code, .code], false⟩]⟩ := by
      decide +kernel
    have hspelled : Text.asciiLower "any" = "any" := by decide +kernel
    have htested := comesTo_test_of_faces .ifAnything hany (fun _ _ _ => rfl) h hframes
      hfaces (hname.trans hspelled.symm) hplain hdue
    refine htested.trans fun m' ⟨m₂, hframes₂, hsize, hstep⟩ => .here ⟨m₂, hframes₂, ?_⟩
    rw [ite_not]
    exact hstep.trans (if_congr hsize rfl rfl)

/-- The text is as long as the article that is due, so it does not go unnoticed that it was
printed. -/
theorem output_tests_equal_length : ∃ (p : Pattern)
    (m : Machine (build .standard .empty .empty).setting) (f : Frame) (below : List Frame)
    (name : Token) (text code : Passage) (r : Reader),
    (build .standard .empty .empty).Reaches p (.ofSeed 42) m ∧ m.frames = f :: below ∧
      f.Faces name [text, code] r ∧ Text.asciiLower name.text = "any" ∧
        Slot.isPlain text = true ∧ text.text = "it" ∧ m.output.ofActive (·.due) = [2] ∧
          m.ComesTo (Machine.RunsIf ({ f with reader := r } :: below) code (text.text ≠ "")) := by
  have hseen : (Pattern.compile "tested" "[a]un[any:it;F]").toOption.bind (fun p =>
      (((build .standard .empty .empty).start p (.ofSeed 42)).bind
        (Machine.after 2)).toOption.bind fun m => m.frames.head?.bind fun f =>
          f.facing?.map fun (name, arguments, _) => (Text.asciiLower name.text,
            arguments.map fun p => (Slot.isPlain p, p.text), m.output.ofActive (·.due))) =
      some ("any", [(true, "it"), (true, "F")], [2]) := by decide +kernel
  obtain ⟨p, -, hrun⟩ := Option.bind_eq_some_iff.1 hseen
  obtain ⟨m, hafter, hm⟩ := Option.bind_eq_some_iff.1 hrun
  obtain ⟨f, hf, hfacing⟩ := Option.bind_eq_some_iff.1 hm
  obtain ⟨⟨name, arguments, r⟩, hfaces, heq⟩ := Option.map_eq_some_iff.1 hfacing
  obtain ⟨hname, heq⟩ := Prod.mk.inj heq
  obtain ⟨harguments, hdue⟩ := Prod.mk.inj heq
  obtain ⟨text, l, rfl, htext, hl⟩ := List.map_eq_cons_iff.1 harguments
  obtain ⟨code, l, rfl, hcode, hnil⟩ := List.map_eq_cons_iff.1 hl
  obtain rfl := List.map_eq_nil_iff.1 hnil
  obtain ⟨hplain, htext⟩ := Prod.mk.inj htext
  obtain ⟨below, hframes⟩ := List.head?_eq_some_iff.1 hf
  obtain ⟨m', hreach, rfl⟩ := exists_reaches_of_after (f := id) (a := m) (by rw [hafter]; rfl)
  have hlong : text.text ≠ "" → ∀ c ∈ m'.output.ofActive id, c.due ≤ text.text.length := by
    intro _ c hc
    have hmem : c.due ∈ m'.output.ofActive (·.due) := by
      obtain ⟨i, hi, hget⟩ := List.mem_filterMap.1 hc
      refine List.mem_filterMap.2 ⟨i, hi, ?_⟩
      rw [Option.map_id] at hget
      rw [show m'.output.channels[i]? = some c from hget]
      rfl
    rw [htext]
    rw [show m'.output.ofActive (·.due) = [2] from hdue] at hmem
    exact Nat.le_of_eq (List.mem_singleton.1 hmem)
  exact ⟨p, m', f, below, name, text, code, r, hreach, hframes, Frame.faces_of_facing? hfaces, hname,
    hplain, htext, hdue, (output_tests hreach hframes (Frame.faces_of_facing? hfaces) hplain hlong).2
      hname⟩

/-- A letter that turns the article before it from *an* to *a* goes unnoticed: the text is not empty,
but the code is run. -/
theorem output_test_unnoticed :
    ((build .standard .empty .empty).runSource "unnoticed" "[a]un[alt:i;F]" (.ofSeed 42)).1 =
      .ok ⟨[("main", "auniF")]⟩ :=
  runSource_eq_of_after (n := 20) (by decide +kernel)

end Engine

end Wordsmith
