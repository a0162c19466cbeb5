import Wordsmith.Bracket
import Wordsmith.Machine.Basic
import Wordsmith.Proofs.Likeness.Reading
import Wordsmith.Tag.Table

/-!
# Standards for code

Code that is run is read construct by construct, and what is found in it is run later, in other
frames: as an item of a block, as an argument, as the body of a subroutine. A standard is a
condition on readers that passes from code to all code that is found in it. It says what reading may
fail with, and whether a run may make code; it is lax if it allows code that can be read but not
run, or not even that.

Two machines that run code of one standard are compared part by part: what is in the one is like
what is in the other if it says the same and its passages are alike. The ids of the one may all be
shifted against those of the other.

Main definitions: `Standard`, and the relations `Like` for all that a machine remembers.
-/

namespace Wordsmith

/-! ## Standards -/

/-- The scan succeeds with a result and a reader that fulfil a condition, or fails with an error
that may occur. -/
def Scan.Passes {α : Type} (fails : ScopeError → Prop) (P : α → Reader → Prop) (s : Scan α)
    (r : Reader) : Prop :=
  match s r with
  | (.ok a, r') => P a r'
  | (.error e, _) => fails e

/-- What stands in square brackets can be run: a tag is known and takes as many arguments, and a
replacer has its two and a regular expression. -/
def Bracket.IsSound : Bracket → Prop
  | .replacer literal arguments =>
    (∃ regex, Regex.ofLiteral literal.text = .ok regex) ∧ arguments.length = 2
  | .tag name arguments => ∃ entry signature,
    TagEntry.find? name.text = some entry ∧ entry.signature? arguments.length = some signature
  | _ => True

/-- What stands in square brackets makes code when it is run. -/
def Bracket.MakesCode : Bracket → Prop
  | .definition isMeta _ _ _ => isMeta = true
  | .metapattern _ => True
  | _ => False

/-- A condition on readers that passes to all code that they find. -/
structure Standard where
  /-- What readers fulfil between two constructs. -/
  reader : Reader → Prop
  /-- What reading may fail with. -/
  fails : ScopeError → Prop
  /-- Whether code may be such that it cannot be run. -/
  isLax : Prop
  /-- Whether a run may make code. -/
  makesCode : Prop
  lax_of_fails : ∀ {e}, fails e → isLax
  lax_of_makesCode : makesCode → isLax
  alike : ∀ {r r'}, reader r → r.Alike r' → reader r'
  compiled : makesCode → ∀ p : Pattern, reader (.ofPassage p.passage)
  block : ∀ {r t r₁}, reader r → r.read? = some (t, r₁) → t.kind = .leftCurly →
    Scan.Passes fails
      (fun ps r' => (∀ p ∈ ps, reader (.ofPassage (BlockItem.ofPassage p).code)) ∧ reader r')
      Block.readItems r₁
  bracket : ∀ {r t r₁}, reader r → r.read? = some (t, r₁) → t.kind = .leftSquare →
    Scan.Passes fails
      (fun b r' => (isLax ∨ b.IsSound) ∧ (makesCode ∨ ¬b.MakesCode) ∧
        (∀ p ∈ b.passages, reader (.ofPassage p)) ∧ reader r')
      (Bracket.read Bracket.readReplacement) r₁
  expression : ∀ {r t r₁}, reader r → r.read? = some (t, r₁) → t.kind = .leftParen →
    Scan.Passes fails (fun e r' => reader (.ofPassage e.2) ∧ reader r') Scan.expression r₁
  query : ∀ {r t r₁}, reader r → r.read? = some (t, r₁) → t.kind = .leftAngle →
    Scan.Passes fails (fun p r' => (isLax ∨ ∃ q, Query.ofText p.text = .ok q) ∧ reader r')
      Scan.query r₁
  closer : ∀ {r t r₁}, reader r → r.read? = some (t, r₁) →
    t.kind ∈ [.rightCurly, .rightSquare, .rightParen, .rightAngle] →
      fails (.unexpected "text" t.text t.position)
  plain : ∀ {r t r₁}, reader r → r.read? = some (t, r₁) →
    t.kind ∉ [.leftCurly, .leftSquare, .leftParen, .leftAngle] →
    t.kind ∉ [.rightCurly, .rightSquare, .rightParen, .rightAngle] → reader r₁
  /-- A block that was read once can be read again by every reader that comes to it. -/
  recalls : ∀ {r t r₁ r₀ ps r₀'}, reader r → r.read? = some (t, r₁) → t.kind = .leftCurly →
    r₀.passage.start ≤ r₀.index → r₀.passage.pattern = r₁.passage.pattern → r₀.index = r₁.index →
    Block.readItems r₀ = (.ok ps, r₀') → ∃ qs r₂, Block.readItems r₁ = (.ok qs, r₂)

variable {S : Standard} {d : Nat}

section Lists

variable {α β : Type} {R : α → β → Prop} {l : List α} {l' : List β}

theorem forall₂_head? (h : List.Forall₂ R l l') : Option.Rel R l.head? l'.head? := by
  cases h with
  | nil => exact .none
  | cons h _ => exact .some h

theorem forall₂_tail (h : List.Forall₂ R l l') : List.Forall₂ R l.tail l'.tail := by
  cases h with
  | nil => exact .nil
  | cons _ h => exact h

end Lists

/-! ## Arguments -/

/-- The passages are alike and up to the standard. -/
structure Passage.Like (S : Standard) (p q : Passage) : Prop where
  alike : p.Alike q
  reader : S.reader (.ofPassage p)

/-- The arguments are one text, or code that is alike. -/
inductive Argument.Like (S : Standard) : Argument → Argument → Prop
  | text (s : String) : Like S (.text s) (.text s)
  | code {p q : Passage} (h : p.Like S q) : Like S (.code p) (.code q)

namespace Slot

/-- The slots wait for the same, or hold code that is alike. -/
inductive Like (S : Standard) : Slot → Slot → Prop
  | evaluated : Like S .evaluated .evaluated
  | literal (s : String) : Like S (.literal s) (.literal s)
  | code {p q : Passage} (h : p.Like S q) : Like S (.code p) (.code q)

theorem prepare_like {ps qs : List Passage} (h : List.Forall₂ (Passage.Like S) ps qs)
    (literals : Bool) (takesCode : Nat → Bool) (i : Nat) :
    List.Forall₂ (Like S) (prepare literals takesCode i ps).1 (prepare literals takesCode i qs).1 ∧
      List.Forall₂ (Passage.Like S) (prepare literals takesCode i ps).2
        (prepare literals takesCode i qs).2 := by
  induction h generalizing i with
  | nil => exact ⟨.nil, .nil⟩
  | cons hp _ ih =>
    obtain ⟨hslots, hpassages⟩ := ih (i + 1)
    have hplain : isPlain _ = isPlain _ := congrArg (List.all · _) hp.alike.tokens
    simp only [prepare]
    split
    · exact ⟨.cons (.code hp) hslots, hpassages⟩
    · rw [← hplain]
      split
      · rw [← hp.alike.text]
        exact ⟨.cons (.literal _) hslots, hpassages⟩
      · exact ⟨.cons .evaluated hslots, .cons hp hpassages⟩

variable {slots slots' : List Slot}

theorem countP_like (h : List.Forall₂ (Like S) slots slots') :
    slots.countP (·.isEvaluated) = slots'.countP (·.isEvaluated) := by
  induction h with
  | nil => rfl
  | cons h _ ih =>
    rw [List.countP_cons, List.countP_cons, ih]
    cases h <;> rfl

theorem fill_like (h : List.Forall₂ (Like S) slots slots') (texts : List String) :
    List.Forall₂ (Argument.Like S) (fill slots texts) (fill slots' texts) := by
  induction h generalizing texts with
  | nil => exact .nil
  | cons h _ ih =>
    cases h with
    | evaluated => exact .cons (.text _) (ih _)
    | literal s => exact .cons (.text s) (ih _)
    | code h => exact .cons (.code h) (ih _)

end Slot

/-! ## Tables -/

namespace Named

variable {α α' : Type} {R : α → α' → Prop} {t : Named α} {t' : Named α'}

/-- The tables have the same names, with values that are related. -/
def Like (R : α → α' → Prop) (t : Named α) (t' : Named α') : Prop :=
  List.Forall₂ (fun x y => x.1 = y.1 ∧ R x.2 y.2) t.entries t'.entries

theorem Like.empty : Like R Named.empty Named.empty := .nil

theorem Like.get? (h : t.Like R t') (name : String) :
    Option.Rel R (t.get? name) (t'.get? name) := by
  unfold Like at h
  unfold Named.get?
  generalize t.entries = entries, t'.entries = entries' at h
  induction h with
  | nil => exact .none
  | cons h _ ih =>
    simp only [lookup, h.1]
    split
    · exact .some h.2
    · exact ih

theorem Like.insert (h : t.Like R t') (name : String) {a : α} {a' : α'} (ha : R a a') :
    (t.insert name a).Like R (t'.insert name a') := by
  unfold Like at h ⊢
  simp only [Named.insert]
  generalize t.entries = entries, t'.entries = entries' at h
  induction h with
  | nil => exact .cons ⟨rfl, ha⟩ .nil
  | cons h hrest ih =>
    simp only [store, h.1]
    split
    · exact .cons ⟨rfl, ha⟩ hrest
    · exact .cons ⟨rfl, h.2⟩ ih

end Named

/-! ## Blocks and repeaters -/

/-- The attributes are the same, with passages that are alike. -/
structure Attributes.Like (S : Standard) (a a' : Attributes) : Prop where
  repetitions : a.repetitions = a'.repetitions
  separator : Option.Rel (Passage.Like S) a.separator a'.separator
  before : Option.Rel (Passage.Like S) a.before a'.before
  after : Option.Rel (Passage.Like S) a.after a'.after
  order : a.order = a'.order
  chance : a.chance = a'.chance
  persistence : a.persistence = a'.persistence

namespace Attributes.Like

variable {a a' : Attributes}

theorem plain : Attributes.plain.Like S .plain := ⟨rfl, .none, .none, .none, rfl, rfl, rfl⟩

theorem afterTake (h : a.Like S a') : a.afterTake.Like S a'.afterTake := by
  simp only [Attributes.afterTake, ← h.persistence]
  split
  · exact plain
  · exact h
  · exact { h with persistence := rfl }

end Attributes.Like

/-- The items weigh the same, and their code is alike. -/
structure BlockItem.Like (S : Standard) (i j : BlockItem) : Prop where
  weight : i.weight = j.weight
  code : i.code.Like S j.code

/-- The items of the blocks are alike. -/
def Block.Like (S : Standard) (b b' : Block) : Prop :=
  List.Forall₂ (BlockItem.Like S) b.items.toList b'.items.toList

namespace Block.Like

variable {b b' : Block}

theorem size (h : b.Like S b') : b.size = b'.size := by
  rw [Block.size, Block.size, ← Array.length_toList, ← Array.length_toList]
  exact h.length_eq

theorem weights (h : b.Like S b') : b.weights = b'.weights := by
  unfold Block.Like at h
  unfold Block.weights
  generalize b.items.toList = is, b'.items.toList = js at h
  induction h with
  | nil => rfl
  | cons h _ ih => rw [List.map_cons, List.map_cons, h.weight, ih]

theorem totalWeight (h : b.Like S b') : b.totalWeight = b'.totalWeight := by
  rw [Block.totalWeight, Block.totalWeight, h.weights]

theorem isUniform (h : b.Like S b') : b.isUniform = b'.isUniform := by
  rw [Block.isUniform, Block.isUniform, h.weights]

theorem code (h : b.Like S b') (i : Nat) :
    Option.Rel (Passage.Like S) (b.items[i]?.map (·.code)) (b'.items[i]?.map (·.code)) := by
  rw [← Array.getElem?_toList, ← Array.getElem?_toList]
  unfold Block.Like at h
  generalize b.items.toList = is, b'.items.toList = js at h
  induction h generalizing i with
  | nil => exact .none
  | cons h _ ih =>
    cases i with
    | zero => exact .some h.code
    | succ i => exact ih i

theorem ofPassages {ps qs : List Passage} (h : Scan.AllAlike ps qs)
    (hreader : ∀ p ∈ ps, S.reader (.ofPassage (BlockItem.ofPassage p).code)) :
    (Block.ofPassages ps).Like S (.ofPassages qs) := by
  show List.Forall₂ _ (ps.map _).toArray.toList (qs.map _).toArray.toList
  rw [List.toList_toArray, List.toList_toArray]
  induction h with
  | nil => exact .nil
  | cons hp _ ih =>
    obtain ⟨hfirst, hrest⟩ := List.forall_mem_cons.1 hreader
    obtain ⟨hweight, hcode⟩ := BlockItem.ofPassage_alike hp
    exact .cons ⟨hweight, hcode, hfirst⟩ (ih hrest)

end Block.Like

/-- The repeaters are at the same repetition of blocks that are alike. -/
structure Repeater.Like (S : Standard) (d : Nat) (r r' : Repeater) : Prop where
  id : r'.id = r.id + d
  base : r'.base = r.base + d
  block : r.block.Like S r'.block
  attributes : r.attributes.Like S r'.attributes
  index : r.index = r'.index
  count : r.count = r'.count
  suppressed : r.suppressed = r'.suppressed

namespace Repeater.Like

variable {r r' : Repeater}

theorem start {id base : Nat} {b b' : Block} {a a' : Attributes} (hb : b.Like S b')
    (ha : a.Like S a') :
    (Repeater.start id base b a).Like S d (.start (id + d) (base + d) b' a') := by
  refine ⟨rfl, rfl, hb, ha, rfl, ?_, rfl⟩
  simp only [Repeater.start, ← ha.repetitions, hb.size]

theorem isFinished (h : r.Like S d r') : r.isFinished = r'.isFinished := by
  rw [Repeater.isFinished, Repeater.isFinished, h.index, h.count]

theorem isSuppressed (h : r.Like S d r') : r.isSuppressed = r'.isSuppressed := by
  rw [Repeater.isSuppressed, Repeater.isSuppressed, h.suppressed]

theorem visibleIndex (h : r.Like S d r') : r.visibleIndex = r'.visibleIndex := by
  rw [Repeater.visibleIndex, Repeater.visibleIndex, h.isSuppressed, h.index]

theorem finish (h : r.Like S d r') : r.finish.Like S d r'.finish := { h with index := h.count }

theorem advance (h : r.Like S d r') : r.advance.Like S d r'.advance := by
  simp only [Repeater.advance, ← h.isFinished]
  split
  · exact h
  · exact { h with index := congrArg (· + 1) h.index }

theorem suppress (h : r.Like S d r') : r.suppress.Like S d r'.suppress :=
  { h with suppressed := congrArg (· + 1) h.suppressed }

theorem restore (h : r.Like S d r') : r.restore.Like S d r'.restore :=
  { h with suppressed := congrArg (· - 1) h.suppressed }

end Repeater.Like

/-! ## Deferred actions -/

/-- The subroutines are called the same, and their bodies are alike. -/
structure Subroutine.Like (S : Standard) (s s' : Subroutine) : Prop where
  name : s.name = s'.name
  parameters : s.parameters = s'.parameters
  body : s.body.Like S s'.body

/-- What the tags still do is the same, with code that is alike. -/
inductive Sequel.Like (S : Standard) : Sequel → Sequel → Prop
  | merge : Like S .merge .merge
  | dropComparison : Like S .dropComparison .dropComparison
  | ifNothing (size : Nat) {p q : Passage} (h : p.Like S q) :
    Like S (.ifNothing size p) (.ifNothing size q)
  | ifAnything (size : Nat) {p q : Passage} (h : p.Like S q) :
    Like S (.ifAnything size p) (.ifAnything size q)

/-- The actions are the same, with code that is alike and ids that are shifted. Actions make code
only where a run may, and tags have names that are known unless the standard is lax. -/
inductive Deferred.Like (S : Standard) (d : Nat) : Deferred → Deferred → Prop
  | callTag (tag : Tag) {name : Token} {slots slots' : List Slot}
      (hname : S.isLax ∨ (TagEntry.find? name.text).isSome)
      (hslots : List.Forall₂ (Slot.Like S) slots slots') :
    Like S d (.callTag tag name slots) (.callTag tag name slots')
  | callSubroutine {called called' : Subroutine} (name : Token) {slots slots' : List Slot}
      (hcalled : called.Like S called') (hslots : List.Forall₂ (Slot.Like S) slots slots') :
    Like S d (.callSubroutine called name slots) (.callSubroutine called' name slots')
  | dropArguments : Like S d .dropArguments .dropArguments
  | define (hmakes : S.makesCode) (name : String) (parameters : List Parameter) (position : Position) :
    Like S d (.define name parameters position) (.define name parameters position)
  | iterate (id : Nat) : Like S d (.iterate id) (.iterate (id + d))
  | advance (id : Nat) : Like S d (.advance id) (.advance (id + d))
  | suppress (id : Nat) : Like S d (.suppress id) (.suppress (id + d))
  | restore (id : Nat) : Like S d (.restore id) (.restore (id + d))
  | finish {q q' : Sequel} (h : q.Like S q') : Like S d (.finish q) (.finish q')
  | runPrinted (hmakes : S.makesCode) (position : Position) :
    Like S d (.runPrinted position) (.runPrinted position)
  | evaluate (isSilent : Bool) (position : Position) :
    Like S d (.evaluate isSilent position) (.evaluate isSilent position)
  | replace (regex : Regex) {p q : Passage} (h : p.Like S q) (position : Position) :
    Like S d (.replace regex p position) (.replace regex q position)
  | join (text : String) (spans : List (Nat × Nat)) : Like S d (.join text spans) (.join text spans)
  | enterMatch (x : Regex.Match) : Like S d (.enterMatch x) (.enterMatch x)
  | leaveMatch : Like S d .leaveMatch .leaveMatch

/-! ## Registers -/

/-- The budgets are the same or both without a limit. -/
inductive Budget.Like : Budget → Budget → Prop
  | refl (b : Budget) : Like b b
  | unlimited (n k : Nat) : Like ⟨none, n⟩ ⟨none, k⟩

namespace Budget.Like

variable {b b' : Budget}

theorem spend (h : b.Like b') (count : Nat) :
    Matches Eq Budget.Like (b.spend count) (b'.spend count) := by
  cases h with
  | refl =>
    cases b.spend count with
    | ok b => exact .ok (.refl b)
    | error e => exact .error rfl
  | unlimited => exact .ok (.unlimited ..)

end Budget.Like

/-- The registers remember the same, with passages that are alike and ids that are shifted. -/
structure Registers.Like (S : Standard) (d : Nat) (r r' : Registers) : Prop where
  generator : r.generator = r'.generator
  repeaters : List.Forall₂ (Repeater.Like S d) r.repeaters r'.repeaters
  attributes : r.attributes.Like S r'.attributes
  orders : r.orders = r'.orders
  budget : r.budget.Like r'.budget
  elseArmed : r.elseArmed = r'.elseArmed
  comparisons : r.comparisons = r'.comparisons
  arguments : List.Forall₂ (Named.Like (Argument.Like S)) r.arguments r'.arguments
  matched : r.matched = r'.matched
  carriers : r.carriers = r'.carriers
  numberFormat : r.numberFormat = r'.numberFormat
  flags : r.flags = r'.flags
  subroutines : r.subroutines.Like (Subroutine.Like S) r'.subroutines

namespace Registers.Like

variable {r r' : Registers}

theorem repeater? (h : r.Like S d r') : Option.Rel (Repeater.Like S d) r.repeater? r'.repeater? :=
  forall₂_head? h.repeaters

theorem findRepeater? (h : r.Like S d r') (id : Nat) :
    Option.Rel (Repeater.Like S d) (r.findRepeater? id) (r'.findRepeater? (id + d)) := by
  have hall := h.repeaters
  simp only [Registers.findRepeater?]
  generalize r.repeaters = rs, r'.repeaters = rs' at hall
  induction hall with
  | nil => exact .none
  | @cons x y _ _ hx _ ih =>
    have hid : (y.id == id + d) = (x.id == id) := by simp [hx.id]
    rw [List.find?_cons, List.find?_cons, hid]
    split
    · exact .some hx
    · exact ih

theorem modifyRepeater (h : r.Like S d r') (id : Nat) {f : Repeater → Repeater}
    (hf : ∀ x y : Repeater, x.Like S d y → (f x).Like S d (f y)) :
    (r.modifyRepeater id f).Like S d (r'.modifyRepeater (id + d) f) := by
  refine { h with repeaters := ?_ }
  have hall := h.repeaters
  simp only [Registers.modifyRepeater]
  generalize r.repeaters = rs, r'.repeaters = rs' at hall
  induction hall with
  | nil => exact .nil
  | @cons x y _ _ hx _ ih =>
    refine .cons ?_ ih
    simp only [hx.id, Nat.add_right_cancel_iff]
    split
    · exact hf _ _ hx
    · exact hx

theorem removeRepeater (h : r.Like S d r') (id : Nat) :
    (r.removeRepeater id).Like S d (r'.removeRepeater (id + d)) := by
  refine { h with repeaters := ?_ }
  have hall := h.repeaters
  simp only [Registers.removeRepeater]
  generalize r.repeaters = rs, r'.repeaters = rs' at hall
  induction hall with
  | nil => exact .nil
  | @cons x y _ _ hx _ ih =>
    have hid : (y.id != id + d) = (x.id != id) := by simp [bne, hx.id]
    rw [List.filter_cons, List.filter_cons, hid]
    split
    · exact .cons hx ih
    · exact ih

theorem mergeBranch (h : r.Like S d r') : r.mergeBranch.Like S d r'.mergeBranch :=
  { h with generator := congrArg (fun g : Generator => g.merge.2) h.generator }

theorem undo (h : r.Like S d r') {a a' : Deferred} (ha : a.Like S d a') :
    (r.undo a).Like S d (r'.undo a') := by
  cases ha with
  | dropArguments => exact { h with arguments := forall₂_tail h.arguments }
  | finish hq =>
    cases hq with
    | merge => exact h.mergeBranch
    | dropComparison => exact { h with comparisons := congrArg List.tail h.comparisons }
    | ifNothing => exact h
    | ifAnything => exact h
  | restore id => exact h.modifyRepeater id fun _ _ => Repeater.Like.restore
  | iterate id => exact h.removeRepeater id
  | enterMatch x => exact { h with matched := congrArg (x :: ·) h.matched }
  | leaveMatch => exact { h with matched := congrArg List.tail h.matched }
  | _ => exact h

end Registers.Like

end Wordsmith
