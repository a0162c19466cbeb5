import Wordsmith.Block.Repeater
import Wordsmith.Regex.Search
import Wordsmith.Subroutine
import Wordsmith.Tag.Basic

/-!
# Frames

A run keeps a frame for every piece of code that it has begun. What has to be done once a frame is
over, or before it goes on, is put down in it as a deferred action; so nothing is ever called and
returned from, and the frames are all that there is to a place in a run.
-/

namespace Wordsmith

/-! ## Arguments -/

/-- An argument of a call. -/
inductive Argument where
  | text (s : String)
  | code (p : Passage)

/-- An argument of a call that waits. -/
inductive Slot where
  /-- What a frame is going to print. -/
  | evaluated
  /-- A text that is known already. -/
  | literal (s : String)
  | code (p : Passage)

namespace Slot

/-- Whether running a passage prints it as it is written. -/
def isPlain (p : Passage) : Bool := p.tokens.all fun t => t.kind == .text || t.kind == .whitespace

/-- The slots of arguments, the first of which has a number, and the passages to be run for them.
Plain arguments need not be run if `literals` is set. -/
def prepare (literals : Bool) (takesCode : Nat → Bool) :
    Nat → List Passage → List Slot × List Passage
  | _, [] => ([], [])
  | i, p :: ps =>
    let (slots, passages) := prepare literals takesCode (i + 1) ps
    if takesCode i then (.code p :: slots, passages)
    else if literals && isPlain p then (.literal p.text :: slots, passages)
    else (.evaluated :: slots, p :: passages)

/-- Whether a frame is run for a slot. -/
def isEvaluated : Slot → Bool
  | evaluated => true
  | _ => false

/-- A passage is run for every slot that is evaluated, and for no other. -/
theorem countP_prepare (literals : Bool) (takesCode : Nat → Bool) (i : Nat) (ps : List Passage) :
    (prepare literals takesCode i ps).1.countP (·.isEvaluated) =
      (prepare literals takesCode i ps).2.length := by
  induction ps generalizing i with
  | nil => rfl
  | cons p ps ih =>
    simp only [prepare]
    split
    · simpa [isEvaluated] using ih (i + 1)
    · split
      · simpa [isEvaluated] using ih (i + 1)
      · simpa [isEvaluated] using ih (i + 1)

/-- The arguments of a call, given in order what was printed for the evaluated ones. -/
def fill : List Slot → List String → List Argument
  | [], _ => []
  | .evaluated :: slots, texts => .text (texts.headD "") :: fill slots texts.tail
  | .literal s :: slots, texts => .text s :: fill slots texts
  | .code p :: slots, texts => .code p :: fill slots texts

end Slot

/-! ## Deferred actions -/

/-- What a tag still does once the code that it was given is over. -/
inductive Sequel where
  /-- Take a branch off the generator. -/
  | merge
  /-- Forget a comparison. -/
  | dropComparison
  /-- Run code if the output still has its former size. -/
  | ifNothing (size : Nat) (code : Passage)
  /-- Run code if the output no longer has its former size. -/
  | ifAnything (size : Nat) (code : Passage)

/-- What is left to be done. -/
inductive Deferred where
  /-- Call a tag. -/
  | callTag (tag : Tag) (name : Token) (slots : List Slot)
  /-- Call a subroutine. -/
  | callSubroutine (s : Subroutine) (name : Token) (slots : List Slot)
  /-- Forget the arguments of a subroutine. -/
  | dropArguments
  /-- Make a subroutine of what was printed. -/
  | define (name : String) (parameters : List Parameter) (position : Position)
  /-- Begin the next repetition, if any is left. -/
  | iterate (repeater : Nat)
  /-- End a repetition. -/
  | advance (repeater : Nat)
  /-- Begin a separator. -/
  | suppress (repeater : Nat)
  /-- End a separator. -/
  | restore (repeater : Nat)
  /-- Finish what a tag began. -/
  | finish (s : Sequel)
  /-- Run what was printed. -/
  | runPrinted (position : Position)
  /-- Evaluate what was printed, and print the value unless it is silent. -/
  | evaluate (isSilent : Bool) (position : Position)
  /-- Run code for every match in what was printed. -/
  | replace (regex : Regex) (code : Passage) (position : Position)
  /-- Put what was printed in place of parts of a text, and print the text. -/
  | join (text : String) (spans : List (Nat × Nat))
  /-- Begin the code for a match. -/
  | enterMatch (m : Regex.Match)
  /-- End the code for a match. -/
  | leaveMatch

namespace Deferred

/-- The number of results that an action uses up. -/
def uses : Deferred → Nat
  | callTag _ _ slots | callSubroutine _ _ slots => slots.countP (·.isEvaluated)
  | define .. | runPrinted .. | evaluate .. | replace .. => 1
  | join _ spans => spans.length
  | _ => 0

end Deferred

/-! ## Frames -/

/-- A piece of code that has begun. -/
structure Frame where
  id : Nat
  reader : Reader
  /-- Whether the frame prints to an output of its own, not to that of the frame below. -/
  owns : Bool
  /-- The number of results when the frame began. -/
  mark : Nat
  /-- What is done before the next token is read, the first action first. -/
  pre : List Deferred
  /-- What is done at the end of the tokens, the first action first. -/
  post : List Deferred

/-- All that is still going to be done in a frame, besides its tokens. -/
def Frame.pending (f : Frame) : List Deferred := f.pre ++ f.post

end Wordsmith
