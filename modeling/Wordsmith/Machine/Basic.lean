import Wordsmith.Machine.Call

/-!
# Machines

A machine is a place in a run: the frames, the outputs of those that own one, the results of those
that are over, and the registers. The innermost frame is the one that runs, and it prints to the
innermost output. There are never more frames than the setting allows.
-/

namespace Wordsmith

/-- A block that was read and the index behind it. -/
structure ReadBlock where
  block : Block
  stop : Nat

/-- A place in a run under a setting. -/
structure Machine (s : Setting) where
  /-- The frames, the innermost first. -/
  frames : List Frame
  frames_le : frames.length ≤ s.maxDepth
  /-- The outputs of the frames that own one, the innermost first. -/
  outputs : List ChannelStack
  /-- What the frames printed that are over, the last one first. -/
  results : List Output
  registers : Registers
  /-- The blocks that were read, by their patterns and the indices of their openers. -/
  blocks : List ((Pattern × Nat) × ReadBlock)
  /-- The place of the token that is being run. -/
  position : Position
  /-- The next id of a frame or a repeater. -/
  nextId : Nat

/-- The registers after an action that is given up: what it would have undone is undone. -/
def Registers.undo (r : Registers) : Deferred → Registers
  | .dropArguments => { r with arguments := r.arguments.tail }
  | .finish .merge => r.mergeBranch
  | .finish .dropComparison => { r with comparisons := r.comparisons.tail }
  | .restore id => r.modifyRepeater id (·.restore)
  | .iterate id => r.removeRepeater id
  | .enterMatch m => { r with matched := m :: r.matched }
  | .leaveMatch => { r with matched := r.matched.tail }
  | _ => r

namespace Machine

variable {s : Setting} {α : Type}

/-- The machine before its first frame. -/
def initial (s : Setting) (registers : Registers) : Machine s where
  frames := []
  frames_le := Nat.zero_le _
  outputs := []
  results := []
  registers := registers
  blocks := []
  position := .nowhere
  nextId := 1

/-- The innermost frame. -/
def top? (m : Machine s) : Option Frame := m.frames.head?

/-- The name of the pattern that is running. -/
def patternName (m : Machine s) : String :=
  (m.top?.map (·.reader.passage.pattern.name)).getD ""

/-- The code of the pattern that is running. -/
def patternCode (m : Machine s) : String :=
  (m.top?.map (·.reader.passage.pattern.code)).getD ""

/-- A fault at the current place. -/
def fault (m : Machine s) (f : Fault) : RunError := .fault m.patternName m.position f

/-- The output that is being printed to. -/
def output (m : Machine s) : ChannelStack := m.outputs.headD .initial

/-- Moves on to a place in the pattern. -/
def moveTo (m : Machine s) (position : Position) : Machine s := { m with position := position }

/-- Changes the registers. -/
def change (m : Machine s) (f : Registers → Registers) : Machine s :=
  { m with registers := f m.registers }

/-- Changes the innermost frame. -/
def modifyTop (m : Machine s) (f : Frame → Frame) : Machine s :=
  { m with
    frames := m.frames.modifyHead f
    frames_le := by simpa using m.frames_le }

/-- Puts an action in front of all that the innermost frame is going to do. -/
def defer (m : Machine s) (action : Deferred) : Machine s :=
  m.modifyTop fun f => { f with pre := action :: f.pre }

/-! ## Acts -/

/-- The result of an act and the machine after it. The parts of the machine are taken apart before
the act, so that it can change them in place. -/
def act (m : Machine s) (a : Act α) : Except RunError (α × Machine s) :=
  let name := m.patternName
  match m with
  | ⟨frames, frames_le, outputs, results, registers, blocks, position, nextId⟩ =>
    let (output, others) := match outputs with
      | [] => (ChannelStack.initial, [])
      | output :: others => (output, others)
    match a.run ⟨registers, output⟩ with
    | .error e => .error (.fault name position e)
    | .ok (x, ⟨registers, output⟩) =>
      .ok (x, ⟨frames, frames_le, output :: others, results, registers, blocks, position,
        nextId⟩)

/-- The machine after an act. -/
def perform (m : Machine s) (a : Act Unit) : Except RunError (Machine s) := return (← m.act a).2

/-- The result of a scan of the innermost frame's tokens and the machine after it. -/
def scan (m : Machine s) (r : Scan α) : Except RunError (α × Machine s) :=
  match m.top? with
  | none => .error (.scope (.unexpectedEnd "text"))
  | some f =>
    match r.run f.reader with
    | (.error e, _) => .error (.scope e)
    | (.ok x, reader) => .ok (x, m.modifyTop fun f => { f with reader := reader })

/-! ## Frames -/

/-- Begins a passage in a new frame, with actions before and after its tokens. The frame has an
output of its own if `owns` is set. -/
def push (m : Machine s) (p : Passage) (owns : Bool) (pre post : List Deferred) :
    Except RunError (Machine s) :=
  match h : checkDepth s.maxDepth (m.frames.length + 1) with
  | .error e => .error (m.fault (.exceeded e))
  | .ok () =>
    .ok { m with
      frames := ⟨m.nextId, .ofPassage p, owns, m.results.length, pre, post⟩ :: m.frames
      frames_le := le_of_checkDepth h
      outputs := if owns then .initial :: m.outputs else m.outputs
      nextId := m.nextId + 1 }

/-- Begins a passage, if there is one, that prints to the same output, with actions before and after
its tokens. -/
def pushAny (m : Machine s) (p : Option Passage) (pre post : List Deferred) :
    Except RunError (Machine s) :=
  match p with
  | some p => m.push p false pre post
  | none => return m

/-- Begins a passage that prints to the same output. -/
def run (m : Machine s) (p : Passage) : Except RunError (Machine s) := m.push p false [] []

/-- Begins passages that print to outputs of their own, one after the other. -/
def runApart (m : Machine s) (ps : List Passage) : Except RunError (Machine s) :=
  ps.reverse.foldlM (fun m p => m.push p true [] []) m

/-- Ends the innermost frame. If it owns an output, that becomes a result. -/
def pop (m : Machine s) : Machine s :=
  let owned := m.top?.any (·.owns)
  { m with
    frames := m.frames.tail
    frames_le := by
      have := m.frames_le
      simp only [List.length_tail]
      omega
    outputs := if owned then m.outputs.tail else m.outputs
    results := if owned then m.output.output :: m.results else m.results }

/-! ## Results -/

/-- What the last frame printed to its main channel, and the machine without that result. -/
def takeResult (m : Machine s) : String × Machine s :=
  ((m.results.head?.map (·.main)).getD "", { m with results := m.results.tail })

/-- What the last `n` frames printed to their main channels, in the order of the frames, and the
machine without those results. -/
def takeResults (m : Machine s) (n : Nat) : List String × Machine s :=
  (((m.results.take n).map (·.main)).reverse, { m with results := m.results.drop n })

/-! ## Leaving a block -/

/-- The registers after the actions of frames that are given up, the innermost frame first. -/
def giveUp (r : Registers) (frames : List Frame) : Registers :=
  (frames.flatMap fun f => f.pre ++ f.post).foldl Registers.undo r

/-- Ends the innermost repeater, and gives up all frames above the one that its block is in. -/
def leave (m : Machine s) : Machine s :=
  match m.registers.repeaters with
  | [] => m
  | r :: others =>
    let registers := { m.registers with repeaters := r.finish :: others }
    match m.frames.findIdx? (·.id == r.base) with
    | none => { m with registers := registers }
    | some n =>
      let dropped := m.frames.take n
      { m with
        frames := m.frames.drop n
        frames_le := by
          have := m.frames_le
          simp only [List.length_drop]
          omega
        outputs := m.outputs.drop (dropped.countP (·.owns))
        results := match dropped.getLast? with
          | some f => m.results.drop (m.results.length - f.mark)
          | none => m.results
        registers := giveUp registers dropped }

end Machine

end Wordsmith
