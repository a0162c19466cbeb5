import Wordsmith.Channel.Basic
import Wordsmith.Limit

/-!
# Channel stacks

Text is written to several channels at once. Channels are visited on top of each other, over the
main channel, which is always there, and what a write reaches depends on the visibilities from the
top down: a private channel ends the walk, an internal one is reached only from internal ones, and
a write that reached a public channel also reaches the main channel.
-/

namespace Wordsmith

/-- The channels of one output and those that are being visited. -/
structure ChannelStack where
  /-- All channels, in the order of their creation; the main channel is the first. -/
  channels : Array Channel
  /-- The visited channels by their places, the latest visit first; the main channel is the
  last. -/
  visits : List Nat

/-- The texts of all channels, in the order of their creation. -/
structure Output where
  channels : List (String × String)

namespace Output

/-- The text of a channel. -/
def get? (o : Output) (name : String) : Option String := Named.lookup name o.channels

/-- The text of the main channel. -/
def main (o : Output) : String := (o.get? "main").getD ""

end Output

namespace ChannelStack

/-- The name of the main channel. -/
def mainName : String := "main"

/-- A main channel without text. -/
def initial : ChannelStack := ⟨#[.empty mainName .public], [0]⟩

/-- The place of a channel by its name. -/
def place? (s : ChannelStack) (name : String) : Option Nat :=
  s.channels.findIdx? fun c => c.name == name

/-- The text of the main channel. -/
def main (s : ChannelStack) : String := ((s.channels[0]?).map (·.value)).getD ""

/-- The name of a channel by its place. -/
def nameAt (s : ChannelStack) (i : Nat) : String := ((s.channels[i]?).map (·.name)).getD ""

/-- The visibility of a channel by its place. -/
def visibilityAt (s : ChannelStack) (i : Nat) : Visibility :=
  ((s.channels[i]?).map (·.visibility)).getD .public

/-! ## Visits -/

/-- Visits a channel, which is created if there is none of the name. The main channel is always
visited. -/
def push (s : ChannelStack) (name : String) (visibility : Visibility) : ChannelStack :=
  if name = mainName then s
  else match s.place? name with
    | some i =>
      { channels := s.channels.modify i fun c => { c with visibility := visibility }
        visits := if s.visits.contains i then s.visits else i :: s.visits }
    | none =>
      { channels := s.channels.push (.empty name visibility)
        visits := s.channels.size :: s.visits }

/-- Ends the visit of a channel, whose text is kept. -/
def pop (s : ChannelStack) (name : String) : ChannelStack :=
  if name = mainName then s
  else match s.place? name with
    | some i => { s with visits := s.visits.filter (· != i) }
    | none => s

/-- The channels that a write reaches, from the given visits down; `last` is the visibility of the
channel reached before. -/
def reached (s : ChannelStack) : Option Visibility → List Nat → List Nat
  | _, [] => []
  | last, i :: rest =>
    match s.visibilityAt i, last with
    | .private, some .public => if i = 0 then [i] else [i, 0]
    | .private, _ => [i]
    | .internal, some .public => [0]
    | .internal, _ => i :: s.reached (some .internal) rest
    | .public, some .internal => []
    | .public, _ => i :: s.reached (some .public) rest

/-- The channels that a write reaches, the latest visit first. -/
def active (s : ChannelStack) : List Nat := s.reached none s.visits

/-- The names of the channels that a write reaches. -/
def activeNames (s : ChannelStack) : List String := s.active.map s.nameAt

/-- The names of the visited channels, the main channel first. -/
def visitNames (s : ChannelStack) : List String := s.visits.reverse.map s.nameAt

/-- Changes every channel that a write reaches. -/
def modifyActive (s : ChannelStack) (f : Channel → Channel) : ChannelStack :=
  let active := s.active
  { s with channels := active.foldl (fun channels i => channels.modify i f) s.channels }

/-- Something of every channel that a write reaches. -/
def ofActive (s : ChannelStack) (f : Channel → α) : List α :=
  s.active.filterMap fun i => (s.channels[i]?).map f

/-! ## Writing -/

/-- Writes a text. It is formatted for each channel first, so that the cost of all is known and
nothing is written if the budget does not allow it. -/
def write (s : ChannelStack) (text : String) (b : Budget) :
    Except LimitExceeded (ChannelStack × Budget) :=
  if text.isEmpty then .ok (s, b)
  else
    match b.spend (total (s.ofActive fun c => (c.prepare text).cost)) with
    | .error e => .error e
    | .ok b => .ok (s.modifyActive (·.write text), b)

/-- Writes an article. -/
def writeArticle (s : ChannelStack) (b : Budget) :
    Except LimitExceeded (ChannelStack × Budget) :=
  match b.spend s.active.length with
  | .error e => .error e
  | .ok b => .ok (s.modifyActive (·.writeArticle), b)

/-- Writes to a target, behind its text or instead of it. -/
def writeTarget (s : ChannelStack) (name value : String) (overwrite : Bool) (b : Budget) :
    Except LimitExceeded (ChannelStack × Budget) :=
  match b.spend (total (s.ofActive fun c => c.targetCost name value overwrite)) with
  | .error e => .error e
  | .ok b => .ok (s.modifyActive (·.writeTarget name value overwrite), b)

/-- Sets the case mode. -/
def setMode (s : ChannelStack) (mode : CaseMode) : ChannelStack := s.modifyActive (·.setMode mode)

/-- Opens a target. -/
def createTarget (s : ChannelStack) (name : String) : ChannelStack :=
  s.modifyActive (·.createTarget name)

/-- Takes all text out of a target. -/
def clearTarget (s : ChannelStack) (name : String) : ChannelStack :=
  s.modifyActive (·.clearTarget name)

/-- Sets a marker. -/
def setMarker (s : ChannelStack) (name : String) : ChannelStack :=
  s.modifyActive (·.setMarker name)

/-! ## Reading -/

/-- The distance between two markers in the first reached channel that has both. -/
def distance? (s : ChannelStack) (a b : String) : Option Nat :=
  (s.ofActive (·.distance? a b)).findSome? id

/-- The text between two markers in the first reached channel that has both. -/
def region? (s : ChannelStack) (a b : String) : Option String :=
  (s.ofActive (·.region? a b)).findSome? id

/-- The characters of all channels together. -/
def size (s : ChannelStack) : Nat := total (s.channels.toList.map (·.length))

/-- The texts of all channels. -/
def output (s : ChannelStack) : Output := ⟨s.channels.toList.map fun c => (c.name, c.value)⟩

end ChannelStack

end Wordsmith
