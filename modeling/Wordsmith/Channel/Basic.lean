import Wordsmith.Article
import Wordsmith.Casing
import Wordsmith.Named
import Wordsmith.Total

/-!
# Channels

A channel is a text that is written at its end and, later, at places that were left open. It is
kept as a row of chunks that never move: opening a target closes the current chunk, puts a chunk
for the target behind it and goes on in a third one. An article is a chunk of its own as well, and
is printed anew whenever the chunk behind it begins with another word. Text for a target that is
not open yet waits in a queue.

What a write adds can be known beforehand: the characters of the formatted text, and those by which
the article before it grows.
-/

namespace Wordsmith

open Text

/-- Which channels a write reaches while a channel is visited. -/
inductive Visibility where
  | «public»
  | «private»
  | internal
deriving DecidableEq, Repr

namespace Visibility

/-- The name of a visibility. -/
def name : Visibility → String
  | «public» => "public"
  | «private» => "private"
  | internal => "internal"

/-- Reads a visibility by its name, in any case of letters, or says what is wrong. -/
def ofText (s : String) : Except String Visibility :=
  match asciiLower (trimmed s) with
  | "public" => .ok «public»
  | "private" => .ok «private»
  | "internal" => .ok internal
  | other => .error s!"invalid channel visibility '{other}'"

end Visibility

/-- A place in a channel: a chunk and the characters of it that stand before the place. -/
structure Marker where
  chunk : Nat
  offset : Nat
deriving DecidableEq, Repr

namespace Marker

/-- Whether a place is not behind another. -/
def le (a b : Marker) : Bool := a.chunk < b.chunk || (a.chunk == b.chunk && a.offset ≤ b.offset)

end Marker

/-- A text of chunks with its targets, articles and markers. -/
structure Channel where
  name : String
  visibility : Visibility
  /-- The text in pieces. -/
  chunks : Array String
  /-- The chunk that is written at the end. -/
  current : Nat
  /-- The chunks of the targets that are open. -/
  targets : Named Nat
  /-- The texts of the targets that are not open yet. -/
  queued : Named String
  /-- The chunks that stand behind an article; the article is the chunk before. -/
  articles : List Nat
  markers : Named Marker
  cursor : CaseCursor
  /-- The characters of all chunks together. -/
  length : Nat

/-- A text that is formatted for a channel but not yet in it. -/
structure PendingWrite where
  text : String
  /-- The cursor behind the text. -/
  cursor : CaseCursor
  /-- The characters that the article before it will gain. -/
  articleGrowth : Nat

namespace PendingWrite

/-- The characters that the write adds to its channel. -/
def cost (p : PendingWrite) : Nat := p.text.length + p.articleGrowth

end PendingWrite

namespace Channel

/-- A channel without text. -/
def empty (name : String) (visibility : Visibility) : Channel :=
  ⟨name, visibility, #[""], 0, .empty, .empty, [], .empty, .start, 0⟩

/-- The text of a chunk. -/
def chunk (c : Channel) (i : Nat) : String := c.chunks.getD i ""

/-- The whole text. -/
def value (c : Channel) : String := String.join c.chunks.toList

/-- The case mode in force. -/
def mode (c : Channel) : CaseMode := c.cursor.mode

/-- Sets the case mode. -/
def setMode (c : Channel) (mode : CaseMode) : Channel :=
  { c with cursor := c.cursor.setMode mode }

/-- Puts a chunk behind all others. -/
def pushChunk (c : Channel) (text : String) : Channel :=
  { c with chunks := c.chunks.push text, length := c.length + text.length }

/-! ## Articles -/

/-- The form owed to the article before a chunk if that reads `following`, unless the chunk is
behind none or has no word. -/
def articleForm? (c : Channel) (after : Nat) (following : String) : Option String :=
  if c.articles.contains after then
    (Article.before? following.toList).map (Article.inCaseOf (c.chunk (after - 1)))
  else none

/-- The characters that the article before a chunk gains if that reads `following`. -/
def articleGrowth (c : Channel) (after : Nat) (following : String) : Nat :=
  match c.articleForm? after following with
  | some form => form.length - (c.chunk (after - 1)).length
  | none => 0

/-- Prints the article before a chunk anew. -/
def refreshArticle (c : Channel) (after : Nat) : Channel :=
  match c.articleForm? after (c.chunk after) with
  | some form =>
    let length := c.length + form.length - (c.chunk (after - 1)).length
    { c with chunks := c.chunks.setIfInBounds (after - 1) form, length := length }
  | none => c

/-- Prints an article whose form will follow the next word. -/
def writeArticle (c : Channel) : Channel :=
  let (printed, cursor) := c.cursor.apply "a"
  let c := ({ c with cursor := cursor }.pushChunk printed).pushChunk ""
  { c with current := c.chunks.size - 1, articles := (c.chunks.size - 1) :: c.articles }

/-! ## Writing at the end -/

/-- Formats a text for the end of the channel. -/
def prepare (c : Channel) (text : String) : PendingWrite :=
  let (printed, cursor) := c.cursor.apply text
  let growth :=
    if c.articles.contains c.current then
      c.articleGrowth c.current (c.chunk c.current ++ printed)
    else 0
  ⟨printed, cursor, growth⟩

/-- Puts text behind a chunk. -/
def appendTo (c : Channel) (i : Nat) (text : String) : Channel :=
  { c with chunks := c.chunks.modify i (· ++ text), length := c.length + text.length }

/-- Empties a chunk. -/
def clearChunk (c : Channel) (i : Nat) : Channel :=
  let length := c.length - (c.chunk i).length
  { c with chunks := c.chunks.setIfInBounds i "", length := length }

/-- Puts a formatted text at the end of the channel. -/
def commit (c : Channel) (p : PendingWrite) : Channel :=
  let c := { c with cursor := p.cursor }
  if p.text.isEmpty then c else (c.appendTo c.current p.text).refreshArticle c.current

/-- Writes a text at the end of the channel. -/
def write (c : Channel) (text : String) : Channel :=
  if text.isEmpty then c else c.commit (c.prepare text)

/-! ## Targets -/

/-- Opens a target at the end of the channel, with the text that waits for it. -/
def createTarget (c : Channel) (name : String) : Channel :=
  let text := (c.queued.get? name).getD ""
  let target := c.chunks.size
  let c := (c.pushChunk text).pushChunk ""
  { c with
    queued := c.queued.erase name
    targets := c.targets.insert name target
    current := target + 1 }

/-- The characters that a write to a target adds, the growth of an article included. -/
def targetCost (c : Channel) (name value : String) (overwrite : Bool) : Nat :=
  let growth := match c.targets.get? name with
    | some i => c.articleGrowth i (if overwrite then value else c.chunk i ++ value)
    | none => 0
  value.length + growth

/-- Writes to a target, behind its text or instead of it. -/
def writeTarget (c : Channel) (name value : String) (overwrite : Bool) : Channel :=
  match c.targets.get? name with
  | some i =>
    let c := if overwrite then c.clearChunk i else c
    (c.appendTo i value).refreshArticle i
  | none =>
    let waiting := if overwrite then "" else (c.queued.get? name).getD ""
    { c with queued := c.queued.insert name (waiting ++ value) }

/-- Takes all text out of a target. -/
def clearTarget (c : Channel) (name : String) : Channel :=
  match c.targets.get? name with
  | some i => c.clearChunk i
  | none => { c with queued := c.queued.modify name fun _ => "" }

/-! ## Markers -/

/-- Marks the end of the channel. -/
def setMarker (c : Channel) (name : String) : Channel :=
  { c with markers := c.markers.insert name ⟨c.current, (c.chunk c.current).length⟩ }

/-- A marker. -/
def marker? (c : Channel) (name : String) : Option Marker := c.markers.get? name

/-- Two markers, the earlier one first. -/
def ordered? (c : Channel) (a b : String) : Option (Marker × Marker) :=
  (c.marker? a).bind fun m => (c.marker? b).map fun n => if m.le n then (m, n) else (n, m)

/-- The chunks strictly between two. -/
def between (c : Channel) (first last : Nat) : List String :=
  (c.chunks.extract (first + 1) last).toList

/-- The number of characters between two markers. -/
def distance? (c : Channel) (a b : String) : Option Nat :=
  (c.ordered? a b).map fun (start, stop) =>
    if start.chunk = stop.chunk then stop.offset - start.offset
    else
      (c.chunk start.chunk).length - start.offset +
        total ((c.between start.chunk stop.chunk).map (·.length)) + stop.offset

/-- The text between two markers. -/
def region? (c : Channel) (a b : String) : Option String :=
  (c.ordered? a b).map fun (start, stop) =>
    if start.chunk = stop.chunk then
      .ofList (((c.chunk start.chunk).toList.take stop.offset).drop start.offset)
    else
      .ofList ((c.chunk start.chunk).toList.drop start.offset) ++
        String.join (c.between start.chunk stop.chunk) ++
        .ofList ((c.chunk stop.chunk).toList.take stop.offset)

end Channel

end Wordsmith
