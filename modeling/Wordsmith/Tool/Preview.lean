import Wordsmith.Config.Ron
import Wordsmith.Engine
import Wordsmith.Tool.Files
import Wordsmith.Tool.Report

/-!
# The preview tool

The tool runs a pattern and prints every channel. Several runs share an engine, and each takes the
seed behind that of the run before.
-/

namespace Wordsmith.Preview

/-- How the tool is called. -/
def usage : String :=
  "Usage: preview (<file> | -e <pattern>) [--seed <n>] [--config <file.ron>] [--runs <n>]"

/-- What the arguments ask for. -/
structure Request where
  /-- The pattern, once one was given. -/
  source : Option String
  /-- The name of the pattern. -/
  name : String
  seed : Option UInt64
  /-- The path of the configuration file. -/
  config : Option String
  runs : Nat

namespace Request

/-- The request of no arguments. -/
def empty : Request := ⟨none, "inline", none, none, 1⟩

end Request

variable {m : Type → Type} [Monad m]

/-- The report on an argument that is none. -/
def unknown (argument : String) : Report :=
  ⟨1, Report.lines [usage], Report.lines ["Unknown argument: " ++ argument]⟩

/-- Reads a file whose path is an argument. -/
def readPattern (find : String → m (Except FileError FileTree)) (path : String) :
    ExceptT Report m String := do
  match (← find path).bind FileTree.read with
  | .ok text => return text
  | .error e => throw (.failure s!"ERROR: Failed to read '{path}': {e.message}" [])

/-- Reads arguments one by one. What counts is the last one of each kind, but a file is taken only
as long as there is no pattern. -/
def read (find : String → m (Except FileError FileTree)) (q : Request) :
    List String → ExceptT Report m Request
  | [] => return q
  | "-e" :: source :: rest => read find { q with source := some source } rest
  | "--seed" :: text :: rest =>
    match Text.word? text with
    | some n => read find { q with seed := some (.ofNat n) } rest
    | none => throw (.failure ("Invalid seed: " ++ text) [])
  | "--config" :: path :: rest => read find { q with config := some path } rest
  | "--runs" :: text :: rest => read find { q with runs := max 1 ((Text.word? text).getD 1) } rest
  | argument :: rest =>
    if argument.toList.head? = some '-' ∨ q.source.isSome then throw (unknown argument)
    else do
      let text ← readPattern find argument
      read find { q with source := some text, name := argument } rest

/-- Reads the configuration file, if one was asked for. -/
def readConfig (find : String → m (Except FileError FileTree)) (q : Request) :
    ExceptT Report m Config := do
  match q.config with
  | none => return .standard
  | some path =>
    match (← find path).bind FileTree.read with
    | .error e => throw (.failure s!"ERROR: config error: IO error: {e.message}" [])
    | .ok text =>
      match Config.ofRon? text with
      | some c => return c
      | none => throw (.failure "ERROR: config error: RON error: not a configuration" [])

/-- The lines that show an output. -/
def channelLines (o : Output) : List String :=
  o.channels.map fun (name, text) => if name = "main" then text else s!"[{name}] {text}"

/-- Runs a pattern as many more times, each with the seed behind the one before; `titled` tells
whether the outputs are shown with their seeds, and `shown` holds the lines so far. -/
def runAll (p : Pattern) (titled : Bool) : Nat → UInt64 → Engine → List String → Report
  | 0, _, _, shown => .success shown
  | left + 1, seed, e, shown =>
    match e.run p (.ofSeed seed) with
    | (.error error, _) => .failure s!"ERROR (seed {seed}): {error.message}" shown
    | (.ok o, e) =>
      let title := if titled then [s!"--- seed {seed} ---"] else []
      runAll p titled left (seed + 1) e (shown ++ title ++ channelLines o)

/-- Runs the tool where `find` tells what is at a path. -/
def run (find : String → m (Except FileError FileTree)) (args : List String) : m Report := do
  match args with
  | [] | "--help" :: _ | "-h" :: _ => return .success [usage]
  | _ =>
    let report : ExceptT Report m Report := do
      let q ← read find .empty args
      let some source := q.source | throw ⟨1, Report.lines [usage], ""⟩
      let c ← readConfig find q
      let c := { c with seed := q.seed.getD c.seed }
      match Pattern.compile q.name source with
      | .error e => throw (.failure s!"ERROR: lex error: {e.message}" [])
      | .ok p => return runAll p (1 < q.runs) q.runs c.seed (.build c .empty .empty) []
    match ← report.run with
    | .ok r | .error r => return r

end Wordsmith.Preview
