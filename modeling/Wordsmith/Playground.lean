import Wordsmith.Engine

/-!
# The playground

The playground is for trying patterns out. It keeps one engine, and gives every run the seed behind
that of the run before.
-/

namespace Wordsmith

/-- An engine with the seed of its next run. -/
structure Playground where
  engine : Engine
  seed : UInt64

namespace Playground

/-- The most characters that a run may write. -/
def charLimit : Nat := 100000

/-- How the patterns that are tried out are called. -/
def patternName : String := "playground"

/-- A playground before its first run. -/
def build (seed : UInt64) (v : Vocabulary) : Playground :=
  let config := { Config.standard with seed := seed, charLimit := some charLimit }
  ⟨.build config v .empty, seed⟩

/-- Runs a source: the seed and the output. A source that cannot be compiled uses no seed up. -/
def run (p : Playground) (source : String) : Except RunError (UInt64 × Output) × Playground :=
  match Pattern.compile patternName source with
  | .error e => (.error (.lex e), p)
  | .ok pattern =>
    let (result, engine) := p.engine.run pattern (.ofSeed p.seed)
    (result.map (p.seed, ·), ⟨engine, p.seed + 1⟩)

/-- Sets a flag. -/
def define (p : Playground) (flag : String) : Playground := { p with engine := p.engine.define flag }

/-- Whether a flag is set. -/
def isDefined (p : Playground) (flag : String) : Bool := p.engine.isDefined flag

/-- Runs a source with an engine of its own: the seed and the output. -/
def runOnce (source : String) (seed : UInt64) : Except RunError (UInt64 × Output) :=
  let engine := Engine.build { Config.standard with seed := seed } .empty .empty
  (engine.runSource patternName source (.ofSeed seed)).1.map (seed, ·)

end Playground

end Wordsmith
