import Wordsmith.Config.Basic
import Wordsmith.Machine.Run

/-!
# Engines

An engine runs patterns. Flags and subroutines live as long as the engine: what one run defines,
the next one finds, also if the run failed. Everything else of a run begins anew.
-/

namespace Wordsmith

/-- A configuration with a vocabulary and hooks, and what its runs have defined. -/
structure Engine where
  config : Config
  vocabulary : WordSource
  /-- The functions of the host. -/
  hooks : Named (List String → String)
  flags : List String
  subroutines : Named Subroutine

namespace Engine

/-- An engine before its first run. -/
def build (config : Config) (vocabulary : WordSource) (hooks : Named (List String → String)) :
    Engine :=
  ⟨config, vocabulary, hooks, config.flags.eraseDups, .empty⟩

/-- Whether a flag is set. -/
def isDefined (e : Engine) (flag : String) : Bool := e.flags.contains flag

/-- Sets a flag. -/
def define (e : Engine) (flag : String) : Engine :=
  if e.isDefined flag then e else { e with flags := flag :: e.flags }

/-- A subroutine that a run has defined. -/
def subroutine? (e : Engine) (name : String) : Option Subroutine := e.subroutines.get? name

/-- What runs of the engine are given. -/
def setting (e : Engine) : Setting where
  vocabulary := e.vocabulary
  hooks := e.hooks
  sentinel := e.config.sentinel
  strictQueries := e.config.strictQueries
  maxDepth := e.config.maxDepth
  shortcuts := .all

/-- What a run of the engine begins with. -/
def registers (e : Engine) (g : Generator) : Registers where
  generator := g
  repeaters := []
  attributes := .plain
  orders := .empty
  budget := .ofLimit e.config.charLimit
  elseArmed := false
  comparisons := []
  arguments := []
  matched := []
  carriers := .empty
  numberFormat := e.config.numberFormat
  flags := e.flags
  subroutines := e.subroutines

theorem idle_registers (e : Engine) (g : Generator) : (e.registers g).Idle :=
  ⟨rfl, rfl, rfl, rfl⟩

/-- Runs a pattern with a generator. -/
def run (e : Engine) (p : Pattern) (g : Generator) : Except RunError Output × Engine :=
  let outcome := Machine.runPassage e.setting (e.registers g) (e.idle_registers g) p.passage
  (outcome.result, { e with flags := outcome.flags, subroutines := outcome.subroutines })

/-- Compiles a source and runs it with a generator. -/
def runSource (e : Engine) (name source : String) (g : Generator) :
    Except RunError Output × Engine :=
  match Pattern.compile name source with
  | .ok p => e.run p g
  | .error error => (.error (.lex error), e)

/-- Runs a pattern with an engine of its own. -/
def runAlone (p : Pattern) (g : Generator) (charLimit : Option Nat) : Except RunError Output :=
  ((build { Config.standard with charLimit := charLimit } .empty .empty).run p g).1

end Engine

end Wordsmith
