/-!
# Reports of the tools

A tool ends with an exit code, and it writes lines to its output and to its errors.
-/

namespace Wordsmith

/-- What a tool leaves behind. -/
structure Report where
  /-- The exit code. -/
  code : UInt32
  output : String
  errors : String
deriving DecidableEq, Repr

namespace Report

/-- Lines, each with its end. -/
def lines (ls : List String) : String := String.join (ls.map (· ++ "\n"))

/-- The report of a tool that was successful. -/
def success (output : List String) : Report := ⟨0, lines output, ""⟩

/-- The report of a tool that failed with a message, after some output. -/
def failure (message : String) (output : List String) : Report :=
  ⟨1, lines output, lines [message]⟩

end Report

end Wordsmith
