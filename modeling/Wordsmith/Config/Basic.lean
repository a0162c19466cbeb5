import Wordsmith.Numeral

/-!
# Configurations

A configuration is what an engine is built from, apart from its vocabulary and its hooks.
-/

namespace Wordsmith

/-- The settings of an engine. -/
structure Config where
  /-- The seed of runs that are given none. -/
  seed : UInt64
  /-- The most frames of a run. -/
  maxDepth : Nat
  /-- The most characters that a run may write, unless there is no limit. -/
  charLimit : Option Nat
  /-- The milliseconds that a run may take, unless there is no limit. -/
  timeout : Option Nat
  /-- What is printed for a query that finds nothing. -/
  sentinel : String
  /-- Whether a query that finds nothing ends the run. -/
  strictQueries : Bool
  /-- The number format that runs begin with. -/
  numberFormat : NumberFormat
  /-- The flags that are set before the first run. -/
  flags : List String
deriving DecidableEq, Repr

/-- The settings of an engine that is given none. -/
def Config.standard : Config where
  seed := 0
  maxDepth := 1000
  charLimit := none
  timeout := none
  sentinel := "<MISSING>"
  strictQueries := false
  numberFormat := .normal
  flags := []

end Wordsmith
