import Wordsmith.Text.CharSet
import Wordsmith.Text.Script.AtoK
import Wordsmith.Text.Script.LtoR
import Wordsmith.Text.Script.Shared
import Wordsmith.Text.Script.StoZ

/-!
# Scripts

A character belongs to one script. Characters that several scripts use belong to the common or the
inherited one, and the extensions of a script take them in.
-/

namespace Wordsmith.Regex.Property

open Text Text.Script

/-- The scripts with their names as they are compared. -/
def scripts : List (List String × List Stride) := scriptsAtoK ++ scriptsLtoR ++ scriptsStoZ

/-- The characters of a script. -/
def script? (name : String) : Option CharSet :=
  (scripts.find? (·.1.contains name)).map fun (_, table) => .ofTable table

/-- The characters that a script uses, whether or not they are its own. -/
def extendedScript? (name : String) : Option CharSet :=
  (scripts.find? (·.1.contains name)).map fun (names, table) =>
    let shared := CharSet.unions (sharedCharacters.map fun (codes, _) => .ofTable codes)
    let used := sharedCharacters.filter fun (_, users) => users.any names.contains
    .union (.diff (.ofTable table) shared) (.unions (used.map fun (codes, _) => .ofTable codes))

end Wordsmith.Regex.Property
