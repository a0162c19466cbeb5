import Wordsmith.Tool.PatternLint
import Wordsmith.Tool.Preview

/-!
# The command line

The first argument names the tool, and the tool gets the others.
-/

namespace Wordsmith.CommandLine

/-- What kind of file error the system reports. -/
def fileError : IO.Error → FileError
  | .noFileOrDirectory .. => .missing
  | e => .other (toString e)

/-- What is at a path of the file system. -/
partial def find (path : String) : IO (Except FileError FileTree) := do
  let place : IO.FS.DirEntry := ⟨path, ""⟩
  if ← place.root.isDir then
    let entries ← place.root.readDir
    let trees ← entries.toList.filterMapM fun e => do
      match ← find (FileTree.join path e.fileName) with
      | .ok t => return some (e.fileName, t)
      | .error _ => return none
    return .ok (.folder trees)
  else
    try
      return .ok (.file (.ok (← IO.FS.readFile path)))
    catch e =>
      match fileError e with
      | .missing => return .error .missing
      | e => return .ok (.file (.error e))

/-- Runs the tool of a name. -/
def run (tool : String) (args : List String) : IO Report :=
  match tool with
  | "preview" => Preview.run find args
  | "pattern_lint" => PatternLint.run find args
  | _ => return .failure "The first argument is preview or pattern_lint" []

end Wordsmith.CommandLine

/-- Runs a tool and reports. -/
def main (args : List String) : IO UInt32 := do
  let report ← Wordsmith.CommandLine.run (args.headD "") args.tail
  IO.print report.output
  IO.eprint report.errors
  return report.code
