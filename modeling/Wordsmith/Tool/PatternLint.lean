import Wordsmith.Lint
import Wordsmith.Tool.Files
import Wordsmith.Tool.Report

/-!
# The pattern lint tool

The tool checks pattern files without running them. It takes the paths of files and of folders, and
in folders it looks for pattern files at any depth.
-/

namespace Wordsmith.PatternLint

/-- How the tool is called. -/
def usage : String := "Usage: pattern_lint <file-or-dir>..."

/-- What is wrong with the text of a file: each finding with its severity. -/
def findings (path : String) : Except FileError String → List (Severity × String)
  | .error e => [(.error, s!"ERROR: {e.message}")]
  | .ok code =>
    match Pattern.compile path code with
    | .error e => [(.error, s!"ERROR: lex error: {e.message}")]
    | .ok p => (Lint.diagnose p).map fun d => (d.finding.severity, d.text)

/-- Checks files. -/
def check (files : List (String × Except FileError String)) : Report :=
  let found := files.flatMap fun (path, content) =>
    (findings path content).map fun (severity, text) => (severity, path ++ ": " ++ text)
  let errors := found.countP (·.1 = .error)
  let warnings := found.countP (·.1 = .warning)
  let summary := s!"Checked {files.length} files: {errors} errors, {warnings} warnings"
  ⟨if errors = 0 then 0 else 1, Report.lines (found.map (·.2) ++ ["", summary]), ""⟩

/-- Runs the tool where `find` tells what is at a path. -/
def run {m : Type → Type} [Monad m] (find : String → m (Except FileError FileTree))
    (args : List String) : m Report := do
  match args with
  | [] | "--help" :: _ | "-h" :: _ => return .success [usage]
  | _ =>
    let files : ExceptT Report m (List (List (String × Except FileError String))) :=
      args.mapM fun path => do
        match ← find path with
        | .error _ => throw (.failure s!"ERROR: Path '{path}' does not exist" [])
        | .ok t => return t.patterns path
    match ← files.run with
    | .error report => return report
    | .ok files => return check files.flatten

end Wordsmith.PatternLint
