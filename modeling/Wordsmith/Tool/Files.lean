/-!
# Files of the tools

The tools see of a file system only what is at a path: a file with its text or a folder with all
that is in it. A tree of files can therefore stand for a file system.
-/

namespace Wordsmith

/-- Why there is nothing to read at a path. -/
inductive FileError where
  | missing
  /-- A folder stands where a file was asked for. -/
  | isFolder
  /-- A file stands where a folder was asked for. -/
  | notFolder
  | other (message : String)
deriving DecidableEq, Repr

/-- The text of a file error. -/
def FileError.message : FileError → String
  | missing => "No such file or directory (os error 2)"
  | isFolder => "Is a directory (os error 21)"
  | notFolder => "Not a directory (os error 20)"
  | other message => message

/-- A file, whose text may be unreadable, or a folder. -/
inductive FileTree where
  | file (content : Except FileError String)
  | folder (entries : List (String × FileTree))

namespace FileTree

/-- The text of a file. -/
def read : FileTree → Except FileError String
  | file content => content
  | folder _ => .error .isFolder

/-- What is in a folder. -/
def entries : FileTree → List (String × FileTree)
  | file _ => []
  | folder entries => entries

/-! ## Trees by paths -/

/-- The tree with a file at the end of some names; folders on the way are made. -/
def insert (content : String) : List String → FileTree → FileTree
  | [], _ => .file (.ok content)
  | name :: rest, t =>
    if t.entries.any (·.1 == name) then
      .folder (t.entries.map fun e => if e.1 = name then (name, insert content rest e.2) else e)
    else .folder (t.entries ++ [(name, insert content rest (.folder []))])

/-- The tree of files with paths. -/
def ofFiles (files : List (String × String)) : FileTree :=
  files.foldl (fun t (path, content) => t.insert content (path.splitOn "/")) (.folder [])

/-- What is at the end of some names; `above` holds the folders around, the nearest first. -/
def follow (above : List FileTree) (here : FileTree) :
    List String → Except FileError FileTree
  | [] => .ok here
  | name :: rest =>
    match here with
    | .file _ => .error .notFolder
    | .folder entries =>
      if name = "" ∨ name = "." then follow above here rest
      else if name = ".." then
        match above with
        | [] => .error .missing
        | up :: above => follow above up rest
      else
        match entries.lookup name with
        | some next => follow (here :: above) next rest
        | none => .error .missing

/-- What is at a path below the tree. -/
def find? (t : FileTree) (path : String) : Except FileError FileTree :=
  if path = "" ∨ path.toList.head? = some '/' then .error .missing
  else follow [] t (path.splitOn "/")

/-! ## Pattern files -/

/-- What stands behind the last point of a name, if anything stands before it. -/
def extension? (name : String) : Option String :=
  let cs := name.toList.reverse
  match cs.dropWhile (· != '.') with
  | _ :: _ :: _ => some (.ofList (cs.takeWhile (· != '.')).reverse)
  | _ => none

/-- Whether the name is that of a pattern file. -/
def isPatternName (name : String) : Bool :=
  extension? name == some "pattern" || extension? name == some "txt"

/-- The path of what is in a folder. -/
def join (path name : String) : String :=
  if path.toList.getLast? = some '/' then path ++ name else path ++ "/" ++ name

mutual

/-- The files below a path that can hold patterns, with their paths and texts. A file is taken
whatever its name, if it was asked for. -/
def patterns (path : String) : FileTree → List (String × Except FileError String)
  | file content => [(path, content)]
  | folder entries => patternsIn path entries

/-- The pattern files among what is in a folder. -/
def patternsIn (path : String) :
    List (String × FileTree) → List (String × Except FileError String)
  | [] => []
  | (name, file content) :: rest =>
    (if isPatternName name then [(join path name, content)] else []) ++ patternsIn path rest
  | (name, folder entries) :: rest => patternsIn (join path name) entries ++ patternsIn path rest

end

end FileTree

end Wordsmith
