import GrammarMachine.Command.Basic

/-!
Directories in memory: files by their paths, and how a path is followed from the directory. What
lies outside the directory is not known.
-/

namespace GrammarMachine.Command

/-- The files below a directory, by the names that lead to them. -/
abbrev Directory := List (List String × ByteArray)

namespace Directory

/-- The steps of a path. A path that ends with a slash ends with an empty step. -/
def steps (path : String) : List String :=
  path.splitOn "/"

/-- The directory with the files of the given paths. -/
def ofPaths (files : List (String × ByteArray)) : Directory :=
  files.map fun (path, content) => (steps path, content)

/-- Whether a step stays where it is. -/
def isIdle (step : String) : Bool :=
  step = "" || step = "."

/-- Follows steps from a place below the directory. A file has nothing below it, not even itself,
and a name has at most 255 bytes. -/
def follow (d : Directory) : List String → List String → Except FileProblem ByteArray
  | _, [] => .error .directory
  | place, step :: rest =>
      if isIdle step then follow d place rest
      else if 255 < step.utf8ByteSize then .error .longName
      else if step = ".." then
        if place.isEmpty then
          .error (if rest.all fun step => isIdle step || step = ".." then .directory else .missing)
        else follow d place.dropLast rest
      else
        let place := place ++ [step]
        match d.lookup place with
        | some content => if rest.isEmpty then .ok content else .error .notDirectory
        | none => if d.any (place.isPrefixOf ·.1) then follow d place rest else .error .missing

/-- The longest path that can be followed, in bytes. -/
def pathLimit : Nat := 4095

/-- The files of the directory. An empty path leads nowhere, and of the paths from the root only
the root itself is known. -/
def read (d : Directory) : Files := fun path =>
  if path = "" then .error .missing
  else if pathLimit < path.utf8ByteSize then .error .longName
  else if path.front = '/' then
    .error (if (steps path).all isIdle then .directory else .missing)
  else d.follow [] (steps path)

end Directory

end GrammarMachine.Command
