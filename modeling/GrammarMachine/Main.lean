import GrammarMachine.Command.Basic

/-!
The command line. Files are read here; everything else is decided by the command.
-/

open GrammarMachine Command

/-- The problem that the system reports with a number, which may be negated. -/
def problemOf (code : UInt32) (details : String) : FileProblem :=
  match if code < 0x80000000 then code else 0 - code with
  | 2 => .missing
  | 20 => .notDirectory
  | 21 => .directory
  | 36 => .longName
  | _ => .other details

def readContent (path : String) : IO (Except FileProblem ByteArray) := do
  try
    return .ok (← IO.FS.readBinFile path)
  catch
    | .noFileOrDirectory _ code details => return .error (problemOf code details)
    | .inappropriateType _ code details => return .error (problemOf code details)
    | .invalidArgument _ code details => return .error (problemOf code details)
    | problem => return .error (.other (toString problem))

def readFiles (request : Request) : IO Files := do
  let contents ← request.paths.mapM fun path => return (path, ← readContent path)
  return fun path => (contents.lookup path).getD (.error .missing)

def main (arguments : List String) : IO UInt32 := do
  match Request.ofArguments? arguments with
  | none =>
      IO.eprintln <| "usage: tagvm parse PATH [-l NAME] [-f FORMAT] [-c FILE]" ++
        " | list-formats | list-languages"
      return 2
  | some request =>
      match answer (← readFiles request) request with
      | .ok text =>
          IO.print text
          return 0
      | .error failure =>
          let kind := if failure.isBreakdown then "Breakdown: " else "Error: "
          IO.eprintln (kind ++ failure.message)
          return failure.exitCode.toUInt32
