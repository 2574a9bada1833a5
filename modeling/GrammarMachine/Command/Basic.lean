import GrammarMachine.Builtin.Basic
import GrammarMachine.Command.Arguments
import GrammarMachine.Draft.Basic
import GrammarMachine.Machine.Step
import GrammarMachine.Settings.Basic

/-!
The command: it parses a file with a built-in language and shows the tags.
-/

namespace GrammarMachine.Command

/-- Why a file cannot be read. -/
inductive FileProblem where
  | missing
  | directory
  | notDirectory
  | longName
  | notText
  | other (reason : String)

def FileProblem.message : FileProblem → String
  | .missing => "No such file or directory (os error 2)"
  | .directory => "Is a directory (os error 21)"
  | .notDirectory => "Not a directory (os error 20)"
  | .longName => "File name too long (os error 36)"
  | .notText => "stream did not contain valid UTF-8"
  | .other reason => reason

/-- The contents of the files that a command can read. -/
abbrev Files := String → Except FileProblem ByteArray

/-- Why a command fails. -/
inductive Failure where
  | settings (error : SettingsError)
  | unknownLanguage (name : String)
  | unreadable (problem : FileProblem)
  | unparsed (error : ParseError)
  | broken (fault : Fault)
  | endless
  | unshown (error : FormatError)

def Failure.message : Failure → String
  | .settings error => "Failed to load configuration: " ++ error.message
  | .unknownLanguage name =>
      "Unknown language '" ++ name ++ "' (available: " ++
        String.intercalate ", " Builtin.names ++ ")"
  | .unreadable problem => "Error reading file: " ++ problem.message
  | .unparsed error => "Parse error: " ++ error.message
  | .broken _ => "Parse error: broken invariant"
  | .endless => "Parse error: too many steps"
  | .unshown error => error.message

/-- Whether the failure is no answer but a breakdown. -/
def Failure.isBreakdown : Failure → Bool
  | .settings .badIndex => true
  | .broken _ => true
  | _ => false

/-- The number with which the command ends. -/
def Failure.exitCode (f : Failure) : Nat :=
  if f.isBreakdown then 101 else 1

/-- The first line of the report of a failure. A breakdown has no report. -/
def Failure.reportLine (f : Failure) : Option String :=
  if f.isBreakdown then none
  else
    let line := ("Error: " ++ f.message).toList.takeWhile (· ≠ '\n')
    some (String.ofList (if line.getLast? = some '\r' then line.dropLast else line))

def versionText : String :=
  "tagvm 0.1.0\n"

def formatsText : String :=
  "Available output formats:\n\n" ++
    String.join (Format.all.map fun f => "  " ++ f.name ++ "\n    " ++ f.description ++ "\n")

def languagesText : String :=
  "Built-in languages:\n\n" ++ String.join (Builtin.names.map fun name => "  " ++ name ++ "\n")

/-- The content of a settings file. Its name may be given without its ending. -/
def settingsContent (files : Files) (path : String) : Option ByteArray :=
  (settingsPaths path).findSome? fun path => (files path).toOption

/-- The settings for a request. A format that is asked for wins over that of the file. -/
def loadSettings (files : Files) (r : ParseRequest) : Except Failure Settings :=
  let file := match r.config with
    | some path => [Layer.file ((settingsContent files path).map (·.toList))]
    | none => []
  let override := match r.format with
    | some format => [Layer.override "output.format" (.str format)]
    | none => []
  (Settings.load (file ++ override)).mapError .settings

/-- More steps than any parse takes. -/
def plenty : Nat :=
  1000000000000000000

/-- Parses a source in a built-in language. -/
def parseSource (document : Builtin.Document) (options : Options) (source : Source) :
    Except Failure (List Tag) :=
  match (document.machine options).run (Draft.fresh source) none plenty with
  | none => .error .endless
  | some halt =>
      match halt.outcome with
      | .accepted _ => .ok halt.run.tape.tags.toList
      | .rejected error => .error (.unparsed error)
      | .faulted fault => .error (.broken fault)

def readText (files : Files) (path : String) : Except FileProblem String := do
  match String.fromUTF8? (← files path) with
  | some text => .ok text
  | none => .error .notText

/-- Parses a file and shows it. -/
def parse (files : Files) (r : ParseRequest) : Except Failure String := do
  let settings ← loadSettings files r
  match Builtin.named? r.language with
  | none => .error (.unknownLanguage r.language)
  | some document =>
      let text ← (readText files r.path).mapError .unreadable
      let tags ← parseSource document settings.options (.ofTemplate text)
      (settings.format.render tags).mapError .unshown

/-- Answers a request with the text to be printed. -/
def answer (files : Files) : Request → Except Failure String
  | .version => .ok versionText
  | .listFormats => .ok formatsText
  | .listLanguages => .ok languagesText
  | .parse r => parse files r

end GrammarMachine.Command
