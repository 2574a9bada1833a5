import GrammarMachine.Format.Basic
import GrammarMachine.Machine.Basic
import GrammarMachine.Settings.Convert
import GrammarMachine.Text.Decode

/-!
The settings of the program: built-in values, files layered over them in order, and overrides above
all files.
-/

namespace GrammarMachine

/-- The settings of the program. -/
structure Settings where
  maxDepth : Nat := 4096
  allowGaps : Bool := true
  format : Format := .tags
  logLevel : String := "warn"

/-- The limits for runs of the machine. -/
def Settings.options (s : Settings) : Options where
  maxDepth := s.maxDepth
  allowGaps := s.allowGaps

/-- A layer of settings: a file that must be there, a file that may be there, or an override. The
content of a file that is not there is missing. -/
inductive Layer where
  | file (content : Option (List UInt8))
  | optionalFile (content : Option (List UInt8))
  | override (path : String) (value : Setting)

namespace Settings

def toSetting (s : Settings) : Setting :=
  .table
    [("engine", .table [("max_frame_depth", .int s.maxDepth), ("allow_gaps", .bool s.allowGaps)]),
     ("output", .table [("format", .str s.format.name)]),
     ("log", .table [("level", .str s.logLevel)])]

/-- The limits of the machine from their section. A value that cannot be read counts before one that
is missing. -/
def readEngine (part : Setting) : Except SettingsError (Nat × Bool) := do
  match ← part.parts ["max_frame_depth", "allow_gaps"] with
  | [depth, gaps] =>
      let depth ← depth.mapM Setting.toNat
      let gaps ← gaps.mapM Setting.toBool
      return (← Setting.present depth, ← Setting.present gaps)
  | _ => .error .badShape

/-- The output format from its section. -/
def readFormat (part : Setting) : Except SettingsError Format := do
  match ← part.parts ["format"] with
  | [format] => Setting.present (Format.ofName? (← (← Setting.present format).choice))
  | _ => .error .badShape

/-- The level of the log from its section. -/
def readLogLevel (part : Setting) : Except SettingsError String := do
  match ← part.parts ["level"] with
  | [level] => (← Setting.present level).toText
  | _ => .error .badShape

/-- The settings that a table stands for. Names that are not known are ignored. -/
def ofSetting (root : Setting) : Except SettingsError Settings := do
  match ← root.parts ["engine", "output", "log"] with
  | [engine, output, log] =>
      let limits ← engine.mapM readEngine
      let format ← output.mapM readFormat
      let logLevel ← log.mapM readLogLevel
      let (maxDepth, allowGaps) ← Setting.present limits
      return { maxDepth, allowGaps, format := ← Setting.present format,
               logLevel := ← Setting.present logLevel }
  | _ => .error .badShape

/-- The paths of the overrides with their values, in order. -/
def overrides (layers : List Layer) :
    Except SettingsError (List (List Setting.PathStep × Setting)) :=
  layers.foldlM (fun found layer =>
    match layer with
    | .override path value =>
        match Setting.pathOf? path with
        | some path => .ok (found ++ [(path, value)])
        | none => .error .badPath
    | _ => .ok found) []

/-- A change of the settings along a path, which fails if an index of the path has no place. -/
def place (changed : Option Setting) : Except SettingsError Setting :=
  match changed with
  | some root => .ok root
  | none => .error .badIndex

/-- Puts the content of a file over the settings. -/
def addContent (root : Setting) (content : List UInt8) : Except SettingsError Setting :=
  match Toml.ofText? (Text.decodeMarked content) with
  | some fields => place (root.layer fields)
  | none => .error .badFile

/-- Puts a file over the settings. -/
def addFile (root : Setting) : Layer → Except SettingsError Setting
  | .file (some content) => addContent root content
  | .file none => .error .missingFile
  | .optionalFile (some content) => addContent root content
  | .optionalFile none | .override .. => .ok root

/-- Loads the settings. An override wins over all files, wherever it stands among the layers. -/
def load (layers : List Layer) : Except SettingsError Settings := do
  let overrides ← overrides layers
  let root ← layers.foldlM addFile (toSetting {})
  ofSetting (← overrides.foldlM (fun root (path, value) => place (root.setAt value path)) root)

end Settings

end GrammarMachine
