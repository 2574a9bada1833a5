import GrammarMachine.Format.Drawing
import GrammarMachine.Format.Listing
import GrammarMachine.Tag.Codec
import GrammarMachine.Tree.Build
import GrammarMachine.Yaml.Printer

/-!
The formats in which a stream of tags can be shown, and registries of formats by name.
-/

namespace GrammarMachine

/-- A format for streams of tags. -/
inductive Format where
  | tags
  | json
  | yaml
  | treeviz
  deriving DecidableEq

/-- Why a stream cannot be shown. -/
inductive FormatError where
  | notFound (name : String)
  | noTree (error : BuildError)

def FormatError.message : FormatError → String
  | .notFound name => "Format '" ++ name ++ "' not found"
  | .noTree error => "Serialization error: " ++ error.message

namespace Format

def name : Format → String
  | .tags => "tags"
  | .json => "json"
  | .yaml => "yaml"
  | .treeviz => "treeviz"

def description : Format → String
  | .tags => "One tag per line"
  | .json => "Tag sequence as JSON"
  | .yaml => "Tag sequence as YAML"
  | .treeviz => "Rebuilt tree, one line per child"

def all : List Format :=
  [.json, .tags, .treeviz, .yaml]

def ofName? (name : String) : Option Format :=
  all.find? (·.name = name)

/-- A stream in a format. Only the drawing needs the stream to describe a tree. -/
def render (f : Format) (tags : List Tag) : Except FormatError String :=
  match f with
  | .tags => .ok (listing tags)
  | .json => .ok (Json.arr (tags.map Tag.toJson)).pretty
  | .yaml => .ok (Yaml.rowText (tags.map Tag.toJson))
  | .treeviz =>
      match Node.ofTags tags with
      | .ok fragment => .ok (drawing fragment)
      | .error error => .error (.noTree error)

end Format

/-- The formats that can be asked for. -/
structure FormatRegistry where
  formats : List Format := []

namespace FormatRegistry

def full : FormatRegistry :=
  ⟨Format.all⟩

def register (r : FormatRegistry) (f : Format) : FormatRegistry :=
  ⟨f :: r.formats⟩

def get? (r : FormatRegistry) (name : String) : Option Format :=
  r.formats.find? (·.name = name)

def names (r : FormatRegistry) : List String :=
  (Format.all.filter r.formats.contains).map Format.name

/-- A stream in the format of the given name. -/
def render (r : FormatRegistry) (name : String) (tags : List Tag) : Except FormatError String :=
  match r.get? name with
  | some f => f.render tags
  | none => .error (.notFound name)

end FormatRegistry

end GrammarMachine
