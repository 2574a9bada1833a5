/-!
The arguments of the command line.
-/

namespace GrammarMachine.Command

/-- What is asked for when a file is to be parsed. -/
structure ParseRequest where
  path : String
  language : String := "arithmetic"
  format : Option String := none
  config : Option String := none

inductive Request where
  | version
  | listFormats
  | listLanguages
  | parse (request : ParseRequest)

/-- A path with an ending at its last name. Slashes and points behind that name are dropped; a path
that does not end in a name has no ending either. -/
def withEnding (ending path : String) : Option String :=
  match (path.splitOn "/").reverse.dropWhile fun step => step = "" || step = "." with
  | [] => none
  | ".." :: _ => none
  | name :: steps => some (String.intercalate "/" ((name ++ ending) :: steps).reverse)

/-- The paths at which a settings file is looked for. Its name may be given without its ending. -/
def settingsPaths (path : String) : List String :=
  path :: (withEnding ".toml" path).toList

/-- The files that a request may need. -/
def Request.paths : Request → List String
  | .parse r =>
      r.path :: match r.config with
        | some config => settingsPaths config
        | none => []
  | _ => []

/-- The options that take a value. -/
inductive Flag where
  | language
  | format
  | config
  deriving DecidableEq

def Flag.ofLong? (name : String) : Option Flag :=
  match name with
  | "language" => some .language
  | "format" => some .format
  | "config" => some .config
  | _ => none

def Flag.ofShort? (letter : Char) : Option Flag :=
  match letter with
  | 'l' => some .language
  | 'f' => some .format
  | 'c' => some .config
  | _ => none

/-- An argument by its form. -/
inductive Argument where
  /-- Anything that is no option. -/
  | plain (text : String)
  /-- Two dashes, after which there are no options. -/
  | separator
  /-- An option, perhaps with its value attached. -/
  | option (flag : Flag) (value : Option String)
  /-- An option that is not known. -/
  | unknown

/-- Splits a long option at its first equals sign. -/
def splitValue (text : List Char) : String × Option String :=
  match text.span (· ≠ '=') with
  | (name, _ :: value) => (String.ofList name, some (String.ofList value))
  | (name, []) => (String.ofList name, none)

/-- The value attached to an option of one letter; an equals sign in front of it is dropped. -/
def attachedValue (text : List Char) : Option String :=
  match text with
  | [] => none
  | '=' :: value => some (String.ofList value)
  | value => some (String.ofList value)

/-- The form of an argument. A single dash is no option. -/
def Argument.ofText (text : String) : Argument :=
  match text.toList with
  | ['-', '-'] => .separator
  | '-' :: '-' :: rest =>
      let (name, value) := splitValue rest
      match Flag.ofLong? name with
      | some flag => .option flag value
      | none => .unknown
  | '-' :: letter :: rest =>
      match Flag.ofShort? letter with
      | some flag => .option flag (attachedValue rest)
      | none => .unknown
  | _ => .plain text

/-- The arguments of a parse read so far. -/
structure Given where
  paths : List String := []
  values : List (Flag × String) := []

/-- Gives an option its value, which can be done once. -/
def Given.set (g : Given) (flag : Flag) (value : String) : Option Given :=
  if (g.values.lookup flag).isSome then none
  else some { g with values := (flag, value) :: g.values }

/-- Reads the arguments of a parse. -/
def Given.read (g : Given) : List String → Option Given
  | [] => some g
  | text :: rest =>
      match Argument.ofText text with
      | .plain path => Given.read { g with paths := g.paths ++ [path] } rest
      | .separator => some { g with paths := g.paths ++ rest }
      | .unknown => none
      | .option flag (some value) => do (← g.set flag value).read rest
      | .option flag none =>
          match rest with
          | [] => none
          | value :: rest =>
              match Argument.ofText value with
              | .plain value => do (← g.set flag value).read rest
              | _ => none

/-- A request to parse a file: exactly one path and each option at most once. -/
def readParse (arguments : List String) : Option Request := do
  let given ← Given.read {} arguments
  match given.paths with
  | [path] =>
      return .parse {
        path
        language := (given.values.lookup .language).getD "arithmetic"
        format := given.values.lookup .format
        config := given.values.lookup .config }
  | _ => none

/-- Whether there are no arguments; the separator is none. -/
def takesNothing (arguments : List String) : Bool :=
  arguments.isEmpty || arguments == ["--"]

/-- The request that the arguments make; `none` if they make none. -/
def Request.ofArguments? : List String → Option Request
  | "--version" :: _ => some .version
  | "parse" :: rest => readParse rest
  | "list-formats" :: rest => if takesNothing rest then some .listFormats else none
  | "list-languages" :: rest => if takesNothing rest then some .listLanguages else none
  | first :: _ => if "-V".toList.isPrefixOf first.toList then some .version else none
  | [] => none

end GrammarMachine.Command
