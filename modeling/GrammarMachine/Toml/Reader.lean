import GrammarMachine.Toml.Atom

/-!
Reading TOML documents: lines that name tables, and lines that give values under keys.
-/

namespace GrammarMachine.Toml

/-- Removes blanks and tabs. -/
def skipBlanks : List Char → List Char :=
  List.dropWhile fun c => c = ' ' || c = '\t'

/-- Whether a character may stand in a comment or a quoted text. -/
def isPlain (c : Char) : Bool :=
  c = '\t' || (0x20 ≤ c.toNat && c.toNat ≠ 0x7f)

def skipComment : List Char → List Char
  | '#' :: rest => rest.dropWhile isPlain
  | rest => rest

def lineEnd? : List Char → Option (List Char)
  | '\n' :: rest => some rest
  | '\r' :: '\n' :: rest => some rest
  | _ => none

/-- Removes blanks, comments and ends of lines. -/
def skipLines : Nat → List Char → List Char
  | 0, text => text
  | fuel + 1, text =>
      let text := skipComment (skipBlanks text)
      match lineEnd? text with
      | some rest => skipLines fuel rest
      | none => text

/-- The character with the code point written in the first `width` hexadecimal digits. -/
def readCode (width : Nat) (text : List Char) : Option (Char × List Char) := do
  let digits ← (text.take width).mapM (digit? 16)
  let code := digits.foldl (fun n d => n * 16 + d) 0
  if digits.length = width ∧ code.isValidChar then some (Char.ofNat code, text.drop width) else none

/-- An escape behind its backslash. -/
def readEscape : List Char → Option (Char × List Char)
  | 'b' :: rest => some ('\x08', rest)
  | 't' :: rest => some ('\t', rest)
  | 'n' :: rest => some ('\n', rest)
  | 'f' :: rest => some ('\x0c', rest)
  | 'r' :: rest => some ('\r', rest)
  | '\x22' :: rest => some ('\x22', rest)
  | '\x5c' :: rest => some ('\x5c', rest)
  | 'u' :: rest => readCode 4 rest
  | 'U' :: rest => readCode 8 rest
  | _ => none

/-- A text of one line behind its opening quote; `read` holds what was read, the last character
first. Only in double quotes are there escapes. -/
def readLine (quote : Char) : Nat → List Char → List Char → Option (List Char × List Char)
  | 0, _, _ => none
  | _ + 1, _, [] => none
  | fuel + 1, read, c :: rest =>
      if c = quote then some (read.reverse, rest)
      else if c = '\x5c' ∧ quote = '\x22' then do
        let (d, rest) ← readEscape rest
        readLine quote fuel (d :: read) rest
      else if isPlain c then readLine quote fuel (c :: read) rest
      else none

/-- Removes blanks and line ends behind a backslash at the end of a line. -/
def skipContinuation (text : List Char) : Option (List Char) := do
  let rest ← lineEnd? (skipBlanks text)
  return rest.dropWhile fun c => c = ' ' || c = '\t' || c = '\n' || c = '\r'

/-- A text of several lines behind its opening quotes. Up to two quotes may stand before the closing
ones. -/
def readLines (quote : Char) : Nat → List Char → List Char → Option (List Char × List Char)
  | 0, _, _ => none
  | _ + 1, _, [] => none
  | fuel + 1, read, c :: rest =>
      if c = quote then
        let quotes := (c :: rest).takeWhile (· = quote)
        if 5 < quotes.length then none
        else if 3 ≤ quotes.length then
          some ((List.replicate (quotes.length - 3) quote ++ read).reverse,
            (c :: rest).drop quotes.length)
        else readLines quote fuel (c :: read) rest
      else if c = '\x5c' ∧ quote = '\x22' then
        match readEscape rest with
        | some (d, rest) => readLines quote fuel (d :: read) rest
        | none => do readLines quote fuel read (← skipContinuation rest)
      else
        match lineEnd? (c :: rest) with
        | some rest => readLines quote fuel ('\n' :: read) rest
        | none => if isPlain c then readLines quote fuel (c :: read) rest else none

/-- A quoted text behind its first quote. A line end right behind three quotes is left out. -/
def readQuoted (quote : Char) (text : List Char) : Option (String × List Char) := do
  let fuel := text.length + 1
  let (read, rest) ← match text with
    | c :: d :: rest =>
        if c = quote ∧ d = quote then readLines quote fuel [] ((lineEnd? rest).getD rest)
        else readLine quote fuel [] text
    | _ => readLine quote fuel [] text
  return (String.ofList read, rest)

/-- Whether a character may stand in a key without quotes. -/
def isKeyChar (c : Char) : Bool :=
  c.isAlphanum || c = '_' || c = '-'

/-- One name of a key. -/
def readName (text : List Char) : Option (String × List Char) :=
  match text with
  | '\x22' :: rest => do
      let (name, rest) ← readLine '\x22' (rest.length + 1) [] rest
      return (String.ofList name, rest)
  | '\x27' :: rest => do
      let (name, rest) ← readLine '\x27' (rest.length + 1) [] rest
      return (String.ofList name, rest)
  | text =>
      let (name, rest) := text.span isKeyChar
      if name.isEmpty then none else some (String.ofList name, rest)

/-- Names with dots between them, and blanks around all of them. -/
def readNames : Nat → List Char → Option (List String × List Char)
  | 0, _ => none
  | fuel + 1, text => do
      let (name, rest) ← readName (skipBlanks text)
      match skipBlanks rest with
      | '.' :: rest => do
          let (path, rest) ← readNames fuel rest
          return (name :: path, rest)
      | rest => return ([name], rest)

/-- Keys have fewer names, and values fewer brackets and braces around each other, than this. -/
def depthLimit : Nat := 80

def readKey (text : List Char) : Option (List String × List Char) := do
  let (path, rest) ← readNames (text.length + 1) text
  if path.length < depthLimit then some (path, rest) else none

/-- Whether a character may stand in a value without quotes or brackets. -/
def isAtomChar (c : Char) : Bool :=
  c.isAlphanum || c = '_' || c = '+' || c = '-' || c = '.' || c = ':'

/-- A value without quotes or brackets. A blank may stand between a date and a time. -/
def readAtomText (text : List Char) : Option (Toml × List Char) := do
  let (atom, rest) := text.span isAtomChar
  let (atom, rest) := match rest with
    | ' ' :: c :: tail =>
        if isDigit c ∧ (readDate atom).any (·.2.isEmpty) then
          let (time, rest) := (c :: tail).span isAtomChar
          (atom ++ ' ' :: time, rest)
        else (atom, rest)
    | rest => (atom, rest)
  return (← readAtom atom, rest)

mutual

/-- A value inside the given number of brackets and braces. -/
def readValue (depth : Nat) : Nat → List Char → Option (Toml × List Char)
  | 0, _ => none
  | fuel + 1, text =>
      match text with
      | '\x22' :: rest => do
          let (value, rest) ← readQuoted '\x22' rest
          return (.str value, rest)
      | '\x27' :: rest => do
          let (value, rest) ← readQuoted '\x27' rest
          return (.str value, rest)
      | '[' :: rest =>
          if depth + 1 < depthLimit then readItems (depth + 1) fuel [] (skipLines fuel rest)
          else none
      | '\x7b' :: rest =>
          if depth + 1 < depthLimit then
            match skipBlanks rest with
            | '\x7d' :: rest => some (.table [], rest)
            | rest => readFields (depth + 1) fuel [] rest
          else none
      | text => readAtomText text

/-- The items of an array up to its closing bracket; `read` holds those read, the last one first. -/
def readItems (depth : Nat) : Nat → List Toml → List Char → Option (Toml × List Char)
  | 0, _, _ => none
  | fuel + 1, read, text =>
      match text with
      | ']' :: rest => some (.array read.reverse, rest)
      | text => do
          let (item, rest) ← readValue depth fuel text
          match skipLines fuel rest with
          | ',' :: rest => readItems depth fuel (item :: read) (skipLines fuel rest)
          | ']' :: rest => some (.array (item :: read).reverse, rest)
          | _ => none

/-- The fields of an inline table up to its closing brace. -/
def readFields (depth : Nat) : Nat → Items → List Char → Option (Toml × List Char)
  | 0, _, _ => none
  | fuel + 1, read, text => do
      let (path, rest) ← readKey text
      let (value, rest) ← readValue depth fuel (skipBlanks (← after? '=' rest))
      let read ← Items.define value path read
      match skipBlanks rest with
      | ',' :: rest => readFields depth fuel read rest
      | '\x7d' :: rest => some (.table (Items.finish read), rest)
      | _ => none

end

/-- What remains behind the end of a line; blanks and a comment may stand before it. -/
def endOfLine? (text : List Char) : Option (List Char) :=
  match skipComment (skipBlanks text) with
  | [] => some []
  | rest => lineEnd? rest

/-- The document read so far, and the path of the table to which values are added. -/
structure Reading where
  fields : Items := []
  path : List String := []

/-- A line that names a table, behind its opening brackets. -/
def Reading.header (r : Reading) (isRow : Bool) (text : List Char) :
    Option (Reading × List Char) := do
  let (path, rest) ← readKey text
  let rest ← after? ']' rest
  let rest ← if isRow then after? ']' rest else some rest
  let rest ← endOfLine? rest
  let name ← path.getLast?
  let add := if isRow then Items.addTable name else Items.openTable name
  return (⟨← Items.change add path.dropLast r.fields, path⟩, rest)

/-- A line that gives a value under a key. -/
def Reading.assign (r : Reading) (text : List Char) : Option (Reading × List Char) := do
  let (path, rest) ← readKey text
  let (value, rest) ← readValue 0 (text.length + 1) (skipBlanks (← after? '=' rest))
  let rest ← endOfLine? rest
  return ({ r with fields := ← Items.change (Items.define value path) r.path r.fields }, rest)

/-- Reads a document line by line. -/
def Reading.finish : Nat → Reading → List Char → Option Items
  | 0, _, _ => none
  | fuel + 1, r, text =>
      match skipLines (text.length + 1) text with
      | [] => some r.fields
      | '[' :: '[' :: rest => do
          let (r, rest) ← r.header true rest
          finish fuel r rest
      | '[' :: rest => do
          let (r, rest) ← r.header false rest
          finish fuel r rest
      | text => do
          let (r, rest) ← r.assign text
          finish fuel r rest

/-- The fields of a document. A byte order mark in front is ignored. -/
def ofText? (text : String) : Option (List (String × Toml)) := do
  let chars := match text.toList with
    | '\ufeff' :: rest => rest
    | chars => chars
  return Items.finish (← Reading.finish (chars.length + 1) {} chars)

end GrammarMachine.Toml
