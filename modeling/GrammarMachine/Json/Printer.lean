import GrammarMachine.Json.Basic
import GrammarMachine.Text.Printable

/-!
JSON text: compact, and spread over lines with two blanks for each level.
-/

namespace GrammarMachine.Json

def stringChar (c : Char) : String :=
  match c with
  | '\x22' => "\\\""
  | '\x5c' => "\\\\"
  | '\x08' => "\\b"
  | '\x0c' => "\\f"
  | '\n' => "\\n"
  | '\r' => "\\r"
  | '\t' => "\\t"
  | c =>
      if c.toNat < 0x10 then "\\u000" ++ Text.hex c.toNat
      else if c.toNat < 0x20 then "\\u00" ++ Text.hex c.toNat
      else c.toString

def stringText (s : String) : String :=
  "\"" ++ s.foldl (fun shown c => shown ++ stringChar c) "" ++ "\""

mutual

/-- Text without blanks. -/
def compact : Json → String
  | .null => "null"
  | .bool true => "true"
  | .bool false => "false"
  | .num n => n.text
  | .str s => stringText s
  | .arr items => "[" ++ String.intercalate "," (compactItems items) ++ "]"
  | .obj fields => "\x7b" ++ String.intercalate "," (compactFields fields) ++ "\x7d"

def compactItems : List Json → List String
  | [] => []
  | item :: rest => compact item :: compactItems rest

def compactFields : List (String × Json) → List String
  | [] => []
  | (name, value) :: rest => (stringText name ++ ":" ++ compact value) :: compactFields rest

end

/-- Two blanks for each level. -/
def indentation (depth : Nat) : String :=
  String.ofList (List.replicate (2 * depth) ' ')

/-- Parts on lines of their own between two brackets at `depth`; none leaves the brackets alone. -/
def bracketed (opening closing : String) (depth : Nat) (parts : List String) : String :=
  if parts.isEmpty then opening ++ closing
  else
    let line := "\n" ++ indentation (depth + 1)
    opening ++ line ++ String.intercalate ("," ++ line) parts ++ "\n" ++ indentation depth ++
      closing

mutual

/-- Text with one item or field a line, inside `depth` brackets. -/
def prettyAt (depth : Nat) : Json → String
  | .arr items => bracketed "[" "]" depth (prettyItems (depth + 1) items)
  | .obj fields => bracketed "\x7b" "\x7d" depth (prettyFields (depth + 1) fields)
  | value => compact value

def prettyItems (depth : Nat) : List Json → List String
  | [] => []
  | item :: rest => prettyAt depth item :: prettyItems depth rest

def prettyFields (depth : Nat) : List (String × Json) → List String
  | [] => []
  | (name, value) :: rest =>
      (stringText name ++ ": " ++ prettyAt depth value) :: prettyFields depth rest

end

/-- Text with one item or field a line. -/
def pretty (value : Json) : String :=
  prettyAt 0 value

end GrammarMachine.Json
