import GrammarMachine.Frame.Debug

/-!
Invocations as written in diagnostics, and the JSON values that they carry, with the kind of every
value spelled out.
-/

namespace GrammarMachine

open Text

namespace Json

mutual

/-- Diagnostic text: every value is named by its kind. -/
def debug : Json → String
  | .null => "Null"
  | .bool true => "Bool(true)"
  | .bool false => "Bool(false)"
  | .num n => "Number(" ++ n.text ++ ")"
  | .str s => "String(" ++ quoted s ++ ")"
  | .arr items => "Array [" ++ String.intercalate ", " (debugItems items) ++ "]"
  | .obj fields => "Object \x7b" ++ String.intercalate ", " (debugFields fields) ++ "\x7d"

def debugItems : List Json → List String
  | [] => []
  | item :: rest => debug item :: debugItems rest

def debugFields : List (String × Json) → List String
  | [] => []
  | (name, value) :: rest => (quoted name ++ ": " ++ debug value) :: debugFields rest

end

end Json

/-- An invocation for diagnostics; its attributes are left out. -/
def Invocation.debug (i : Invocation) : String :=
  record "RuleProps"
    [("value", optional Json.debug i.value),
     ("state", i.cursor.debug),
     ("language", quoted i.language),
     ("node_type", quoted i.nodeType),
     ("intrinsic", optional quoted i.intrinsic)]

end GrammarMachine
