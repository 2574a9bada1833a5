import GrammarMachine.Yaml.Scalar

/-!
YAML text of JSON values in block style. A row inside a field is not indented; a field whose name is
long or has several lines is written with a question mark.
-/

namespace GrammarMachine.Yaml

/-- Whether a name can stand in front of a colon on one line. -/
def isSimpleName (name : String) : Bool :=
  name.utf8ByteSize ≤ 128 && !name.toList.any isBreak

/-- Removes the line break at the end of a text of one line. -/
def withoutBreak (line : String) : String :=
  String.ofList (line.toList.dropLast)

/-- A field at `indent` up to its colon, and whether nested values begin on the same line. -/
def fieldHead (indent : Nat) (name : String) : String × Bool :=
  if isSimpleName name then (withoutBreak (stringText (indent + 2) name) ++ ":", false)
  else ("? " ++ stringText (indent + 2) name ++ padding indent ++ ":", true)

/-- Entries at `indent` behind a mark at `outer`. -/
def entries (sameLine : Bool) (outer indent : Nat) (texts : List String) : String :=
  (if sameLine then padding (indent - outer - 1) else "\n" ++ padding indent) ++
    String.intercalate (padding indent) texts

mutual

/-- A value behind a mark at `indent`, up to the end of its last line. -/
def valueText (sameLine : Bool) (indent : Nat) : Json → String
  | .null => " null\n"
  | .bool value => " " ++ toString value ++ "\n"
  | .num number => " " ++ number.textWith .negative ++ "\n"
  | .str text => " " ++ stringText (indent + 2) text
  | .arr items =>
      let inner := if sameLine then indent + 2 else indent
      if items.isEmpty then " []\n"
      else entries sameLine indent inner (itemTexts inner items)
  | .obj fields =>
      if fields.isEmpty then " \x7b\x7d\n"
      else entries sameLine indent (indent + 2) (fieldTexts (indent + 2) fields)

/-- The items of a row at `indent`, each from its mark on. -/
def itemTexts (indent : Nat) : List Json → List String
  | [] => []
  | item :: rest => ("-" ++ valueText true indent item) :: itemTexts indent rest

/-- The fields at `indent`, each from its name on. -/
def fieldTexts (indent : Nat) : List (String × Json) → List String
  | [] => []
  | (name, value) :: rest =>
      ((fieldHead indent name).1 ++ valueText (fieldHead indent name).2 indent value) ::
        fieldTexts indent rest

end

/-- The YAML text of a row. -/
def rowText (items : List Json) : String :=
  if items.isEmpty then "[]\n" else String.join (itemTexts 0 items)

end GrammarMachine.Yaml
