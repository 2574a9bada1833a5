import GrammarMachine.Json.Printer
import GrammarMachine.Yaml.Plain

/-!
Strings in YAML: plain where that is safe, else in single quotes, in double quotes or, with line
breaks, as a literal block.
-/

namespace GrammarMachine.Yaml

/-- Characters that can be written as they are. -/
def isShown (c : Char) : Bool :=
  c = '\n' || (' ' ≤ c && c ≤ '~') || (0xa0 ≤ c.toNat && c.toNat ≠ 0xfeff && c.toNat ≠ 0xfffe &&
    c.toNat ≠ 0xffff)

/-- Characters that end a line. -/
def isBreak (c : Char) : Bool :=
  c = '\n' || c = '\r' || c.toNat = 0x85 || c.toNat = 0x2028 || c.toNat = 0x2029

/-- Characters that separate, and the end of a text. -/
def isSeparator (c : Option Char) : Bool :=
  c.all fun c => c = ' ' || c = '\t' || c = '\x00' || isBreak c

/-- Whether a character must not stand first in a plain text, given the one after it. -/
def isIndicatorFirst (c : Char) (after : Option Char) : Bool :=
  "#,[]\x7b\x7d&*!|>'\"%@\x60".toList.contains c ||
    ((c = '?' || c = ':' || c = '-') && isSeparator after)

/-- Whether a character must not stand inside a plain text, given its neighbours. -/
def isIndicatorWithin (before c : Char) (after : Option Char) : Bool :=
  (c = ':' && isSeparator after) || (c = '#' && isSeparator (some before))

/-- Whether a character inside a plain text ends it. -/
def hasIndicatorWithin : List Char → Bool
  | before :: c :: rest =>
      isIndicatorWithin before c rest.head? || hasIndicatorWithin (c :: rest)
  | _ => false

/-- Whether the text begins with a document marker or holds an indicator. -/
def hasIndicator (text : List Char) : Bool :=
  "---".toList.isPrefixOf text || "...".toList.isPrefixOf text ||
    (match text with
      | c :: rest => isIndicatorFirst c rest.head?
      | [] => false) ||
    hasIndicatorWithin text

/-- Whether the first test holds of a character and the second of the one after it. -/
def hasPair (first second : Char → Bool) : List Char → Bool
  | a :: b :: rest => (first a && second b) || hasPair first second (b :: rest)
  | _ => false

def isSpace (c : Char) : Bool :=
  c = ' '

/-- Whether some character cannot be written as it is, or a line ends with a blank. -/
def isSpecial (text : List Char) : Bool :=
  text.any (!isShown ·) || hasPair isSpace isBreak text

/-- Whether the text can be written plain. -/
def allowsPlain (text : List Char) : Bool :=
  !text.any isBreak && !isSpecial text && !hasIndicator text && !text.head?.any isSpace &&
    !text.getLast?.any isSpace

def allowsSingle (text : List Char) : Bool :=
  !isSpecial text && !hasPair isBreak isSpace text

def allowsBlock (text : List Char) : Bool :=
  !text.isEmpty && !isSpecial text && !text.getLast?.any isSpace

/-- Upper-case hexadecimal digits of a number, filled up with zeros. -/
def paddedHex (width n : Nat) : String :=
  let digits := (Nat.toDigits 16 n).map Char.toUpper
  String.ofList (List.replicate (width - digits.length) '0' ++ digits)

/-- One character inside double quotes. -/
def doubleChar (c : Char) : String :=
  if c = '\x22' then "\\\""
  else if c = '\x5c' then "\\\\"
  else if isShown c && !isBreak c then c.toString
  else
    match c.toNat with
    | 0x00 => "\\0"
    | 0x07 => "\\a"
    | 0x08 => "\\b"
    | 0x09 => "\\t"
    | 0x0a => "\\n"
    | 0x0b => "\\v"
    | 0x0c => "\\f"
    | 0x0d => "\\r"
    | 0x1b => "\\e"
    | 0x85 => "\\N"
    | 0x2028 => "\\L"
    | 0x2029 => "\\P"
    | n =>
        if n ≤ 0xff then "\\x" ++ paddedHex 2 n
        else if n ≤ 0xffff then "\\u" ++ paddedHex 4 n
        else "\\U" ++ paddedHex 8 n

def doubleQuoted (text : List Char) : String :=
  "\"" ++ String.join (text.map doubleChar) ++ "\""

/-- Blanks in front of a line. -/
def padding (width : Nat) : String :=
  String.ofList (List.replicate width ' ')

/-- Lines with `width` blanks in front of every one that is not empty; `fresh` says that a line
begins. -/
def indentLines (width : Nat) (shown : Char → String) (fresh : Bool) : List Char → String
  | [] => ""
  | c :: rest =>
      if isBreak c then c.toString ++ indentLines width shown true rest
      else (if fresh then padding width else "") ++ shown c ++ indentLines width shown false rest

/-- The text in single quotes, with quotes inside it doubled. -/
def singleQuoted (width : Nat) (text : List Char) : String :=
  let quote (c : Char) : String := if c = '\x27' then "''" else c.toString
  let last := if text.getLast?.any isBreak then padding width else ""
  "'" ++ indentLines width quote false text ++ last ++ "'"

/-- How a literal block begins: with the width of its indentation if that could not be told from its
first line, and with what becomes of the breaks at its end. -/
def blockHeader (text : List Char) : String :=
  let width := if text.head?.any (fun c => isSpace c || isBreak c) then "2" else ""
  let ending := match text.reverse with
    | last :: before =>
        if !isBreak last then "-"
        else if before.head?.all isBreak then "+"
        else ""
    | [] => "-"
  "|" ++ width ++ ending

/-- The text as a literal block, up to the end of its last line. -/
def block (width : Nat) (text : List Char) : String :=
  blockHeader text ++ "\n" ++ indentLines width Char.toString true text ++
    if text.getLast?.any isBreak then "" else "\n"

/-- A string up to the end of its last line; further lines have `width` blanks in front. -/
def stringText (width : Nat) (text : String) : String :=
  let chars := text.toList
  if chars.contains '\n' then
    if allowsBlock chars then block width chars else doubleQuoted chars ++ "\n"
  else if !isAmbiguous text && allowsPlain chars then text ++ "\n"
  else if allowsSingle chars then singleQuoted width chars ++ "\n"
  else doubleQuoted chars ++ "\n"

end GrammarMachine.Yaml
