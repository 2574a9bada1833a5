import GrammarMachine.Pattern.Expr
import GrammarMachine.Text.Category
import GrammarMachine.Text.Script

/-!
Classes of characters by properties of the characters: their general category, the script to which
they belong, and some properties that they have or lack.
-/

namespace GrammarMachine.Pattern

/-- A name of a property or of a value of one, as it is looked up: in lower case and without blanks,
dashes and low lines. Characters outside the basic repertoire do not count, and neither does `is` in
front of a name, unless only the letter `c` follows. -/
def normalizedName (name : List Char) : String :=
  let (rest, isMarked) := match name with
    | a :: b :: rest => if a.toLower = 'i' ∧ b.toLower = 's' then (rest, true) else (name, false)
    | name => (name, false)
  let kept := (rest.filter fun c =>
    c.toNat < 0x80 && c ≠ ' ' && c ≠ '_' && c ≠ '-').map Char.toLower
  if isMarked && kept = ['c'] then "isc" else String.ofList kept

/-- Characters that may begin an identifier: letters, the numerals among them, and a few that are
kept because they once were letters. -/
def identifierStarts : CharSet :=
  let letters : CharSet := .unions [Text.majorCategory 'l', Text.letterNumberRanges,
    [(0x1885, 0x1886), (0x2118, 0x2118), (0x212e, 0x212e), (0x309b, 0x309c)]]
  letters.diff [(0x2e2f, 0x2e2f)]

/-- Characters that may follow in an identifier. -/
def identifierParts : CharSet :=
  .unions [identifierStarts, Text.nonspacingMarkRanges, Text.spacingMarkRanges, Text.digitRanges,
    Text.connectorRanges,
    [(0xb7, 0xb7), (0x387, 0x387), (0x1369, 0x1371), (0x19da, 0x19da), (0x200c, 0x200d),
      (0x30fb, 0x30fb), (0xff65, 0xff65)]]

/-- Characters of identifiers whose normal form has characters that are none. -/
def unstableParts : CharSet :=
  [(0x37a, 0x37a), (0x309b, 0x309c), (0xfc5e, 0xfc63), (0xfdfa, 0xfdfb), (0xfe70, 0xfe70),
   (0xfe72, 0xfe72), (0xfe74, 0xfe74), (0xfe76, 0xfe76), (0xfe78, 0xfe78), (0xfe7a, 0xfe7a),
   (0xfe7c, 0xfe7c), (0xfe7e, 0xfe7e)]

/-- Characters that may begin an identifier, but whose normal form begins with one that may not. -/
def unstableStarts : CharSet :=
  unstableParts.union [(0xe33, 0xe33), (0xeb3, 0xeb3), (0xff9e, 0xff9f)]

/-- Code points that are no characters and never will be: a block of them, and the last two of each
plane. -/
def noncharacters : CharSet :=
  (0xfdd0, 0xfdef) ::
    (List.range 17).map fun plane => (0x10000 * plane + 0xfffe, 0x10000 * plane + 0xffff)

/-- The characters of a property that characters have or lack. A property that is not listed is not
known, and a pattern that names it is refused: those of emoji, of ideographs, of mathematics and
punctuation, of the clusters of characters, and of what changes with case are left out. -/
def flagSet? (name : String) : Option CharSet :=
  match name with
  | "alphabetic" | "alpha" => some Text.alphabeticRanges
  | "lowercase" | "lower" => some (Text.lowercaseRanges.union Text.otherLowercaseRanges)
  | "uppercase" | "upper" => some (Text.uppercaseRanges.union Text.otherUppercaseRanges)
  | "cased" =>
      some (.unions [Text.lowercaseRanges, Text.uppercaseRanges, Text.titlecaseRanges,
        Text.otherLowercaseRanges, Text.otherUppercaseRanges])
  | "whitespace" | "wspace" | "space" => some Text.blankRanges
  | "asciihexdigit" | "ahex" => some [(0x30, 0x39), (0x41, 0x46), (0x61, 0x66)]
  | "hexdigit" | "hex" =>
      some [(0x30, 0x39), (0x41, 0x46), (0x61, 0x66), (0xff10, 0xff19), (0xff21, 0xff26),
        (0xff41, 0xff46)]
  | "joincontrol" | "joinc" => some [(0x200c, 0x200d)]
  | "idstart" | "ids" => some identifierStarts
  | "idcontinue" | "idc" => some identifierParts
  | "xidstart" | "xids" => some (identifierStarts.diff unstableStarts)
  | "xidcontinue" | "xidc" => some (identifierParts.diff unstableParts)
  | "noncharactercodepoint" | "nchar" => some noncharacters
  | "patternwhitespace" | "patws" =>
      some [(0x9, 0xd), (0x20, 0x20), (0x85, 0x85), (0x200e, 0x200f), (0x2028, 0x2029)]
  | "bidicontrol" | "bidic" =>
      some [(0x61c, 0x61c), (0x200e, 0x200f), (0x202a, 0x202e), (0x2066, 0x2069)]
  | "variationselector" | "vs" =>
      some [(0x180b, 0x180d), (0x180f, 0x180f), (0xfe00, 0xfe0f), (0xe0100, 0xe01ef)]
  | "regionalindicator" | "ri" => some [(0x1f1e6, 0x1f1ff)]
  | _ => none

/-- The short name of a category that is given by its long name. -/
def shortCategory (name : String) : String :=
  match name with
  | "other" => "c"
  | "control" | "cntrl" => "cc"
  | "format" => "cf"
  | "unassigned" => "cn"
  | "privateuse" => "co"
  | "letter" => "l"
  | "casedletter" => "lc"
  | "lowercaseletter" => "ll"
  | "modifierletter" => "lm"
  | "otherletter" => "lo"
  | "titlecaseletter" => "lt"
  | "uppercaseletter" => "lu"
  | "mark" | "combiningmark" => "m"
  | "spacingmark" => "mc"
  | "enclosingmark" => "me"
  | "nonspacingmark" => "mn"
  | "number" => "n"
  | "decimalnumber" | "digit" => "nd"
  | "letternumber" => "nl"
  | "othernumber" => "no"
  | "punctuation" | "punct" => "p"
  | "connectorpunctuation" => "pc"
  | "dashpunctuation" => "pd"
  | "closepunctuation" => "pe"
  | "finalpunctuation" => "pf"
  | "initialpunctuation" => "pi"
  | "otherpunctuation" => "po"
  | "openpunctuation" => "ps"
  | "symbol" => "s"
  | "currencysymbol" => "sc"
  | "modifiersymbol" => "sk"
  | "mathsymbol" => "sm"
  | "othersymbol" => "so"
  | "separator" => "z"
  | "lineseparator" => "zl"
  | "paragraphseparator" => "zp"
  | "spaceseparator" => "zs"
  | name => name

def categorySet? (name : String) : Option CharSet :=
  match shortCategory name with
  | "any" => some [(0x0, 0x10ffff)]
  | "ascii" => some [(0x0, 0x7f)]
  | "assigned" => some Text.assignedRanges
  | "cn" => some Text.assignedRanges.complement
  | "lc" => some (.unions [Text.uppercaseRanges, Text.lowercaseRanges, Text.titlecaseRanges])
  | "c" => some (Text.assignedRanges.complement.union (Text.majorCategory 'c'))
  | "l" => some (Text.majorCategory 'l')
  | "m" => some (Text.majorCategory 'm')
  | "n" => some (Text.majorCategory 'n')
  | "p" => some (Text.majorCategory 'p')
  | "s" => some (Text.majorCategory 's')
  | "z" => some (Text.majorCategory 'z')
  | name => Text.categories.lookup name

def scriptSet? (name : String) : Option CharSet :=
  (Text.scripts.find? fun script => script.names.contains name).map (·.ranges)

/-- The characters of a property or of a value given without its property. Some short names of
properties are taken for categories. -/
def namedProperty? (name : String) : Option CharSet :=
  let flag := if name = "cf" ∨ name = "sc" ∨ name = "lc" then none else flagSet? name
  flag.or ((categorySet? name).or (scriptSet? name))

/-- The characters for which a property has a value. -/
def propertyValue? (property value : String) : Option CharSet :=
  match property with
  | "generalcategory" | "gc" => categorySet? value
  | "script" | "sc" => scriptSet? value
  | _ => none

/-- The text before and after the first place where a sign stands. -/
def splitAtSign (sign : List Char) : List Char → Option (List Char × List Char)
  | [] => none
  | c :: rest =>
      if sign.isPrefixOf (c :: rest) then some ([], (c :: rest).drop sign.length)
      else (splitAtSign sign rest).map fun (before, after) => (c :: before, after)

/-- The set that a query stands for, and whether its complement is meant. A query is a name, or a
property and a value with a sign between them. -/
def propertySet? (query : List Char) : Option (CharSet × Bool) :=
  let value (before after : List Char) : Option CharSet :=
    propertyValue? (normalizedName before) (normalizedName after)
  match splitAtSign ['!', '='] query with
  | some (before, after) => (value before after).map (·, true)
  | none =>
      match (splitAtSign [':'] query).or (splitAtSign ['='] query) with
      | some (before, after) => (value before after).map (·, false)
      | none => (namedProperty? (normalizedName query)).map (·, false)

end GrammarMachine.Pattern
