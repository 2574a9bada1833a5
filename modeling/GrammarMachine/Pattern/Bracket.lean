import GrammarMachine.Pattern.Escape

/-!
Bracketed sets of characters: items, ranges, named classes, nested sets and the operators between
them.
-/

namespace GrammarMachine.Pattern

/-- A set with the number of levels on which it is built. -/
structure LeveledSet where
  set : CharSet
  levels : Nat

/-- A character or a set inside brackets. Only basic characters are known to some modes. -/
def readSetItem (m : Modes) (input : List Char) : Option ((Char ⊕ CharSet) × List Char) :=
  let char (c : Char) (rest : List Char) : Option ((Char ⊕ CharSet) × List Char) :=
    if m.repertoire = .ascii ∧ 0x80 ≤ c.toNat then none else some (.inl c, rest)
  match input with
  | [] => none
  | '\x5c' :: rest =>
      match readEscape m rest with
      | some (.char c, rest) => char c rest
      | some (.set s, rest) => some (.inr s, rest)
      | _ => none
  | c :: rest => char c rest

/-- An item inside brackets or a range of characters. A dash before the closing bracket or before
another dash does not make a range. -/
def readSetRange (m : Modes) (input : List Char) : Option (CharSet × List Char) := do
  let (first, rest) ← readSetItem m input
  let alone := match first with
    | .inl c => CharSet.single c
    | .inr s => s
  match m.skip rest with
  | [] => none
  | '-' :: tail =>
      if m.peek tail = some ']' ∨ m.peek tail = some '-' then some (alone, '-' :: tail)
      else match first, (← readSetItem m (m.skip tail)) with
        | .inl low, (.inl high, rest) => if low ≤ high then some (.range low high, rest) else none
        | _, _ => none
  | rest => some (alone, rest)

/-- A class named between colons inside brackets. -/
def namedSet? (name : List Char) : Option CharSet :=
  match String.ofList name with
  | "alnum" => some [(0x30, 0x39), (0x41, 0x5a), (0x61, 0x7a)]
  | "alpha" => some [(0x41, 0x5a), (0x61, 0x7a)]
  | "ascii" => some [(0x0, 0x7f)]
  | "blank" => some [(0x9, 0x9), (0x20, 0x20)]
  | "cntrl" => some [(0x0, 0x1f), (0x7f, 0x7f)]
  | "digit" => some [(0x30, 0x39)]
  | "graph" => some [(0x21, 0x7e)]
  | "lower" => some [(0x61, 0x7a)]
  | "print" => some [(0x20, 0x7e)]
  | "punct" => some [(0x21, 0x2f), (0x3a, 0x40), (0x5b, 0x60), (0x7b, 0x7e)]
  | "space" => some [(0x9, 0xd), (0x20, 0x20)]
  | "upper" => some [(0x41, 0x5a)]
  | "word" => some [(0x30, 0x39), (0x41, 0x5a), (0x5f, 0x5f), (0x61, 0x7a)]
  | "xdigit" => some [(0x30, 0x39), (0x41, 0x46), (0x61, 0x66)]
  | _ => none

/-- A name between colons after the opening bracket, and whether it is negated. -/
def readSetName (input : List Char) : Option ((CharSet × Bool) × List Char) :=
  match input with
  | ':' :: rest =>
      let (negated, rest) := match rest with
        | '^' :: rest => (true, rest)
        | rest => (false, rest)
      match rest.span (· ≠ ':') with
      | (name, ':' :: ']' :: rest) => (namedSet? name).map fun s => ((s, negated), rest)
      | _ => none
  | _ => none

/-- The set that is meant when the items of a bracket or the named class are known. -/
def closeSet (m : Modes) (negated : Bool) (s : CharSet) : Option CharSet :=
  if negated then complement? m (foldCase m s) else some (foldCase m s)

/-- The operation that joins what stands on its two sides inside brackets. -/
abbrev SetOperation := CharSet → CharSet → CharSet

/-- The items since the opening of a bracket or the last operator. -/
structure SetItems where
  set : CharSet := []
  count : Nat := 0
  levels : Nat := 0

namespace SetItems

def push (items : SetItems) (s : CharSet) (levels : Nat) : SetItems :=
  ⟨Text.Ranges.union s items.set, items.count + 1, max items.levels levels⟩

/-- The set of all items; several items take a level. -/
def close (items : SetItems) : LeveledSet :=
  ⟨items.set, if items.count ≤ 1 then items.levels else items.levels + 1⟩

/-- Joins the items to what stood before the operator in front of them, which takes a level. -/
def join (m : Modes) (left : Option (LeveledSet × SetOperation)) (items : SetItems) : LeveledSet :=
  let right := items.close
  match left with
  | some (before, operation) =>
      ⟨operation (foldCase m before.set) (foldCase m right.set),
        max before.levels right.levels + 1⟩
  | none => right

end SetItems

/-- The dashes that stand for themselves right after the opening of a bracketed set. -/
def readDashes (m : Modes) : Nat → SetItems → List Char → SetItems × List Char
  | fuel + 1, items, '-' :: rest => readDashes m fuel (items.push (.single '-') 0) (m.skip rest)
  | _, items, input => (items, input)

/-- The dashes or the closing bracket that stand for themselves right after the opening of a
bracketed set. -/
def readSetOpening (m : Modes) (input : List Char) : SetItems × List Char :=
  match input with
  | ']' :: rest => (({} : SetItems).push (.single ']') 0, m.skip rest)
  | input => readDashes m input.length {} input

mutual

/-- A bracketed set after its opening bracket. -/
def readSet (m : Modes) : Nat → List Char → Option (LeveledSet × List Char)
  | 0, _ => none
  | fuel + 1, input => do
      let (negated, rest) := match m.skip input with
        | '^' :: rest => (true, m.skip rest)
        | rest => (false, rest)
      let (items, rest) := readSetOpening m rest
      let (s, rest) ← readSetItems m fuel none items rest
      return (⟨← closeSet m negated s.set, s.levels + 1⟩, rest)

/-- The items of a bracketed set up to its closing bracket. -/
def readSetItems (m : Modes) : Nat → Option (LeveledSet × SetOperation) → SetItems → List Char →
    Option (LeveledSet × List Char)
  | 0, _, _, _ => none
  | fuel + 1, left, items, input =>
      match m.skip input with
      | [] => none
      | ']' :: rest => some (items.join m left, rest)
      | '[' :: rest =>
          match readSetName rest with
          | some ((s, negated), rest) => do
              readSetItems m fuel left (items.push (← closeSet m negated s) 0) rest
          | none => do
              let (s, rest) ← readSet m fuel rest
              readSetItems m fuel left (items.push s.set s.levels) rest
      | '&' :: '&' :: rest =>
          readSetItems m fuel (some (items.join m left, Text.Ranges.inter)) {} rest
      | '-' :: '-' :: rest =>
          readSetItems m fuel (some (items.join m left, Text.Ranges.diff)) {} rest
      | '~' :: '~' :: rest =>
          readSetItems m fuel (some (items.join m left, Text.Ranges.symmDiff)) {} rest
      | input => do
          let (s, rest) ← readSetRange m input
          readSetItems m fuel left (items.push s 0) rest

end

end GrammarMachine.Pattern
