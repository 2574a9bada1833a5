import GrammarMachine.Builtin.Basic
import GrammarMachine.Proofs.Source.Reading

/-!
The grammar of arithmetic expressions, and a reader for it.

    Program    := ws Expression ws
    Expression := Atom Chain
    Chain      := (ws op ws Atom)*
    Atom       := '(' ws Expression ws ')' | '[' ws Items ']' | digit+ | gap
    Items      := (Expression ws More)?
    More       := (',' ws Expression ws)* (',' ws)?

Its words are rows of symbols, that is, of characters and gaps. The reader never goes back, yet it
finds every word, because what may follow an expression never continues it.
-/

namespace GrammarMachine.Arithmetic

def isBlank (c : Char) : Bool :=
  " \t\r\n".toList.contains c

def isOperator (c : Char) : Bool :=
  "-+*/".toList.contains c

/-- White space. -/
@[ext] structure Blanks where
  text : List Char
  blank : text.all isBlank = true

/-- A row of digits of any script. -/
@[ext] structure Digits where
  text : List Char
  digit : text.all Text.isDigit = true
  nonempty : text ≠ []

/-- One of the four operators. -/
@[ext] structure Operator where
  char : Char
  operator : isOperator char = true

mutual

/-- An operand. -/
inductive Atom where
  | gap
  | number (digits : Digits)
  | group (before : Blanks) (body : Expression) (after : Blanks)
  | list (before : Blanks) (items : Items)

/-- An operand and what follows it. -/
inductive Expression where
  | mk (first : Atom) (rest : Chain)

/-- Any number of operators with their right operands. -/
inductive Chain where
  | nil
  | cons (before : Blanks) (op : Operator) (after : Blanks) (operand : Atom) (rest : Chain)

/-- What stands between the brackets of a list. -/
inductive Items where
  | none
  | some (first : Expression) (after : Blanks) (rest : More)

/-- Further items of a list, perhaps with a comma at the end. -/
inductive More where
  | nil
  | trailing (after : Blanks)
  | cons (before : Blanks) (item : Expression) (after : Blanks) (rest : More)

end

/-- A whole input. -/
structure Program where
  before : Blanks
  body : Expression
  after : Blanks

def Blanks.symbols (b : Blanks) : List Symbol :=
  Symbol.ofText b.text

mutual

def Atom.symbols : Atom → List Symbol
  | .gap => [.gap]
  | .number digits => Symbol.ofText digits.text
  | .group before body after =>
      .char '(' :: (before.symbols ++ body.symbols ++ after.symbols ++ [.char ')'])
  | .list before items => .char '[' :: (before.symbols ++ items.symbols ++ [.char ']'])

def Expression.symbols : Expression → List Symbol
  | .mk first rest => first.symbols ++ rest.symbols

def Chain.symbols : Chain → List Symbol
  | .nil => []
  | .cons before op after operand rest =>
      before.symbols ++ .char op.char :: (after.symbols ++ operand.symbols ++ rest.symbols)

def Items.symbols : Items → List Symbol
  | .none => []
  | .some first after rest => first.symbols ++ after.symbols ++ rest.symbols

def More.symbols : More → List Symbol
  | .nil => []
  | .trailing after => .char ',' :: after.symbols
  | .cons before item after rest =>
      .char ',' :: (before.symbols ++ item.symbols ++ after.symbols ++ rest.symbols)

end

def Program.symbols (p : Program) : List Symbol :=
  p.before.symbols ++ p.body.symbols ++ p.after.symbols

/-! ### The reader -/

def Blanks.take (symbols : List Symbol) : Blanks :=
  ⟨Symbol.takeChars isBlank symbols, Symbol.all_takeChars _ _⟩

def skipBlanks (symbols : List Symbol) : List Symbol :=
  Symbol.dropChars isBlank symbols

/-- What follows the given character, if it comes next. -/
def after? (c : Char) : List Symbol → Option (List Symbol)
  | .char d :: rest => if d = c then some rest else none
  | _ => none

def Operator.take? : List Symbol → Option (Operator × List Symbol)
  | .char c :: rest => if h : isOperator c = true then some (⟨c, h⟩, rest) else none
  | _ => none

def Digits.take? (symbols : List Symbol) : Option Digits :=
  if h : Symbol.takeChars Text.isDigit symbols ≠ [] then
    some ⟨_, Symbol.all_takeChars _ _, h⟩
  else none

mutual

/-- Reads an operand. The fuel bounds the number of nested calls. -/
def readAtom : Nat → List Symbol → Option (Atom × List Symbol)
  | 0, _ => none
  | fuel + 1, symbols =>
      if symbols.head? = some .gap then some (.gap, symbols.tail)
      else
        match after? '(' symbols, after? '[' symbols with
        | some rest, _ =>
            (readExpression fuel (skipBlanks rest)).bind fun (body, behind) =>
              (after? ')' (skipBlanks behind)).map fun rest' =>
                (.group (.take rest) body (.take behind), rest')
        | none, some rest =>
            let (items, behind) := readItems fuel (skipBlanks rest)
            (after? ']' behind).map fun rest' => (.list (.take rest) items, rest')
        | none, none =>
            (Digits.take? symbols).map fun digits =>
              (.number digits, Symbol.dropChars Text.isDigit symbols)

def readExpression : Nat → List Symbol → Option (Expression × List Symbol)
  | 0, _ => none
  | fuel + 1, symbols =>
      (readAtom fuel symbols).bind fun (first, behind) =>
        (readChain fuel behind).map fun (rest, rest') => (.mk first rest, rest')

/-- Reads the rest of an expression. Once an operator is seen, an operand must follow. -/
def readChain : Nat → List Symbol → Option (Chain × List Symbol)
  | 0, _ => none
  | fuel + 1, symbols =>
      match Operator.take? (skipBlanks symbols) with
      | none => some (.nil, symbols)
      | some (op, rest) =>
          (readAtom fuel (skipBlanks rest)).bind fun (operand, behind) =>
            (readChain fuel behind).map fun (chain, rest') =>
              (.cons (.take symbols) op (.take rest) operand chain, rest')

/-- Reads the items of a list. What is no item is left to the closing bracket. -/
def readItems : Nat → List Symbol → Items × List Symbol
  | 0, symbols => (.none, symbols)
  | fuel + 1, symbols =>
      match readExpression fuel symbols with
      | none => (.none, symbols)
      | some (first, behind) =>
          let (rest, rest') := readMore fuel (skipBlanks behind)
          (.some first (.take behind) rest, rest')

def readMore : Nat → List Symbol → More × List Symbol
  | 0, symbols => (.nil, symbols)
  | fuel + 1, symbols =>
      match after? ',' symbols with
      | none => (.nil, symbols)
      | some rest =>
          match readExpression fuel (skipBlanks rest) with
          | none => (.trailing (.take rest), skipBlanks rest)
          | some (item, behind) =>
              let (more, rest') := readMore fuel (skipBlanks behind)
              (.cons (.take rest) item (.take behind) more, rest')

end

/-- Reads white space, an expression and white space. -/
def readProgram (symbols : List Symbol) : Option (Program × List Symbol) :=
  (readExpression (3 * symbols.length + 2) (skipBlanks symbols)).map fun (body, behind) =>
    (⟨.take symbols, body, .take behind⟩, skipBlanks behind)

/-! ### What is read was there -/

theorem take_append_skipBlanks (symbols : List Symbol) :
    (Blanks.take symbols).symbols ++ skipBlanks symbols = symbols :=
  Symbol.takeChars_append_dropChars _ _

theorem after?_eq_some {c : Char} {symbols rest : List Symbol} :
    after? c symbols = some rest ↔ symbols = .char c :: rest := by
  rcases symbols with _ | ⟨d | _, symbols⟩
  · simp [after?]
  · simp [after?]
  · simp [after?]

theorem Operator.take?_eq_some {symbols rest : List Symbol} {op : Operator}
    (h : Operator.take? symbols = some (op, rest)) : symbols = .char op.char :: rest := by
  unfold Operator.take? at h
  split at h
  · split at h
    · cases h
      rfl
    · cases h
  · cases h

theorem Digits.take?_eq_some {symbols : List Symbol} {digits : Digits}
    (h : Digits.take? symbols = some digits) :
    Symbol.ofText digits.text ++ Symbol.dropChars Text.isDigit symbols = symbols := by
  unfold Digits.take? at h
  split at h
  · cases h
    exact Symbol.takeChars_append_dropChars _ _
  · cases h

/-- Reading with a given fuel is sound. -/
structure ReadsSoundly (fuel : Nat) : Prop where
  atom : ∀ {symbols a rest}, readAtom fuel symbols = some (a, rest) → symbols = a.symbols ++ rest
  expression : ∀ {symbols e rest}, readExpression fuel symbols = some (e, rest) →
    symbols = e.symbols ++ rest
  chain : ∀ {symbols t rest}, readChain fuel symbols = some (t, rest) → symbols = t.symbols ++ rest
  items : ∀ symbols, symbols = (readItems fuel symbols).1.symbols ++ (readItems fuel symbols).2
  more : ∀ symbols, symbols = (readMore fuel symbols).1.symbols ++ (readMore fuel symbols).2

theorem readAtom_sound {fuel : Nat} (h : ReadsSoundly fuel) {symbols rest : List Symbol} {a : Atom}
    (hread : readAtom (fuel + 1) symbols = some (a, rest)) : symbols = a.symbols ++ rest := by
  rw [readAtom] at hread
  split at hread
  · rename_i hgap
    obtain ⟨tail, rfl⟩ := List.head?_eq_some_iff.mp hgap
    cases hread
    rfl
  split at hread
  · rename_i inside hopen
    obtain ⟨⟨body, behind⟩, hbody, hclose⟩ := Option.bind_eq_some_iff.mp hread
    obtain ⟨rest', hclose, hmade⟩ := Option.map_eq_some_iff.mp hclose
    cases hmade
    rw [after?_eq_some] at hopen hclose
    rw [hopen, Atom.symbols, List.cons_append]
    congr 1
    calc inside = (Blanks.take inside).symbols ++ skipBlanks inside :=
          (take_append_skipBlanks _).symm
      _ = (Blanks.take inside).symbols ++ (body.symbols ++ behind) := by
          rw [h.expression hbody]
      _ = (Blanks.take inside).symbols ++ (body.symbols ++
            ((Blanks.take behind).symbols ++ .char ')' :: rest)) := by
          rw [← hclose, take_append_skipBlanks]
      _ = _ := by simp
  · rename_i inside _ hopen
    obtain ⟨rest', hclose, hmade⟩ := Option.map_eq_some_iff.mp hread
    cases hmade
    rw [after?_eq_some] at hopen hclose
    rw [hopen, Atom.symbols, List.cons_append]
    congr 1
    calc inside = (Blanks.take inside).symbols ++ skipBlanks inside :=
          (take_append_skipBlanks _).symm
      _ = (Blanks.take inside).symbols ++ ((readItems fuel (skipBlanks inside)).1.symbols ++
            (readItems fuel (skipBlanks inside)).2) := by
          rw [← h.items]
      _ = _ := by simp [hclose]
  · obtain ⟨digits, hdigits, hmade⟩ := Option.map_eq_some_iff.mp hread
    cases hmade
    exact (Digits.take?_eq_some hdigits).symm

theorem readExpression_sound {fuel : Nat} (h : ReadsSoundly fuel) {symbols rest : List Symbol}
    {e : Expression} (hread : readExpression (fuel + 1) symbols = some (e, rest)) :
    symbols = e.symbols ++ rest := by
  rw [readExpression] at hread
  obtain ⟨⟨first, behind⟩, hfirst, hrest⟩ := Option.bind_eq_some_iff.mp hread
  obtain ⟨⟨chain, rest'⟩, hchain, hmade⟩ := Option.map_eq_some_iff.mp hrest
  cases hmade
  rw [h.atom hfirst, h.chain hchain, Expression.symbols, List.append_assoc]

theorem readChain_sound {fuel : Nat} (h : ReadsSoundly fuel) {symbols rest : List Symbol}
    {t : Chain} (hread : readChain (fuel + 1) symbols = some (t, rest)) :
    symbols = t.symbols ++ rest := by
  rw [readChain] at hread
  split at hread
  · cases hread
    rfl
  · rename_i op after hop
    obtain ⟨⟨operand, behind⟩, hoperand, hrest⟩ := Option.bind_eq_some_iff.mp hread
    obtain ⟨⟨chain, rest'⟩, hchain, hmade⟩ := Option.map_eq_some_iff.mp hrest
    cases hmade
    calc symbols = (Blanks.take symbols).symbols ++ skipBlanks symbols :=
          (take_append_skipBlanks _).symm
      _ = (Blanks.take symbols).symbols ++
            (.char op.char :: ((Blanks.take after).symbols ++ skipBlanks after)) := by
          rw [Operator.take?_eq_some hop, take_append_skipBlanks]
      _ = _ := by
          rw [h.atom hoperand, h.chain hchain, Chain.symbols]
          simp

theorem readItems_sound {fuel : Nat} (h : ReadsSoundly fuel) (symbols : List Symbol) :
    symbols = (readItems (fuel + 1) symbols).1.symbols ++ (readItems (fuel + 1) symbols).2 := by
  rw [readItems]
  split
  · rfl
  · rename_i first behind hfirst
    calc symbols = first.symbols ++ ((Blanks.take behind).symbols ++ skipBlanks behind) := by
          rw [take_append_skipBlanks, ← h.expression hfirst]
      _ = first.symbols ++ ((Blanks.take behind).symbols ++
            ((readMore fuel (skipBlanks behind)).1.symbols ++
              (readMore fuel (skipBlanks behind)).2)) := by
          rw [← h.more]
      _ = _ := by simp [Items.symbols]

theorem readMore_sound {fuel : Nat} (h : ReadsSoundly fuel) (symbols : List Symbol) :
    symbols = (readMore (fuel + 1) symbols).1.symbols ++ (readMore (fuel + 1) symbols).2 := by
  rw [readMore]
  split
  · rfl
  · rename_i inside hcomma
    rw [after?_eq_some] at hcomma
    split
    · simp [hcomma, More.symbols, take_append_skipBlanks]
    · rename_i item behind hitem
      calc symbols = .char ',' :: ((Blanks.take inside).symbols ++ skipBlanks inside) := by
            rw [take_append_skipBlanks, hcomma]
        _ = .char ',' :: ((Blanks.take inside).symbols ++
              (item.symbols ++ ((Blanks.take behind).symbols ++ skipBlanks behind))) := by
            rw [take_append_skipBlanks behind, ← h.expression hitem]
        _ = .char ',' :: ((Blanks.take inside).symbols ++
              (item.symbols ++ ((Blanks.take behind).symbols ++
                ((readMore fuel (skipBlanks behind)).1.symbols ++
                  (readMore fuel (skipBlanks behind)).2)))) := by
            rw [← h.more]
        _ = _ := by simp [More.symbols]

theorem readsSoundly (fuel : Nat) : ReadsSoundly fuel := by
  induction fuel with
  | zero =>
      constructor
      · intro symbols a rest h
        cases h
      · intro symbols e rest h
        cases h
      · intro symbols t rest h
        cases h
      · intro symbols
        rfl
      · intro symbols
        rfl
  | succ fuel ih =>
      constructor
      · exact readAtom_sound ih
      · exact readExpression_sound ih
      · exact readChain_sound ih
      · exact readItems_sound ih
      · exact readMore_sound ih

theorem readProgram_sound {symbols rest : List Symbol} {p : Program}
    (h : readProgram symbols = some (p, rest)) : symbols = p.symbols ++ rest := by
  obtain ⟨⟨body, behind⟩, hbody, hmade⟩ := Option.map_eq_some_iff.mp h
  simp only [Prod.mk.injEq] at hmade
  obtain ⟨rfl, rfl⟩ := hmade
  rw [Program.symbols]
  calc symbols = (Blanks.take symbols).symbols ++ skipBlanks symbols :=
        (take_append_skipBlanks symbols).symm
    _ = (Blanks.take symbols).symbols ++ (body.symbols ++ behind) := by
        rw [(readsSoundly _).expression hbody]
    _ = (Blanks.take symbols).symbols ++ (body.symbols ++
          ((Blanks.take behind).symbols ++ skipBlanks behind)) := by
        rw [take_append_skipBlanks behind]
    _ = _ := by simp only [List.append_assoc]

end GrammarMachine.Arithmetic
