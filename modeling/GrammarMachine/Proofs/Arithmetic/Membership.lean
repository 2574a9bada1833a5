import GrammarMachine.Proofs.Arithmetic.Syntax

/-!
The reader finds every word of the grammar, and how deeply the brackets of a word are nested.
-/

namespace GrammarMachine.Arithmetic

/-! ### What comes next -/

theorem eq_false_of_contains {chars : List Char} {p : Char → Bool}
    (hall : (chars.all fun c => !p c) = true) {c : Char} (h : chars.contains c = true) :
    p c = false := by
  have hc := List.all_eq_true.mp hall c (List.contains_iff_mem.mp h)
  simpa using hc

theorem isDigit_of_isBlank {c : Char} (h : isBlank c = true) : Text.isDigit c = false :=
  eq_false_of_contains (by decide) h

theorem isDigit_of_isOperator {c : Char} (h : isOperator c = true) : Text.isDigit c = false :=
  eq_false_of_contains (by decide) h

theorem isBlank_of_isOperator {c : Char} (h : isOperator c = true) : isBlank c = false :=
  eq_false_of_contains (by decide) h

/-- No character with the property comes next. -/
def Clear (p : Char → Bool) (symbols : List Symbol) : Prop :=
  (Symbol.next? symbols).any p = false

theorem clear_char {p : Char → Bool} {c : Char} {rest : List Symbol} :
    Clear p (.char c :: rest) ↔ p c = false :=
  Iff.rfl

theorem Blanks.clear (b : Blanks) {p : Char → Bool} (hp : ∀ c, isBlank c = true → p c = false)
    {rest : List Symbol} (hrest : Clear p rest) : Clear p (b.symbols ++ rest) := by
  obtain ⟨text, hblank⟩ := b
  cases text with
  | nil => exact hrest
  | cons c text =>
      simp only [List.all_cons, Bool.and_eq_true] at hblank
      exact hp c hblank.1

theorem Blanks.take_append (b : Blanks) {rest : List Symbol} (hrest : Clear isBlank rest) :
    Blanks.take (b.symbols ++ rest) = b ∧ skipBlanks (b.symbols ++ rest) = rest := by
  obtain ⟨htake, hskip⟩ := Symbol.takeChars_ofText_append b.blank hrest
  exact ⟨Blanks.ext htake, hskip⟩

theorem Operator.take?_char (op : Operator) (rest : List Symbol) :
    Operator.take? (.char op.char :: rest) = some (op, rest) := by
  simp [Operator.take?, op.operator]

theorem Operator.take?_eq_none {symbols : List Symbol} (h : Clear isOperator symbols) :
    Operator.take? symbols = none := by
  rcases symbols with _ | ⟨c | _, rest⟩
  · rfl
  · rw [clear_char] at h
    simp [Operator.take?, h]
  · rfl

theorem Digits.take?_append (digits : Digits) {rest : List Symbol}
    (hrest : Clear Text.isDigit rest) :
    Digits.take? (Symbol.ofText digits.text ++ rest) = some digits ∧
      Symbol.dropChars Text.isDigit (Symbol.ofText digits.text ++ rest) = rest := by
  obtain ⟨htake, hdrop⟩ := Symbol.takeChars_ofText_append digits.digit hrest
  refine ⟨?_, hdrop⟩
  unfold Digits.take?
  simp only [htake, ne_eq, digits.nonempty, not_false_eq_true, dite_true]

theorem Digits.head (digits : Digits) (rest : List Symbol) :
    ∃ c rest', Symbol.ofText digits.text ++ rest = .char c :: rest' ∧ Text.isDigit c = true := by
  obtain ⟨text, hdigit, hnonempty⟩ := digits
  cases text with
  | nil => exact absurd rfl hnonempty
  | cons c text =>
      simp only [List.all_cons, Bool.and_eq_true] at hdigit
      exact ⟨c, Symbol.ofText text ++ rest, rfl, hdigit.1⟩

theorem Atom.symbols_ne_nil (a : Atom) : a.symbols ≠ [] := by
  cases a with
  | gap => exact List.cons_ne_nil _ _
  | number digits =>
      obtain ⟨c, rest, hsymbols, -⟩ := digits.head []
      rw [List.append_nil] at hsymbols
      rw [Atom.symbols, hsymbols]
      exact List.cons_ne_nil _ _
  | group before body after =>
      rw [Atom.symbols]
      exact List.cons_ne_nil _ _
  | list before items =>
      rw [Atom.symbols]
      exact List.cons_ne_nil _ _

theorem Expression.symbols_ne_nil (e : Expression) : e.symbols ≠ [] := by
  cases e with
  | mk first chain =>
      rw [Expression.symbols]
      exact List.append_ne_nil_of_left_ne_nil first.symbols_ne_nil _

theorem Program.symbols_ne_nil (p : Program) : p.symbols ≠ [] := by
  rw [Program.symbols]
  exact List.append_ne_nil_of_left_ne_nil
    (List.append_ne_nil_of_right_ne_nil _ p.body.symbols_ne_nil) _

theorem Atom.clear_isBlank (a : Atom) (rest : List Symbol) : Clear isBlank (a.symbols ++ rest) := by
  cases a with
  | gap => rfl
  | number digits =>
      obtain ⟨c, rest', hsymbols, hc⟩ := digits.head rest
      rw [Atom.symbols, hsymbols, clear_char, ← Bool.not_eq_true]
      intro hblank
      rw [isDigit_of_isBlank hblank] at hc
      cases hc
  | group before body after =>
      rw [Atom.symbols, List.cons_append, clear_char]
      decide
  | list before items =>
      rw [Atom.symbols, List.cons_append, clear_char]
      decide

theorem Expression.clear_isBlank (e : Expression) (rest : List Symbol) :
    Clear isBlank (e.symbols ++ rest) := by
  cases e with
  | mk first chain =>
      rw [Expression.symbols, List.append_assoc]
      exact first.clear_isBlank _

theorem Chain.clear_isDigit (t : Chain) {rest : List Symbol} (hrest : Clear Text.isDigit rest) :
    Clear Text.isDigit (t.symbols ++ rest) := by
  cases t with
  | nil => exact hrest
  | cons before op after operand chain =>
      rw [Chain.symbols, List.append_assoc]
      refine before.clear (fun _ => isDigit_of_isBlank) ?_
      rw [List.cons_append, clear_char]
      exact isDigit_of_isOperator op.operator

/-- What never continues an expression. -/
structure Follows (rest : List Symbol) : Prop where
  digit : Clear Text.isDigit rest
  operator : Clear isOperator (skipBlanks rest)

/-- Behind an expression there may be white space and a character that is no operator. -/
theorem Blanks.follows (b : Blanks) {c : Char} (rest : List Symbol)
    (hdigit : Text.isDigit c = false) (hblank : isBlank c = false)
    (hoperator : isOperator c = false) : Follows (b.symbols ++ .char c :: rest) := by
  constructor
  · exact b.clear (fun _ => isDigit_of_isBlank) hdigit
  · rw [(b.take_append (clear_char.mpr hblank)).2]
    exact hoperator

theorem Blanks.follows_end (b : Blanks) : Follows b.symbols := by
  rw [← b.symbols.append_nil]
  constructor
  · exact b.clear (fun _ => isDigit_of_isBlank) rfl
  · rw [(b.take_append (show Clear isBlank [] from rfl)).2]
    rfl

/-! ### What is there is read -/

theorem after?_self (c : Char) (rest : List Symbol) : after? c (.char c :: rest) = some rest :=
  after?_eq_some.mpr rfl

theorem after?_eq_none {c d : Char} (h : d ≠ c) (rest : List Symbol) :
    after? c (.char d :: rest) = none :=
  if_neg h

theorem readExpression_bracket (fuel : Nat) (rest : List Symbol) :
    readExpression fuel (.char ']' :: rest) = none := by
  rcases fuel with _ | _ | fuel
  · rfl
  · rfl
  · rfl

theorem More.follows (more : More) (b : Blanks) (rest : List Symbol) :
    Follows (b.symbols ++ (more.symbols ++ .char ']' :: rest)) := by
  cases more with
  | nil => exact b.follows _ (by decide) (by decide) (by decide)
  | trailing after => exact b.follows _ (by decide) (by decide) (by decide)
  | cons before item after more => exact b.follows _ (by decide) (by decide) (by decide)

theorem More.clear_isBlank (more : More) (rest : List Symbol) :
    Clear isBlank (more.symbols ++ .char ']' :: rest) := by
  cases more with
  | nil => exact clear_char.mpr (by decide)
  | trailing after => exact clear_char.mpr (by decide)
  | cons before item after more => exact clear_char.mpr (by decide)

theorem Items.clear_isBlank (items : Items) (rest : List Symbol) :
    Clear isBlank (items.symbols ++ .char ']' :: rest) := by
  cases items with
  | none => exact clear_char.mpr (by decide)
  | some first after more =>
      rw [Items.symbols, List.append_assoc, List.append_assoc]
      exact first.clear_isBlank _

theorem read_number (digits : Digits) {fuel : Nat} {rest : List Symbol}
    (hrest : Clear Text.isDigit rest) :
    readAtom (fuel + 1) (Symbol.ofText digits.text ++ rest) = some (.number digits, rest) := by
  obtain ⟨htake, hdrop⟩ := digits.take?_append hrest
  obtain ⟨c, rest', hsymbols, hc⟩ := digits.head rest
  have hround : c ≠ '(' := by
    rintro rfl
    revert hc
    decide
  have hsquare : c ≠ '[' := by
    rintro rfl
    revert hc
    decide
  rw [hsymbols] at htake hdrop ⊢
  rw [readAtom, if_neg (by simp)]
  simp only [after?_eq_none hround, after?_eq_none hsquare, htake, hdrop, Option.map_some]

mutual

-- Each part is read back from its symbols, whatever cannot continue it follows. The recursion is on
-- the syntax; three units of fuel a symbol suffice, since each call at the same symbol is of
-- another kind.
theorem Atom.read (a : Atom) {fuel : Nat} {rest : List Symbol} (hrest : Clear Text.isDigit rest)
    (hfuel : 3 * a.symbols.length + 1 ≤ fuel) :
    readAtom fuel (a.symbols ++ rest) = some (a, rest) := by
  obtain ⟨fuel, rfl⟩ : ∃ fuel', fuel = fuel' + 1 := ⟨fuel - 1, by omega⟩
  cases a with
  | gap => rfl
  | number digits => exact read_number digits hrest
  | group before body after =>
      simp only [Atom.symbols, List.length_cons, List.length_append, List.length_nil] at hfuel
      have hbefore := before.take_append
        (body.clear_isBlank (after.symbols ++ .char ')' :: rest))
      have hafter := after.take_append (@clear_char isBlank ')' rest |>.mpr (by decide))
      have hfollows : Follows (after.symbols ++ .char ')' :: rest) :=
        after.follows rest (by decide) (by decide) (by decide)
      have hbody := body.read hfollows
        (show 3 * body.symbols.length + 2 ≤ fuel by omega)
      simp only [Atom.symbols, List.cons_append, List.append_assoc, List.nil_append]
      rw [readAtom, if_neg (by simp)]
      simp only [after?_self, hbefore, hbody, Option.bind_some, hafter, Option.map_some]
  | list before items =>
      simp only [Atom.symbols, List.length_cons, List.length_append, List.length_nil] at hfuel
      have hitems := items.read rest (show 3 * items.symbols.length + 3 ≤ fuel by omega)
      have hbefore := before.take_append (items.clear_isBlank rest)
      simp only [Atom.symbols, List.cons_append, List.append_assoc, List.nil_append]
      rw [readAtom, if_neg (by simp)]
      simp only [after?_eq_none (show '[' ≠ '(' by decide), after?_self, hbefore, hitems,
        Option.map_some]

theorem Expression.read (e : Expression) {fuel : Nat} {rest : List Symbol} (hrest : Follows rest)
    (hfuel : 3 * e.symbols.length + 2 ≤ fuel) :
    readExpression fuel (e.symbols ++ rest) = some (e, rest) := by
  obtain ⟨fuel, rfl⟩ : ∃ fuel', fuel = fuel' + 1 := ⟨fuel - 1, by omega⟩
  cases e with
  | mk first chain =>
      simp only [Expression.symbols, List.length_append] at hfuel
      have hfirst := first.read (chain.clear_isDigit hrest.digit)
        (show 3 * first.symbols.length + 1 ≤ fuel by omega)
      have hchain := chain.read hrest (show 3 * chain.symbols.length + 1 ≤ fuel by omega)
      rw [Expression.symbols, List.append_assoc, readExpression]
      simp only [hfirst, Option.bind_some, hchain, Option.map_some]

theorem Chain.read (t : Chain) {fuel : Nat} {rest : List Symbol} (hrest : Follows rest)
    (hfuel : 3 * t.symbols.length + 1 ≤ fuel) :
    readChain fuel (t.symbols ++ rest) = some (t, rest) := by
  obtain ⟨fuel, rfl⟩ : ∃ fuel', fuel = fuel' + 1 := ⟨fuel - 1, by omega⟩
  cases t with
  | nil =>
      rw [Chain.symbols, List.nil_append, readChain]
      simp only [Operator.take?_eq_none hrest.operator]
  | cons before op after operand chain =>
      simp only [Chain.symbols, List.length_cons, List.length_append] at hfuel
      have hbefore := before.take_append (clear_char.mpr (isBlank_of_isOperator op.operator)
        : Clear isBlank (.char op.char ::
          (after.symbols ++ (operand.symbols ++ (chain.symbols ++ rest)))))
      have hafter := after.take_append (operand.clear_isBlank (chain.symbols ++ rest))
      have hoperand := operand.read (chain.clear_isDigit hrest.digit)
        (show 3 * operand.symbols.length + 1 ≤ fuel by omega)
      have hchain := chain.read hrest (show 3 * chain.symbols.length + 1 ≤ fuel by omega)
      simp only [Chain.symbols, List.cons_append, List.append_assoc]
      rw [readChain]
      simp only [hbefore, Operator.take?_char, hafter, hoperand, Option.bind_some, hchain,
        Option.map_some]

theorem Items.read (items : Items) {fuel : Nat} (rest : List Symbol)
    (hfuel : 3 * items.symbols.length + 3 ≤ fuel) :
    readItems fuel (items.symbols ++ .char ']' :: rest) = (items, .char ']' :: rest) := by
  obtain ⟨fuel, rfl⟩ : ∃ fuel', fuel = fuel' + 1 := ⟨fuel - 1, by omega⟩
  cases items with
  | none =>
      rw [Items.symbols, List.nil_append, readItems]
      simp only [readExpression_bracket]
  | some first after more =>
      simp only [Items.symbols, List.length_append] at hfuel
      have hfirst := first.read (more.follows after rest)
        (show 3 * first.symbols.length + 2 ≤ fuel by omega)
      have hafter := after.take_append (more.clear_isBlank rest)
      have hmore := more.read rest (show 3 * more.symbols.length + 1 ≤ fuel by omega)
      simp only [Items.symbols, List.append_assoc]
      rw [readItems]
      simp only [hfirst, hafter, hmore]

theorem More.read (more : More) {fuel : Nat} (rest : List Symbol)
    (hfuel : 3 * more.symbols.length + 1 ≤ fuel) :
    readMore fuel (more.symbols ++ .char ']' :: rest) = (more, .char ']' :: rest) := by
  obtain ⟨fuel, rfl⟩ : ∃ fuel', fuel = fuel' + 1 := ⟨fuel - 1, by omega⟩
  cases more with
  | nil =>
      rw [More.symbols, List.nil_append, readMore]
      simp only [after?_eq_none (show ']' ≠ ',' by decide)]
  | trailing after =>
      have hafter := after.take_append (@clear_char isBlank ']' rest |>.mpr (by decide))
      rw [More.symbols, List.cons_append, readMore]
      simp only [after?_self, hafter, readExpression_bracket]
  | cons before item after more =>
      simp only [More.symbols, List.length_cons, List.length_append] at hfuel
      have hbefore := before.take_append
        (item.clear_isBlank (after.symbols ++ (more.symbols ++ .char ']' :: rest)))
      have hitem := item.read (more.follows after rest)
        (show 3 * item.symbols.length + 2 ≤ fuel by omega)
      have hafter := after.take_append (more.clear_isBlank rest)
      have hmore := more.read rest (show 3 * more.symbols.length + 1 ≤ fuel by omega)
      simp only [More.symbols, List.cons_append, List.append_assoc]
      rw [readMore]
      simp only [after?_self, hbefore, hitem, hafter, hmore]

end

/-- The reader reads all of the words of the grammar and of no other rows of symbols. -/
theorem readProgram_iff (symbols : List Symbol) (p : Program) :
    readProgram symbols = some (p, []) ↔ p.symbols = symbols := by
  constructor
  · intro h
    have hsymbols := readProgram_sound h
    rw [List.append_nil] at hsymbols
    exact hsymbols.symm
  · rintro rfl
    obtain ⟨before, body, after⟩ := p
    have hafter := after.take_append (show Clear isBlank [] from rfl)
    rw [List.append_nil] at hafter
    have hbefore := before.take_append (body.clear_isBlank after.symbols)
    have hbody : readExpression
        (3 * (before.symbols ++ (body.symbols ++ after.symbols)).length + 2)
        (body.symbols ++ after.symbols) = some (body, after.symbols) := by
      refine body.read after.follows_end ?_
      simp only [List.length_append]
      omega
    simp only [readProgram, Program.symbols, List.append_assoc, hbefore, hbody, Option.map_some,
      hafter]

/-! ### Nesting -/

def isOpening (c : Char) : Bool :=
  "([".toList.contains c

def isClosing (c : Char) : Bool :=
  ")]".toList.contains c

/-- The most brackets that are open at once and not closed before. -/
def nesting : List Symbol → Nat
  | [] => 0
  | .char c :: rest =>
      if isOpening c then nesting rest + 1
      else if isClosing c then nesting rest - 1
      else nesting rest
  | .gap :: rest => nesting rest

theorem length_skipBlanks_le (symbols : List Symbol) :
    (skipBlanks symbols).length ≤ symbols.length := by
  have hlength := congrArg List.length (take_append_skipBlanks symbols)
  rw [List.length_append] at hlength
  omega

theorem nesting_opening {c : Char} (h : isOpening c = true) (rest : List Symbol) :
    nesting (.char c :: rest) = nesting rest + 1 := by
  simp only [nesting, h, if_true]

theorem nesting_le_cons {c : Char} (h : isClosing c = false) (rest : List Symbol) :
    nesting rest ≤ nesting (.char c :: rest) := by
  simp only [nesting, h]
  split
  · exact Nat.le_succ _
  · exact Nat.le_refl _

theorem nesting_le_closing {c : Char} (rest : List Symbol) :
    nesting rest ≤ nesting (.char c :: rest) + 1 := by
  simp only [nesting]
  repeat' split
  all_goals omega

theorem nesting_le_ofText {text : List Char} (h : ∀ c ∈ text, isClosing c = false)
    (rest : List Symbol) : nesting rest ≤ nesting (Symbol.ofText text ++ rest) := by
  induction text with
  | nil => exact Nat.le_refl _
  | cons c text ih =>
      have htail := ih fun c hc => h c (List.mem_cons_of_mem _ hc)
      have hhead := nesting_le_cons (h c List.mem_cons_self) (Symbol.ofText text ++ rest)
      exact Nat.le_trans htail hhead

theorem isClosing_of_isBlank {c : Char} (h : isBlank c = true) : isClosing c = false :=
  eq_false_of_contains (by decide) h

theorem isClosing_of_isOperator {c : Char} (h : isOperator c = true) : isClosing c = false :=
  eq_false_of_contains (by decide) h

theorem isClosing_of_isDigit {c : Char} (h : Text.isDigit c = true) : isClosing c = false := by
  rw [← Bool.not_eq_true]
  intro hclosing
  have hdigit : Text.isDigit c = false := eq_false_of_contains (by decide) hclosing
  rw [hdigit] at h
  cases h

theorem Blanks.nesting_le (b : Blanks) (rest : List Symbol) :
    nesting rest ≤ nesting (b.symbols ++ rest) :=
  nesting_le_ofText (fun c hc => isClosing_of_isBlank (List.all_eq_true.mp b.blank c hc)) rest

theorem nesting_skipBlanks_le (symbols : List Symbol) :
    nesting (skipBlanks symbols) ≤ nesting symbols := by
  have hle := (Blanks.take symbols).nesting_le (skipBlanks symbols)
  rwa [take_append_skipBlanks] at hle

mutual

-- What is read leaves no bracket open, so what follows it is nested no more deeply.
theorem Atom.nesting_le (a : Atom) (rest : List Symbol) :
    nesting rest ≤ nesting (a.symbols ++ rest) := by
  cases a with
  | gap => exact Nat.le_refl _
  | number digits =>
      exact nesting_le_ofText
        (fun c hc => isClosing_of_isDigit (List.all_eq_true.mp digits.digit c hc)) rest
  | group before body after =>
      simp only [Atom.symbols, List.cons_append, List.append_assoc, List.nil_append]
      have hbefore := before.nesting_le (body.symbols ++ (after.symbols ++ .char ')' :: rest))
      have hbody := body.nesting_le (after.symbols ++ .char ')' :: rest)
      have hafter := after.nesting_le (.char ')' :: rest)
      have hclose := @nesting_le_closing ')' rest
      rw [nesting_opening (by decide)]
      omega
  | list before items =>
      simp only [Atom.symbols, List.cons_append, List.append_assoc, List.nil_append]
      have hbefore := before.nesting_le (items.symbols ++ .char ']' :: rest)
      have hitems := items.nesting_le (.char ']' :: rest)
      have hclose := @nesting_le_closing ']' rest
      rw [nesting_opening (by decide)]
      omega

theorem Expression.nesting_le (e : Expression) (rest : List Symbol) :
    nesting rest ≤ nesting (e.symbols ++ rest) := by
  cases e with
  | mk first chain =>
      rw [Expression.symbols, List.append_assoc]
      exact Nat.le_trans (chain.nesting_le rest) (first.nesting_le _)

theorem Chain.nesting_le (t : Chain) (rest : List Symbol) :
    nesting rest ≤ nesting (t.symbols ++ rest) := by
  cases t with
  | nil => exact Nat.le_refl _
  | cons before op after operand chain =>
      simp only [Chain.symbols, List.cons_append, List.append_assoc]
      refine Nat.le_trans ?_ (before.nesting_le _)
      refine Nat.le_trans ?_ (nesting_le_cons (isClosing_of_isOperator op.operator) _)
      refine Nat.le_trans ?_ (after.nesting_le _)
      exact Nat.le_trans (chain.nesting_le rest) (operand.nesting_le _)

theorem Items.nesting_le (items : Items) (rest : List Symbol) :
    nesting rest ≤ nesting (items.symbols ++ rest) := by
  cases items with
  | none => exact Nat.le_refl _
  | some first after more =>
      simp only [Items.symbols, List.append_assoc]
      refine Nat.le_trans ?_ (first.nesting_le _)
      exact Nat.le_trans (more.nesting_le rest) (after.nesting_le _)

theorem More.nesting_le (more : More) (rest : List Symbol) :
    nesting rest ≤ nesting (more.symbols ++ rest) := by
  cases more with
  | nil => exact Nat.le_refl _
  | trailing after =>
      rw [More.symbols, List.cons_append]
      exact Nat.le_trans (after.nesting_le rest) (nesting_le_cons (by decide) _)
  | cons before item after more =>
      simp only [More.symbols, List.cons_append, List.append_assoc]
      refine Nat.le_trans ?_ (nesting_le_cons (by decide) _)
      refine Nat.le_trans ?_ (before.nesting_le _)
      refine Nat.le_trans ?_ (item.nesting_le _)
      exact Nat.le_trans (more.nesting_le rest) (after.nesting_le _)

end

end GrammarMachine.Arithmetic
