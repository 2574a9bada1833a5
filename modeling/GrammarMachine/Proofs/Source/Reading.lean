import GrammarMachine.Proofs.Stream.Begun

/-!
Reading a row of symbols. A draft over an input that consists of symbols stands before a rest of
them, and what the machine sees of the draft is seen from that rest.
-/

namespace GrammarMachine

namespace Symbol

/-- The first characters, as long as they have a property. -/
def takeChars (p : Char → Bool) : List Symbol → List Char
  | .char c :: rest => if p c then c :: takeChars p rest else []
  | _ => []

/-- What follows the first characters that have a property. -/
def dropChars (p : Char → Bool) : List Symbol → List Symbol
  | .char c :: rest => if p c then dropChars p rest else .char c :: rest
  | rest => rest

/-- The character that comes next, if it is one. -/
def next? : List Symbol → Option Char
  | .char c :: _ => some c
  | _ => none

/-- The text up to the next gap. -/
def visible : List Symbol → List Char :=
  takeChars fun _ => true

theorem takeChars_append_dropChars (p : Char → Bool) (symbols : List Symbol) :
    ofText (takeChars p symbols) ++ dropChars p symbols = symbols := by
  fun_induction takeChars p symbols with
  | case1 c rest hc ih => simpa [dropChars, hc, ofText] using ih
  | case2 c rest hc => simp [dropChars, hc, ofText]
  | case3 symbols hsymbols =>
      rcases symbols with _ | ⟨_ | _, _⟩
      · rfl
      · exact absurd rfl (hsymbols _ _)
      · rfl

theorem all_takeChars (p : Char → Bool) (symbols : List Symbol) :
    (takeChars p symbols).all p = true := by
  fun_induction takeChars p symbols with
  | case1 c rest hc ih => simp [hc, ih]
  | case2 => rfl
  | case3 => rfl

theorem next?_dropChars (p : Char → Bool) (symbols : List Symbol) :
    (next? (dropChars p symbols)).any p = false := by
  fun_induction dropChars p symbols with
  | case1 c rest hc ih => exact ih
  | case2 c rest hc => simpa [next?] using hc
  | case3 symbols hsymbols =>
      rcases symbols with _ | ⟨_ | _, _⟩
      · rfl
      · exact absurd rfl (hsymbols _ _)
      · rfl

theorem takeChars_ofText_append {p : Char → Bool} {text : List Char} (htext : text.all p = true)
    {rest : List Symbol} (hrest : (next? rest).any p = false) :
    takeChars p (ofText text ++ rest) = text ∧ dropChars p (ofText text ++ rest) = rest := by
  induction text with
  | nil =>
      rcases rest with _ | ⟨c | _, rest⟩
      · exact ⟨rfl, rfl⟩
      · have hc : p c = false := hrest
        simp [ofText, takeChars, dropChars, hc]
      · exact ⟨rfl, rfl⟩
  | cons c text ih =>
      simp only [List.all_cons, Bool.and_eq_true] at htext
      obtain ⟨htake, hdrop⟩ := ih htext.2
      refine ⟨?_, ?_⟩
      · simpa [ofText, takeChars, htext.1] using htake
      · simpa [ofText, dropChars, htext.1] using hdrop

theorem takeWhile_visible (p : Char → Bool) (symbols : List Symbol) :
    (visible symbols).takeWhile p = takeChars p symbols := by
  unfold visible
  fun_induction takeChars p symbols with
  | case1 c rest hc ih => simp [takeChars, hc, ih]
  | case2 c rest hc => simp [takeChars, hc]
  | case3 symbols hsymbols => simp [takeChars]

theorem head?_dropWhile_visible (p : Char → Bool) (symbols : List Symbol) :
    ((visible symbols).dropWhile p).head? = next? (dropChars p symbols) := by
  unfold visible
  fun_induction dropChars p symbols with
  | case1 c rest hc ih => simpa [takeChars, hc] using ih
  | case2 c rest hc => simp [takeChars, hc, next?]
  | case3 symbols hsymbols =>
      rcases symbols with _ | ⟨_ | _, _⟩
      · rfl
      · exact absurd rfl (hsymbols _ _)
      · rfl

theorem head?_visible (symbols : List Symbol) : (visible symbols).head? = next? symbols := by
  rcases symbols with _ | ⟨_ | _, _⟩ <;> rfl

theorem visible_cases (symbols : List Symbol) :
    symbols = ofText (visible symbols) ∨
      ∃ rest, symbols = ofText (visible symbols) ++ Symbol.gap :: rest := by
  have hsplit := takeChars_append_dropChars (fun _ => true) symbols
  have hnext := next?_dropChars (fun _ => true) symbols
  change ofText (visible symbols) ++ _ = _ at hsplit
  rcases hdrop : dropChars (fun _ => true) symbols with _ | ⟨c | _, rest⟩
  · rw [hdrop, List.append_nil] at hsplit
    exact .inl hsplit.symm
  · rw [hdrop] at hnext
    cases hnext
  · rw [hdrop] at hsplit
    exact .inr ⟨rest, hsplit.symm⟩

end Symbol

namespace Draft

/-- The draft stands before the given rest of its input. -/
def Reads (d : Draft) (symbols : List Symbol) : Prop :=
  ∃ before, d.source = .ofSymbols (before ++ symbols) ∧
    d.position = ⟨Text.size (Symbol.chars before), (Symbol.gapOffsets 0 before).length⟩

namespace Reads

variable {d : Draft} {symbols rest : List Symbol}

theorem nextGap?_eq (h : d.Reads symbols) :
    d.nextGap? = (Symbol.gapOffsets d.position.offset symbols).head? := by
  obtain ⟨before, hsource, hposition⟩ := h
  simp only [nextGap?, hsource, hposition, Source.ofSymbols, Symbol.gapOffsets_append, Nat.zero_add]
  rw [List.getElem?_append_right (Nat.le_refl _), Nat.sub_self, List.head?_eq_getElem?]

theorem atGap (h : d.Reads symbols) : d.cursor.atGap = (symbols.head? == some .gap) := by
  rw [Bool.eq_iff_iff]
  simp only [cursor, decide_eq_true_eq]
  rw [h.nextGap?_eq]
  rcases symbols with _ | ⟨c | _, rest⟩
  · simp [Symbol.gapOffsets]
  · -- The next gap lies behind the character.
    have hbehind : (Symbol.gapOffsets (d.position.offset + c.utf8Size) rest).head? ≠
        some d.position.offset := by
      intro hhead
      obtain ⟨gaps, hgaps⟩ := List.head?_eq_some_iff.mp hhead
      exact Symbol.gapOffsets_ne_cons _ _ _ _ hgaps
    simp [Symbol.gapOffsets, hbehind]
  · simp [Symbol.gapOffsets]

theorem done (h : d.Reads symbols) : d.cursor.done = symbols.isEmpty := by
  obtain ⟨before, hsource, hposition⟩ := h
  rw [Bool.eq_iff_iff]
  simp only [cursor, hsource, hposition, Source.stop, Source.ofSymbols, Symbol.chars_append,
    Text.size_append, Symbol.gapOffsets_append, List.length_append, Position.mk.injEq,
    decide_eq_true_eq]
  rcases symbols with _ | ⟨c | _, rest⟩
  · simp [Symbol.chars, Symbol.gapOffsets, Text.size]
  · have hpos : 0 < c.utf8Size := c.utf8Size_pos
    simp only [Symbol.chars, Text.size, List.isEmpty_cons, Bool.false_eq_true, iff_false]
    omega
  · simp only [Symbol.gapOffsets, List.length_cons, List.isEmpty_cons, Bool.false_eq_true,
      iff_false]
    omega

theorem window_eq (h : d.Reads symbols) : d.window = .ok (Symbol.visible symbols) := by
  have hdrop : Text.drop? d.position.offset d.source.chars = some (Symbol.chars symbols) := by
    obtain ⟨before, hsource, hposition⟩ := h
    simp only [hsource, hposition, Source.ofSymbols, Symbol.chars_append]
    exact Text.drop?_size_append _ _
  unfold window
  rw [h.nextGap?_eq]
  generalize d.position.offset = offset at hdrop
  rcases Symbol.visible_cases symbols with hall | ⟨rest, hgap⟩
  · have hchars : Symbol.chars symbols = Symbol.visible symbols :=
      (congrArg Symbol.chars hall).trans (Symbol.chars_ofText _)
    have hgaps : Symbol.gapOffsets offset symbols = [] :=
      (congrArg (Symbol.gapOffsets offset) hall).trans (Symbol.gapOffsets_ofText _ _)
    simp only [hgaps, List.head?_nil, hdrop, hchars]
  · generalize Symbol.visible symbols = text at hgap
    rw [hgap] at hdrop ⊢
    simp only [Symbol.gapOffsets_append, Symbol.gapOffsets_ofText, Symbol.chars_ofText,
      List.nil_append, Symbol.gapOffsets, List.head?_cons, Symbol.chars_append, Symbol.chars]
      at hdrop ⊢
    have hmax : max (offset + Text.size text) offset = offset + Text.size text := by omega
    have hsize : offset + Text.size text - offset = Text.size text := by omega
    simp only [hmax, Text.slice?, if_pos (Nat.le_add_right _ _), hdrop, Option.bind_some, hsize,
      Text.take?_size_append]

theorem recognize_eq (h : d.Reads symbols) (r : Recognizer) :
    Tape.recognize d r = .ok (r.read? (Symbol.visible symbols)) := by
  change d.window.map r.read? = _
  rw [h.window_eq]
  rfl

/-- Tags take their symbols from the rest. -/
theorem advanceAll {tags : List Tag} (h : d.Reads (Stream.symbols tags ++ rest)) :
    (d.advanceAll tags).Reads rest := by
  obtain ⟨before, hsource, hposition⟩ := h
  refine ⟨before ++ Stream.symbols tags, ?_, ?_⟩
  · rw [advanceAll_source, hsource, List.append_assoc]
  · simp [advanceAll_position, hposition, Text.size_append, Symbol.gapOffsets_append]

theorem after {tags : List Tag} {taken : List Symbol} (h : d.Reads symbols)
    (htags : Stream.symbols tags = taken) (hsymbols : symbols = taken ++ rest) :
    (d.advanceAll tags).Reads rest := by
  apply Reads.advanceAll
  rwa [htags, ← hsymbols]

theorem silent {tags : List Tag} (h : d.Reads symbols) (htags : Stream.symbols tags = []) :
    (d.advanceAll tags).Reads symbols :=
  h.after htags rfl

end Reads

theorem advanceAll_position_eq (d : Draft) {tags : List Tag} (h : Stream.symbols tags = []) :
    (d.advanceAll tags).position = d.position := by
  simp [advanceAll_position, h, Symbol.chars, Text.size, Symbol.gapOffsets]

theorem advanceAll_position_ne (d : Draft) {tags : List Tag} (h : Stream.symbols tags ≠ []) :
    (d.advanceAll tags).position ≠ d.position := by
  rw [advanceAll_position]
  intro heq
  have hoffset := congrArg Position.offset heq
  have hgaps := congrArg Position.gaps heq
  rcases hsymbols : Stream.symbols tags with _ | ⟨c | _, rest⟩
  · exact h hsymbols
  · have hpos : 0 < c.utf8Size := c.utf8Size_pos
    simp only [hsymbols, Symbol.chars, Text.size] at hoffset
    omega
  · simp only [hsymbols, Symbol.gapOffsets, List.length_cons] at hgaps
    omega

end Draft

end GrammarMachine
