import GrammarMachine.Source.Basic

/-!
Inputs as rows of symbols. A symbol is a character or a gap, and the row of symbols says the same as
the text with the offsets of its gaps.
-/

namespace GrammarMachine

/-- What inputs consist of. -/
inductive Symbol where
  | char (c : Char)
  | gap
  deriving DecidableEq

namespace Symbol

def chars : List Symbol → List Char
  | [] => []
  | .char c :: rest => c :: chars rest
  | .gap :: rest => chars rest

/-- The byte offsets of the gaps, if the first symbol stands at the given one. -/
def gapOffsets (offset : Nat) : List Symbol → List Nat
  | [] => []
  | .char c :: rest => gapOffsets (offset + c.utf8Size) rest
  | .gap :: rest => offset :: gapOffsets offset rest

/-- The symbols written as a template. -/
def template : List Symbol → List Char
  | [] => []
  | .char c :: rest => c :: template rest
  | .gap :: rest => Source.gapMarker.toList ++ template rest

def ofTemplate : List Char → List Symbol
  | [] => []
  | '$' :: '\x7b' :: '\x7d' :: rest => .gap :: ofTemplate rest
  | c :: rest => .char c :: ofTemplate rest

def ofText (text : List Char) : List Symbol :=
  text.map .char

@[simp] theorem chars_ofText (text : List Char) : chars (ofText text) = text := by
  induction text with
  | nil => rfl
  | cons c text ih => simpa [ofText, chars] using ih

@[simp] theorem gapOffsets_ofText (offset : Nat) (text : List Char) :
    gapOffsets offset (ofText text) = [] := by
  induction text generalizing offset with
  | nil => rfl
  | cons c text ih => exact ih _

@[simp] theorem chars_append (a b : List Symbol) : chars (a ++ b) = chars a ++ chars b := by
  fun_induction chars a with
  | case1 => rfl
  | case2 c a ih => simp [chars, ih]
  | case3 a ih => simp [chars, ih]

theorem gapOffsets_append (offset : Nat) (a b : List Symbol) :
    gapOffsets offset (a ++ b) =
      gapOffsets offset a ++ gapOffsets (offset + Text.size (chars a)) b := by
  fun_induction gapOffsets offset a with
  | case1 => rfl
  | case2 offset c a ih => simp [gapOffsets, chars, Text.size, ih, Nat.add_assoc]
  | case3 offset a ih => simp [gapOffsets, chars, ih]

theorem le_of_mem_gapOffsets {offset gap : Nat} {a : List Symbol} (h : gap ∈ gapOffsets offset a) :
    offset ≤ gap := by
  fun_induction gapOffsets offset a with
  | case1 => simp at h
  | case2 offset c a ih => exact Nat.le_trans (Nat.le_add_right _ _) (ih h)
  | case3 offset a ih =>
      rcases List.mem_cons.mp h with rfl | h
      · exact Nat.le_refl _
      · exact ih h

theorem gapOffsets_ne_cons (offset : Nat) (c : Char) (a : List Symbol) (gaps : List Nat) :
    gapOffsets (offset + c.utf8Size) a ≠ offset :: gaps := by
  intro h
  have hle : offset + c.utf8Size ≤ offset :=
    le_of_mem_gapOffsets (h ▸ List.mem_cons_self : offset ∈ gapOffsets (offset + c.utf8Size) a)
  have hpos : 0 < c.utf8Size := c.utf8Size_pos
  omega

/-- The text and the offsets of the gaps determine the symbols. -/
theorem eq_of_chars_of_gapOffsets {offset : Nat} {a b : List Symbol} (hchars : chars a = chars b)
    (hgaps : gapOffsets offset a = gapOffsets offset b) : a = b := by
  induction a generalizing offset b with
  | nil =>
      rcases b with _ | ⟨_ | _, b⟩
      · rfl
      · simp [chars] at hchars
      · simp [gapOffsets] at hgaps
  | cons s a ih =>
      rcases s with c | _ <;> rcases b with _ | ⟨d | _, b⟩
      · simp [chars] at hchars
      · simp only [chars, List.cons.injEq] at hchars
        obtain ⟨rfl, hchars⟩ := hchars
        rw [ih hchars hgaps]
      · exact absurd hgaps (gapOffsets_ne_cons offset c a _)
      · simp [gapOffsets] at hgaps
      · exact absurd hgaps.symm (gapOffsets_ne_cons offset d b _)
      · simp only [gapOffsets, List.cons.injEq, true_and] at hgaps
        simp only [chars] at hchars
        rw [ih hchars hgaps]

theorem mem_gapOffsets {offset gap : Nat} {symbols : List Symbol}
    (h : gap ∈ gapOffsets offset symbols) :
    ∃ before, before <+: symbols ∧ gap = offset + Text.size (chars before) := by
  induction symbols generalizing offset with
  | nil => cases h
  | cons symbol symbols ih =>
      cases symbol with
      | char c =>
          obtain ⟨before, hbefore, hgap⟩ := ih h
          refine ⟨.char c :: before, List.cons_prefix_cons.mpr ⟨rfl, hbefore⟩, ?_⟩
          simp only [chars, Text.size]
          omega
      | gap =>
          rcases List.mem_cons.mp h with rfl | h
          · exact ⟨[], ⟨_, rfl⟩, rfl⟩
          · obtain ⟨before, hbefore, hgap⟩ := ih h
            exact ⟨.gap :: before, List.cons_prefix_cons.mpr ⟨rfl, hbefore⟩, hgap⟩

theorem template_ofTemplate (text : List Char) : template (ofTemplate text) = text := by
  fun_induction ofTemplate text with
  | case1 => rfl
  | case2 rest ih => simp [template, Source.gapMarker, ih]
  | case3 c rest _ ih => simp [template, ih]

end Symbol

namespace Source

/-- The input that consists of the given symbols. -/
def ofSymbols (symbols : List Symbol) : Source :=
  { chars := Symbol.chars symbols, gaps := Symbol.gapOffsets 0 symbols }

theorem eq_of_chars_of_gaps {s t : Source} (hchars : s.chars = t.chars) (hgaps : s.gaps = t.gaps) :
    s = t := by
  have hsize : s.size = t.size := by rw [s.size_eq, t.size_eq, hchars]
  rcases s with ⟨chars, size, gaps, hs⟩
  rcases t with ⟨chars', size', gaps', ht⟩
  cases hchars
  cases hgaps
  cases hsize
  rfl

theorem addText_ofSymbols (symbols : List Symbol) (text : String) :
    (ofSymbols symbols).addText text = ofSymbols (symbols ++ Symbol.ofText text.toList) := by
  apply eq_of_chars_of_gaps
  · simp [addText, ofSymbols]
  · simp [addText, ofSymbols, Symbol.gapOffsets_append]

theorem addGap_ofSymbols (symbols : List Symbol) :
    (ofSymbols symbols).addGap = ofSymbols (symbols ++ [.gap]) := by
  apply eq_of_chars_of_gaps
  · simp [addGap, ofSymbols, Symbol.chars]
  · simp [addGap, ofSymbols, Symbol.gapOffsets_append, Symbol.gapOffsets]

/-- Adds the parts of a template, with a gap before each one. -/
def addParts (s : Source) (parts : List String) : Source :=
  parts.foldl (fun s part => s.addGap.addText part) s

theorem addParts_templateParts (symbols : List Symbol) (part text : List Char) :
    ∃ first rest, templateParts part text = first :: rest ∧
      ((ofSymbols symbols).addText first).addParts rest =
        ofSymbols (symbols ++ Symbol.ofText part.reverse ++ Symbol.ofTemplate text) := by
  fun_induction templateParts part text generalizing symbols with
  | case1 part =>
      refine ⟨_, [], rfl, ?_⟩
      simp [addParts, addText_ofSymbols, Symbol.ofTemplate]
  | case2 part rest ih =>
      refine ⟨_, _, rfl, ?_⟩
      obtain ⟨next, more, hparts, hadded⟩ := ih (symbols ++ Symbol.ofText part.reverse ++ [.gap])
      rw [hparts, addText_ofSymbols, String.toList_ofList]
      change ((ofSymbols _).addGap.addText next).addParts more = _
      rw [addGap_ofSymbols, hadded]
      simp [Symbol.ofText, Symbol.ofTemplate]
  | case3 part c rest hmarker ih =>
      obtain ⟨first, more, hparts, hadded⟩ := ih symbols
      refine ⟨first, more, hparts, ?_⟩
      rw [hadded, Symbol.ofTemplate.eq_3 c rest hmarker]
      simp [Symbol.ofText]

/-- A template stands for its symbols. -/
theorem ofTemplate_eq (template : String) :
    ofTemplate template = ofSymbols (Symbol.ofTemplate template.toList) := by
  obtain ⟨first, rest, hparts, hadded⟩ := addParts_templateParts [] [] template.toList
  have hfirst : ofText first = (ofSymbols []).addText first := by
    apply eq_of_chars_of_gaps <;> simp [ofText, addText, ofSymbols, Symbol.chars, Symbol.gapOffsets]
  simp only [ofTemplate, hparts, hfirst]
  exact hadded

/-- The symbols of a text piece or a gap. -/
def segmentSymbols : Option String → List Symbol
  | some text => Symbol.ofText text.toList
  | none => [.gap]

theorem ofSegments_eq (segments : List (Option String)) :
    ofSegments segments = ofSymbols (segments.flatMap segmentSymbols) := by
  have hfold : ∀ symbols, segments.foldl (fun s segment =>
      match segment with
      | some text => s.addText text
      | none => s.addGap) (ofSymbols symbols) =
        ofSymbols (symbols ++ segments.flatMap segmentSymbols) := by
    induction segments with
    | nil => simp
    | cons segment segments ih =>
        intro symbols
        rcases segment with _ | text
        · simp [addGap_ofSymbols, ih, segmentSymbols]
        · simp [addText_ofSymbols, ih, segmentSymbols]
  exact hfold []

end Source

end GrammarMachine
