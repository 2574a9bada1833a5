import GrammarMachine.Proofs.Draft.Extension
import GrammarMachine.Proofs.Machine.Plan
import GrammarMachine.Proofs.Pattern.Program
import GrammarMachine.Proofs.Source.Symbols

/-!
Streams in the making. Everything that a parse of an input writes is one of a few rows of tags, and
each of them takes from the input just what stands at the cursor. So the literals and gaps of a
stream are a beginning of its input, and those of a stream that has come to the end are all of it.
-/

namespace GrammarMachine

/-- The symbols that a tag takes from the input. -/
def Tag.symbols : Tag → List Symbol
  | .literal text => Symbol.ofText text.toList
  | .gap => [.gap]
  | _ => []

namespace Stream

/-- The tags of an unfinished parse of an input, inside `depth` open nodes. -/
inductive Begun (source : Source) : Nat → List Tag → Prop where
  | start (url : String) (traits : NodeTraits) :
      Begun source 0 [.doctype url [], .openFragment traits]
  | place {depth : Nat} {tags more : List Tag} : Begun source depth tags →
      Placed (Draft.replay source tags) more → Begun source depth (tags ++ more)
  | shift {depth : Nat} {tags : List Tag} (name : String) : Begun source depth tags →
      tags.getLast?.any Tag.completesValue = true → Begun source depth (tags ++ [.shift name])
  | openNode {depth : Nat} {tags : List Tag} (slot : Slot) (traits : NodeTraits)
      (url nodeType : String) (attributes : Fields) : Begun source depth tags →
      Begun source (depth + 1) (tags ++ (slotTags (Draft.replay source tags) slot ++
        [.openNode traits url nodeType attributes]))
  | closeNode {depth : Nat} {tags : List Tag} : Begun source (depth + 1) tags →
      Begun source depth (tags ++ [.closeNode])

/-- The tags of a whole parse of an input. -/
def Finished (source : Source) (tags : List Tag) : Prop :=
  ∃ begun, Begun source 0 begun ∧ (Draft.replay source begun).position = source.stop ∧
    tags = begun ++ [.closeFragment]

/-- The symbols that tags take from the input. -/
def symbols (tags : List Tag) : List Symbol :=
  tags.flatMap Tag.symbols

def literalText : List Tag → String
  | [] => ""
  | .literal text :: rest => text ++ literalText rest
  | _ :: rest => literalText rest

/-- For each gap the size of the literals before it, where `before` counts for earlier tags. -/
def gapOffsets (before : Nat) : List Tag → List Nat
  | [] => []
  | .literal text :: rest => gapOffsets (before + text.utf8ByteSize) rest
  | .gap :: rest => before :: gapOffsets before rest
  | _ :: rest => gapOffsets before rest

/-- The literals and gaps written as a template. -/
def template : List Tag → String
  | [] => ""
  | .literal text :: rest => text ++ template rest
  | .gap :: rest => Source.gapMarker ++ template rest
  | _ :: rest => template rest

@[simp] theorem symbols_nil : symbols [] = [] := rfl

@[simp] theorem symbols_cons (tag : Tag) (tags : List Tag) :
    symbols (tag :: tags) = tag.symbols ++ symbols tags := rfl

@[simp] theorem symbols_append (tags more : List Tag) :
    symbols (tags ++ more) = symbols tags ++ symbols more := by
  simp [symbols]

@[simp] theorem symbols_slotTags {T : Type} [Tape T] (tape : T) (slot : Slot) :
    symbols (slotTags tape slot) = [] := by
  unfold slotTags
  split
  · rfl
  · split <;> rfl

theorem symbols_textTags (text : String) :
    symbols (textTags text) = Symbol.ofText text.toList := by
  unfold textTags
  split
  · rename_i hempty
    obtain rfl : text = "" := by simpa using hempty
    rfl
  · simp [Tag.symbols]

theorem literalText_eq (tags : List Tag) :
    literalText tags = String.ofList (Symbol.chars (symbols tags)) := by
  fun_induction literalText tags with
  | case1 => rfl
  | case2 text rest ih => simp [Tag.symbols, ih, String.ofList_append]
  | case3 tag rest htext ih =>
      rw [ih]
      cases tag <;> simp_all [Tag.symbols, Symbol.chars]

theorem gapOffsets_eq (before : Nat) (tags : List Tag) :
    gapOffsets before tags = Symbol.gapOffsets before (symbols tags) := by
  fun_induction gapOffsets before tags with
  | case1 => rfl
  | case2 before text rest ih =>
      have hsize : Text.size text.toList = text.utf8ByteSize := by
        rw [← Text.utf8ByteSize_ofList, String.ofList_toList]
      simp [Tag.symbols, Symbol.gapOffsets_append, hsize, ih]
  | case3 before rest ih => simp [Tag.symbols, Symbol.gapOffsets, ih]
  | case4 before tag rest htext hgap ih =>
      rw [ih]
      cases tag <;> simp_all [Tag.symbols]

theorem template_eq (tags : List Tag) :
    template tags = String.ofList (Symbol.template (symbols tags)) := by
  have htext : ∀ (text : List Char) (rest : List Symbol),
      Symbol.template (Symbol.ofText text ++ rest) = text ++ Symbol.template rest := by
    intro text rest
    induction text with
    | nil => rfl
    | cons c text ih => simpa [Symbol.ofText, Symbol.template] using ih
  fun_induction template tags with
  | case1 => rfl
  | case2 text rest ih => simp [Tag.symbols, htext, ih, String.ofList_append]
  | case3 rest ih => simp [Tag.symbols, Symbol.template, ih, String.ofList_append]
  | case4 tag rest hliteral hgap ih =>
      rw [ih]
      cases tag <;> simp_all [Tag.symbols]

end Stream

theorem Text.take?_isPrefix {count : Nat} {text found : List Char}
    (h : Text.take? count text = some found) : found <+: text := by
  fun_induction Text.take? count text generalizing found with
  | case1 => simp_all
  | case2 => simp at h
  | case3 n c rest hsize ih =>
      obtain ⟨more, hmore, rfl⟩ := Option.map_eq_some_iff.mp h
      exact List.cons_prefix_cons.mpr ⟨rfl, ih hmore⟩
  | case4 => simp at h

theorem Recognizer.read?_isPrefix {r : Recognizer} {text : List Char} {found : String}
    (h : r.read? text = some found) : found.toList <+: text := by
  unfold Recognizer.read? at h
  split at h
  · split at h
    · rename_i hprefix
      cases h
      exact List.isPrefixOf_iff_prefix.mp hprefix
    · cases h
  · obtain ⟨taken, htaken, rfl⟩ := Option.map_eq_some_iff.mp h
    rw [String.toList_ofList]
    exact (Pattern.read?_eq_some_iff.mp htaken).1

theorem Draft.Faithful.slotTags_replay {d : Draft} (h : d.Faithful) (slot : Slot) :
    slotTags (Draft.replay d.source d.tags.toList) slot = slotTags d slot := by
  obtain ⟨-, -, hlast, href⟩ := h.views
  simp only [slotTags, hlast, href]

theorem Placed.replay {d : Draft} (hd : d.Faithful) {tags : List Tag} (h : Placed d tags) :
    Placed (Draft.replay d.source d.tags.toList) tags := by
  obtain ⟨hrecognize, hcursor, -, href⟩ := hd.views
  cases h with
  | text hread hempty => exact .text ((hrecognize _).trans hread) hempty
  | gap slot hgap =>
      rw [← hd.slotTags_replay]
      exact .gap slot (by rwa [hcursor])
  | null slot hnew harray =>
      rw [← hd.slotTags_replay]
      exact .null slot (by rwa [href]) harray
  | array slot hnew => exact .array slot (by rwa [href])
  | token slot traits url nodeType attributes hread =>
      rw [← hd.slotTags_replay]
      exact .token slot traits url nodeType attributes ((hrecognize _).trans hread)

namespace Draft

/-- Tags move the position by the symbols they take. -/
theorem advanceAll_position (d : Draft) (tags : List Tag) :
    (d.advanceAll tags).position =
      ⟨d.position.offset + Text.size (Symbol.chars (Stream.symbols tags)),
        d.position.gaps +
          (Symbol.gapOffsets d.position.offset (Stream.symbols tags)).length⟩ := by
  induction tags generalizing d with
  | nil => rfl
  | cons tag tags ih =>
      rw [advanceAll_cons, ih]
      cases tag with
      | literal text =>
          have hsize : Text.size text.toList = text.utf8ByteSize := by
            rw [← Text.utf8ByteSize_ofList, String.ofList_toList]
          simp [advance, positionAfter, Position.skip, Tag.symbols, Symbol.gapOffsets_append,
            Text.size_append, hsize, Nat.add_assoc]
      | gap =>
          simp [advance, positionAfter, Position.skipGap, Tag.symbols, Symbol.gapOffsets,
            Symbol.chars]
          omega
      | _ => simp [advance, positionAfter, Tag.symbols]

theorem replay_position (source : Source) (tags : List Tag) :
    (replay source tags).position =
      ⟨Text.size (Symbol.chars (Stream.symbols tags)),
        (Symbol.gapOffsets 0 (Stream.symbols tags)).length⟩ := by
  rw [replay, advanceAll_position]
  simp [fresh]

theorem window_isPrefix {d : Draft} {after window : List Char}
    (hafter : Text.drop? d.position.offset d.source.chars = some after)
    (h : d.window = .ok window) : window <+: after := by
  unfold Draft.window at h
  rcases hgap : d.nextGap? with _ | gap
  · simp only [hgap, hafter, Except.ok.injEq] at h
    exact h ▸ List.prefix_refl _
  · have hle : d.position.offset ≤ max gap d.position.offset := Nat.le_max_right _ _
    simp only [hgap, Text.slice?, if_pos hle, hafter, Option.bind_some] at h
    split at h
    · rename_i text htext
      cases h
      exact Text.take?_isPrefix htext
    · cases h

theorem recognize_isPrefix {d : Draft} {after : List Char}
    (hafter : Text.drop? d.position.offset d.source.chars = some after) {r : Recognizer}
    {text : String} (h : Tape.recognize d r = .ok (some text)) : text.toList <+: after := by
  change d.window.map r.read? = .ok (some text) at h
  rcases hwindow : d.window with fault | window
  · simp [hwindow, Except.map] at h
  · have hread : r.read? window = some text := by simpa [hwindow, Except.map] using h
    exact (Recognizer.read?_isPrefix hread).trans (window_isPrefix hafter hwindow)

end Draft

namespace Stream

/-- The symbols of tags are a beginning of an input. -/
structure Accounted (source : Source) (tags : List Tag) : Prop where
  chars : Symbol.chars (symbols tags) <+: source.chars
  gaps : Symbol.gapOffsets 0 (symbols tags) <+: source.gaps

theorem Accounted.append_silent {source : Source} {tags more : List Tag}
    (h : Accounted source tags) (hmore : symbols more = []) : Accounted source (tags ++ more) :=
  ⟨by simpa [hmore] using h.chars, by simpa [hmore] using h.gaps⟩

theorem Accounted.append_text {source : Source} {tags more : List Tag} (h : Accounted source tags)
    {r : Recognizer} {text : String}
    (hread : Tape.recognize (Draft.replay source tags) r = .ok (some text))
    (hmore : symbols more = Symbol.ofText text.toList) : Accounted source (tags ++ more) := by
  refine ⟨?_, by simpa [hmore, Symbol.gapOffsets_append] using h.gaps⟩
  obtain ⟨after, hafter⟩ := h.chars
  have htext : text.toList <+: after := by
    refine Draft.recognize_isPrefix ?_ hread
    rw [Draft.replay_position, Draft.replay_source, ← hafter]
    exact Text.drop?_size_append _ _
  rw [symbols_append, Symbol.chars_append, hmore, Symbol.chars_ofText, ← hafter]
  exact (List.prefix_append_right_inj _).mpr htext

theorem Accounted.append_gap {source : Source} {tags more : List Tag} (h : Accounted source tags)
    (hgap : (Tape.cursor (Draft.replay source tags)).atGap = true) (hmore : symbols more = [.gap]) :
    Accounted source (tags ++ more) := by
  refine ⟨by simpa [hmore, Symbol.chars] using h.chars, ?_⟩
  obtain ⟨after, hafter⟩ := h.gaps
  have hnext : source.gaps[(Symbol.gapOffsets 0 (symbols tags)).length]? =
      some (Text.size (Symbol.chars (symbols tags))) := by
    have hnext := of_decide_eq_true hgap
    unfold Draft.nextGap? at hnext
    rwa [Draft.replay_position, Draft.replay_source] at hnext
  obtain ⟨rest, rfl⟩ :
      ∃ rest, after = Text.size (Symbol.chars (symbols tags)) :: rest := by
    rw [← hafter, List.getElem?_append_right (Nat.le_refl _), Nat.sub_self] at hnext
    rcases after with _ | ⟨offset, rest⟩
    · simp at hnext
    · simp only [List.getElem?_cons_zero, Option.some.injEq] at hnext
      exact ⟨rest, by rw [hnext]⟩
  rw [symbols_append, Symbol.gapOffsets_append, hmore, ← hafter]
  exact (List.prefix_append_right_inj _).mpr (by simp [Symbol.gapOffsets])

theorem Accounted.place {source : Source} {tags more : List Tag} (h : Accounted source tags)
    (hmore : Placed (Draft.replay source tags) more) : Accounted source (tags ++ more) := by
  cases hmore with
  | text hread hempty => exact h.append_text hread (by simp [Tag.symbols])
  | gap slot hgap => exact h.append_gap hgap (by simp [Tag.symbols])
  | null slot _ _ => exact h.append_silent (by simp [Tag.symbols])
  | array slot _ => exact h.append_silent (by simp [arrayTags, Tag.symbols])
  | token slot traits url nodeType attributes hread =>
      exact h.append_text hread (by simp [Tag.symbols, symbols_textTags])

/-- A stream in the making has taken a beginning of its input, in order. -/
theorem Begun.accounted {source : Source} {depth : Nat} {tags : List Tag}
    (h : Begun source depth tags) : Accounted source tags := by
  induction h with
  | start url traits => exact ⟨ List.nil_prefix, List.nil_prefix⟩
  | place _ hmore ih => exact ih.place hmore
  | shift name _ _ ih => exact ih.append_silent (by simp [Tag.symbols])
  | openNode slot traits url nodeType attributes _ ih =>
      exact ih.append_silent (by simp [Tag.symbols])
  | closeNode _ ih => exact ih.append_silent (by simp [Tag.symbols])

end Stream

theorem Text.isPrefix_of_size_le {a b text : List Char} (ha : a <+: text) (hb : b <+: text)
    (h : Text.size a ≤ Text.size b) : a <+: b := by
  rcases List.prefix_or_prefix_of_prefix ha hb with hab | ⟨more, rfl⟩
  · exact hab
  · rw [Text.size_append] at h
    rcases more with _ | ⟨c, more⟩
    · simp
    · have hpos : 0 < c.utf8Size := c.utf8Size_pos
      simp only [Text.size] at h
      omega

/-- In an input that consists of symbols there is always text to look at. -/
theorem Stream.Accounted.window_ok {symbols : List Symbol} {tags : List Tag}
    (h : Accounted (.ofSymbols symbols) tags) :
    ∃ window, (Draft.replay (.ofSymbols symbols) tags).window = .ok window := by
  obtain ⟨after, hafter⟩ := h.chars
  have hdrop : Text.drop? (Text.size (Symbol.chars (Stream.symbols tags)))
      (Source.ofSymbols symbols).chars = some after := by
    rw [← hafter]
    exact Text.drop?_size_append _ _
  unfold Draft.window
  rw [Draft.replay_position, Draft.replay_source]
  rcases hgap : (Draft.replay (.ofSymbols symbols) tags).nextGap? with _ | gap
  · exact ⟨after, by simp only [hdrop]⟩
  · have hmem : gap ∈ Symbol.gapOffsets 0 symbols := by
      unfold Draft.nextGap? at hgap
      rw [Draft.replay_source] at hgap
      exact List.mem_of_getElem? hgap
    obtain ⟨before, ⟨rest, rfl⟩, rfl⟩ := Symbol.mem_gapOffsets hmem
    have hle : Text.size (Symbol.chars (Stream.symbols tags)) ≤
        max (0 + Text.size (Symbol.chars before))
          (Text.size (Symbol.chars (Stream.symbols tags))) :=
      Nat.le_max_right _ _
    simp only [Text.slice?, if_pos hle, hdrop, Option.bind_some]
    obtain ⟨window, more, rfl, hsize⟩ : ∃ window more, after = window ++ more ∧
        max (0 + Text.size (Symbol.chars before)) (Text.size (Symbol.chars (Stream.symbols tags))) -
          Text.size (Symbol.chars (Stream.symbols tags)) = Text.size window := by
      rcases Nat.le_total (Text.size (Symbol.chars before))
        (Text.size (Symbol.chars (Stream.symbols tags))) with hbehind | hahead
      · exact ⟨[], after, rfl, by simp only [Text.size]; omega⟩
      · have hbefore : Symbol.chars before <+: (Source.ofSymbols (before ++ rest)).chars :=
          ⟨Symbol.chars rest, by simp [Source.ofSymbols]⟩
        obtain ⟨window, hwindow⟩ := Text.isPrefix_of_size_le h.chars hbefore hahead
        obtain ⟨more, hmore⟩ := hbefore
        refine ⟨window, more, ?_, ?_⟩
        · rw [← hwindow, List.append_assoc, ← hafter] at hmore
          exact (List.append_cancel_left hmore).symm
        · rw [← hwindow, Text.size_append]
          omega
    refine ⟨window, ?_⟩
    rw [hsize, Text.take?_size_append]

namespace Stream

/-- A finished stream has taken the whole input. -/
theorem Finished.complete {source : Source} {tags : List Tag} (h : Finished source tags) :
    Symbol.chars (symbols tags) = source.chars ∧
      Symbol.gapOffsets 0 (symbols tags) = source.gaps := by
  obtain ⟨begun, hbegun, hstop, rfl⟩ := h
  obtain ⟨⟨after, hafter⟩, ⟨more, hmore⟩⟩ := hbegun.accounted
  rw [Draft.replay_position, Source.stop, Position.mk.injEq] at hstop
  obtain ⟨hsize, hcount⟩ := hstop
  have hafter' : after = [] := by
    rw [source.size_eq, ← hafter, Text.size_append] at hsize
    rcases after with _ | ⟨c, after⟩
    · rfl
    · have hpos : 0 < c.utf8Size := c.utf8Size_pos
      simp only [Text.size] at hsize
      omega
  have hmore' : more = [] := by
    rw [← hmore, List.length_append] at hcount
    exact List.length_eq_zero_iff.mp (by omega)
  subst hafter' hmore'
  simp only [List.append_nil] at hafter hmore
  simp [Tag.symbols, hafter, hmore]

end Stream

end GrammarMachine
