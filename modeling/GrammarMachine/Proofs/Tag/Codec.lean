import GrammarMachine.Tag.Codec

/-!
Reading written tags. An object is read as a tag exactly if it shows it: each field of the tag is
there, or it is left out and has its default value. What is written for a tag shows it and leaves
out all fields that have their default values, so reading gives the tag back.
-/

namespace GrammarMachine

namespace Fields

variable {α : Type} {fields : Fields} {name : String}

/-- A field is there with a value of a kind, or it is left out and may be. -/
def Shows (fields : Fields) (name : String) (shown : Json → Prop) (omitted : Prop) : Prop :=
  (∃ value, fields.lookup name = some value ∧ shown value) ∨ (fields.lookup name = none ∧ omitted)

/-- A flag is there, or it is left out and false. -/
def ShowsFlag (fields : Fields) (name : String) (holds : Bool) : Prop :=
  fields.Shows name (· = .bool holds) (holds = false)

/-- Attributes are there, or they are left out and empty. -/
def ShowsAttributes (fields attributes : Fields) : Prop :=
  fields.Shows "attributes" (· = .obj attributes) (attributes = [])

theorem text?_eq_some_iff {text : String} :
    fields.text? name = some text ↔ fields.lookup name = some (.str text) := by
  unfold text?
  rcases fields.lookup name with _ | value
  · simp
  · cases value <;> simp [Json.toText?]

theorem bool?_eq_some_iff {holds : Bool} :
    fields.bool? name = some holds ↔ fields.lookup name = some (.bool holds) := by
  unfold bool?
  rcases fields.lookup name with _ | value
  · simp
  · cases value <;> simp [Json.toBool?]

theorem optional?_eq_some_iff {default result : α} {read : Json → Option α} :
    fields.optional? name default read = some result ↔
      fields.Shows name (fun value => read value = some result) (result = default) := by
  unfold optional? Shows
  rcases fields.lookup name with _ | value
  · simp [eq_comm]
  · simp

theorem flag?_eq_some_iff {holds : Bool} :
    fields.optional? name false Json.toBool? = some holds ↔ fields.ShowsFlag name holds := by
  have hread : ∀ value : Json, value.toBool? = some holds ↔ value = .bool holds := by
    intro value
    cases value <;> simp [Json.toBool?]
  simp only [optional?_eq_some_iff, ShowsFlag, hread]

theorem attributes?_eq_some_iff {attributes : Fields} :
    fields.optional? "attributes" [] Json.toFields? = some attributes ↔
      fields.ShowsAttributes attributes := by
  have hread : ∀ value : Json, value.toFields? = some attributes ↔ value = .obj attributes := by
    intro value
    cases value <;> simp [Json.toFields?]
  simp only [optional?_eq_some_iff, ShowsAttributes, hread]

end Fields

def NodeTraits.flags (t : NodeTraits) : List (String × Bool) :=
  [("token", t.token), ("trivia", t.trivia), ("escape", t.escape), ("has_gap", t.gappy)]

def SlotTraits.flags (t : SlotTraits) : List (String × Bool) :=
  [("expression", t.expression), ("has_gap", t.gappy)]

/-- Flags are shown by an object, or by a row of truth values in the order of the flags. -/
def ShowsFlags (flags : List (String × Bool)) (value : Json) : Prop :=
  ∃ fields, Fields.ofJson? (flags.map Prod.fst) value = some fields ∧
    ∀ flag ∈ flags, fields.ShowsFlag flag.1 flag.2

theorem NodeTraits.ofJson?_eq_some_iff {t : NodeTraits} {value : Json} :
    NodeTraits.ofJson? value = some t ↔ ShowsFlags t.flags value := by
  simp only [NodeTraits.ofJson?, ShowsFlags, flags, ← Fields.flag?_eq_some_iff, List.map_cons,
    List.map_nil, List.forall_mem_cons, List.not_mem_nil, false_implies, implies_true, and_true,
    Option.bind_eq_bind, Option.bind_eq_some_iff, Option.pure_def, Option.some.injEq]
  constructor
  · rintro ⟨fields, hfields, token, htoken, trivia, htrivia, escape, hescape, gappy, hgappy, rfl⟩
    exact ⟨fields, hfields, htoken, htrivia, hescape, hgappy⟩
  · rintro ⟨fields, hfields, htoken, htrivia, hescape, hgappy⟩
    exact ⟨fields, hfields, _, htoken, _, htrivia, _, hescape, _, hgappy, rfl⟩

theorem SlotTraits.ofJson?_eq_some_iff {t : SlotTraits} {value : Json} :
    SlotTraits.ofJson? value = some t ↔ ShowsFlags t.flags value := by
  simp only [SlotTraits.ofJson?, ShowsFlags, flags, ← Fields.flag?_eq_some_iff, List.map_cons,
    List.map_nil, List.forall_mem_cons, List.not_mem_nil, false_implies, implies_true, and_true,
    Option.bind_eq_bind, Option.bind_eq_some_iff, Option.pure_def, Option.some.injEq]
  constructor
  · rintro ⟨fields, hfields, expression, hexpression, gappy, hgappy, rfl⟩
    exact ⟨fields, hfields, hexpression, hgappy⟩
  · rintro ⟨fields, hfields, hexpression, hgappy⟩
    exact ⟨fields, hfields, _, hexpression, _, hgappy, rfl⟩

def flagFields (flags : List (String × Bool)) : Fields :=
  flags.flatMap fun flag => traitField flag.1 flag.2

theorem lookup_flagFields_cons {flag : String × Bool} {flags : List (String × Bool)}
    {name : String} :
    (flagFields (flag :: flags)).lookup name =
      if name = flag.1 ∧ flag.2 then some (.bool true) else (flagFields flags).lookup name := by
  obtain ⟨first, holds⟩ := flag
  cases holds with
  | true =>
      by_cases hname : name = first
      · simp [flagFields, traitField, hname]
      · have hne : (name == first) = false := by simpa using hname
        simp [flagFields, traitField, List.lookup_cons, hname, hne]
  | false => simp [flagFields, traitField]

theorem lookup_flagFields_of_notMem {flags : List (String × Bool)} {name : String}
    (h : name ∉ flags.map Prod.fst) : (flagFields flags).lookup name = none := by
  induction flags with
  | nil => rfl
  | cons flag flags ih =>
      simp only [List.map_cons, List.mem_cons, not_or] at h
      rw [lookup_flagFields_cons, if_neg (h.1 ·.1), ih h.2]

/-- Only flags that hold are written, where their names differ. -/
theorem lookup_flagFields {flags : List (String × Bool)} (hnodup : (flags.map Prod.fst).Nodup)
    {flag : String × Bool} (hflag : flag ∈ flags) :
    (flagFields flags).lookup flag.1 = if flag.2 then some (.bool true) else none := by
  induction flags with
  | nil => cases hflag
  | cons first flags ih =>
      simp only [List.map_cons, List.nodup_cons] at hnodup
      rw [lookup_flagFields_cons]
      rcases List.mem_cons.1 hflag with rfl | hflag
      · simp [lookup_flagFields_of_notMem hnodup.1]
      · have hne : flag.1 ≠ first.1 := by
          intro heq
          exact hnodup.1 (heq ▸ List.mem_map_of_mem hflag)
        rw [if_neg (hne ·.1), ih hnodup.2 hflag]

theorem NodeTraits.toJson_eq (t : NodeTraits) : t.toJson = .obj (flagFields t.flags) := by
  simp [toJson, flagFields, flags]

theorem SlotTraits.toJson_eq (t : SlotTraits) : t.toJson = .obj (flagFields t.flags) := by
  simp [toJson, flagFields, flags]

theorem showsFlags_flagFields {flags : List (String × Bool)}
    (hnodup : (flags.map Prod.fst).Nodup) : ShowsFlags flags (.obj (flagFields flags)) := by
  refine ⟨flagFields flags, rfl, fun flag hflag => ?_⟩
  have hlookup := lookup_flagFields hnodup hflag
  cases hholds : flag.2 with
  | true => exact .inl ⟨_, by simpa [hholds] using hlookup, rfl⟩
  | false => exact .inr ⟨by simpa [hholds] using hlookup, rfl⟩

theorem NodeTraits.optional?_eq_some_iff {t : NodeTraits} {fields : Fields} {name : String} :
    fields.optional? name {} NodeTraits.ofJson? = some t ↔
      fields.Shows name (ShowsFlags t.flags) (t = {}) := by
  simp only [Fields.optional?_eq_some_iff, NodeTraits.ofJson?_eq_some_iff]

theorem SlotTraits.optional?_eq_some_iff {t : SlotTraits} {fields : Fields} {name : String} :
    fields.optional? name {} SlotTraits.ofJson? = some t ↔
      fields.Shows name (ShowsFlags t.flags) (t = {}) := by
  simp only [Fields.optional?_eq_some_iff, SlotTraits.ofJson?_eq_some_iff]

namespace Tag

/-- The fields of a tag are shown, apart from its type. -/
def ShownBy (fields : Fields) : Tag → Prop
  | .doctype language attributes =>
      fields.lookup "language" = some (.str language) ∧ fields.ShowsAttributes attributes
  | .openFragment traits => fields.Shows "flags" (ShowsFlags traits.flags) (traits = {})
  | .openNode traits language nodeType attributes =>
      fields.Shows "flags" (ShowsFlags traits.flags) (traits = {}) ∧
        fields.lookup "language" = some (.str language) ∧
        fields.lookup "node_type" = some (.str nodeType) ∧ fields.ShowsAttributes attributes
  | .reference slot =>
      fields.lookup "name" = some (.str slot.name) ∧
        fields.lookup "is_array" = some (.bool slot.isArray) ∧
        fields.Shows "flags" (ShowsFlags slot.traits.flags) (slot.traits = {})
  | .shift name => fields.lookup "name" = some (.str name)
  | .literal text => fields.lookup "text" = some (.str text)
  | .closeFragment | .closeNode | .null | .gap | .arrayStart => True

theorem shownBy_of_ofFields? {fields : Fields} {type : String} {t : Tag}
    (h : ofFields? type fields = some t) : type = t.typeName ∧ t.ShownBy fields := by
  unfold ofFields? at h
  split at h
  all_goals
    simp only [Option.bind_eq_bind, Option.bind_eq_some_iff, Option.pure_def, Option.some.injEq,
      reduceCtorEq] at h
  case h_1 =>
    obtain ⟨language, hlanguage, attributes, hattributes, rfl⟩ := h
    exact ⟨rfl, Fields.text?_eq_some_iff.1 hlanguage, Fields.attributes?_eq_some_iff.1 hattributes⟩
  case h_2 =>
    obtain ⟨traits, htraits, rfl⟩ := h
    exact ⟨rfl, NodeTraits.optional?_eq_some_iff.1 htraits⟩
  case h_4 =>
    obtain ⟨traits, htraits, language, hlanguage, nodeType, hnodeType, attributes, hattributes,
      rfl⟩ := h
    exact ⟨rfl, NodeTraits.optional?_eq_some_iff.1 htraits, Fields.text?_eq_some_iff.1 hlanguage,
      Fields.text?_eq_some_iff.1 hnodeType, Fields.attributes?_eq_some_iff.1 hattributes⟩
  case h_6 =>
    obtain ⟨name, hname, isArray, hisArray, traits, htraits, rfl⟩ := h
    exact ⟨rfl, Fields.text?_eq_some_iff.1 hname, Fields.bool?_eq_some_iff.1 hisArray,
      SlotTraits.optional?_eq_some_iff.1 htraits⟩
  case h_9 | h_11 =>
    obtain ⟨text, htext, rfl⟩ := h
    exact ⟨rfl, Fields.text?_eq_some_iff.1 htext⟩
  all_goals
    subst h
    exact ⟨rfl, trivial⟩

theorem ofFields?_of_shownBy {fields : Fields} {t : Tag} (h : t.ShownBy fields) :
    ofFields? t.typeName fields = some t := by
  cases t with
  | doctype language attributes =>
      obtain ⟨hlanguage, hattributes⟩ := h
      simp [ofFields?, typeName, Fields.text?_eq_some_iff.2 hlanguage,
        Fields.attributes?_eq_some_iff.2 hattributes]
  | openFragment traits =>
      simp [ofFields?, typeName, NodeTraits.optional?_eq_some_iff.2 h]
  | openNode traits language nodeType attributes =>
      obtain ⟨htraits, hlanguage, hnodeType, hattributes⟩ := h
      simp [ofFields?, typeName, NodeTraits.optional?_eq_some_iff.2 htraits,
        Fields.text?_eq_some_iff.2 hlanguage, Fields.text?_eq_some_iff.2 hnodeType,
        Fields.attributes?_eq_some_iff.2 hattributes]
  | reference slot =>
      obtain ⟨hname, hisArray, htraits⟩ := h
      simp [ofFields?, typeName, Fields.text?_eq_some_iff.2 hname,
        Fields.bool?_eq_some_iff.2 hisArray, SlotTraits.optional?_eq_some_iff.2 htraits]
  | shift name => simp [ofFields?, typeName, Fields.text?_eq_some_iff.2 h]
  | literal text => simp [ofFields?, typeName, Fields.text?_eq_some_iff.2 h]
  | closeFragment | closeNode | null | gap | arrayStart => rfl

theorem ofJson?_obj_iff {fields : Fields} {t : Tag} :
    ofJson? (.obj fields) = some t ↔
      fields.lookup "type" = some (.str t.typeName) ∧ t.ShownBy fields := by
  simp only [ofJson?, Option.bind_eq_bind, Option.bind_eq_some_iff, Fields.text?_eq_some_iff]
  constructor
  · rintro ⟨type, htype, h⟩
    obtain ⟨rfl, hshown⟩ := shownBy_of_ofFields? h
    exact ⟨htype, hshown⟩
  · rintro ⟨htype, hshown⟩
    exact ⟨t.typeName, htype, ofFields?_of_shownBy hshown⟩

/-- The attributes that a tag carries. -/
def attributes : Tag → Fields
  | .doctype _ attributes | .openNode _ _ _ attributes => attributes
  | _ => []

/-- The flags that a tag carries, by their names. -/
def flags : Tag → List (String × Bool)
  | .openFragment traits | .openNode traits .. => traits.flags
  | .reference slot => slot.traits.flags
  | _ => []

theorem nodup_flags (t : Tag) : (t.flags.map Prod.fst).Nodup := by
  cases t <;> simp [flags, NodeTraits.flags, SlotTraits.flags]

theorem lookup_attributesField {attributes : Fields} :
    (attributesField attributes).lookup "attributes" =
      if attributes = [] then none else some (.obj attributes) := by
  cases attributes <;> simp [attributesField]

theorem lookup_attributes (t : Tag) :
    t.fields.lookup "attributes" =
      if t.attributes = [] then none else some (.obj t.attributes) := by
  cases t with
  | doctype language given => exact lookup_attributesField
  | openNode traits language nodeType given => exact lookup_attributesField
  | _ => rfl

theorem showsAttributes_fields (t : Tag) :
    Fields.ShowsAttributes (("type", .str t.typeName) :: t.fields) t.attributes := by
  have hlookup := t.lookup_attributes
  by_cases hempty : t.attributes = []
  · exact .inr ⟨by simpa [hempty, List.lookup_cons] using hlookup, hempty⟩
  · exact .inl ⟨_, by simpa [hempty, List.lookup_cons] using hlookup, rfl⟩

theorem lookup_flags (t : Tag) (h : t.flags ≠ []) :
    t.fields.lookup "flags" = some (.obj (flagFields t.flags)) := by
  cases t with
  | openFragment traits => rw [fields, traits.toJson_eq]; rfl
  | openNode traits language nodeType given => rw [fields, traits.toJson_eq]; rfl
  | reference slot => rw [fields, slot.traits.toJson_eq]; rfl
  | _ => exact absurd rfl h

theorem showsFlags_fields (t : Tag) (h : t.flags ≠ []) (omitted : Prop) :
    Fields.Shows (("type", .str t.typeName) :: t.fields) "flags" (ShowsFlags t.flags) omitted :=
  .inl ⟨_, t.lookup_flags h, showsFlags_flagFields t.nodup_flags⟩

theorem shownBy_fields (t : Tag) : t.ShownBy (("type", .str t.typeName) :: t.fields) := by
  cases t with
  | doctype language given => exact ⟨rfl, showsAttributes_fields (.doctype language given)⟩
  | openFragment traits => exact showsFlags_fields (.openFragment traits) (List.cons_ne_nil _ _) _
  | openNode traits language nodeType given =>
      exact ⟨showsFlags_fields (.openNode traits language nodeType given) (List.cons_ne_nil _ _) _,
        rfl, rfl, showsAttributes_fields (.openNode traits language nodeType given)⟩
  | reference slot =>
      exact ⟨rfl, rfl, showsFlags_fields (.reference slot) (List.cons_ne_nil _ _) _⟩
  | shift name => exact rfl
  | literal text => exact rfl
  | closeFragment | closeNode | null | gap | arrayStart => trivial

theorem ofJson?_toJson (t : Tag) : ofJson? t.toJson = some t :=
  ofJson?_obj_iff.2 ⟨rfl, t.shownBy_fields⟩

theorem mapM_ofJson?_map_toJson (tags : List Tag) :
    (tags.map toJson).mapM ofJson? = some tags := by
  induction tags with
  | nil => rfl
  | cons t tags ih => simp [ofJson?_toJson, ih]

/-- Reading what was written for a tag gives the tag back, and so for a list of tags. Attributes
are left out exactly if there are none, and a flag exactly if it is false; an object is read as a
tag exactly if it shows it, so that what is left out is read as its default value. -/
theorem json_roundTrip :
    (∀ t : Tag, ofJson? t.toJson = some t) ∧
      (∀ tags : List Tag, listOfJson? (.arr (tags.map toJson)) = some tags) ∧
      (∀ t : Tag, t.fields.lookup "attributes" =
        if t.attributes = [] then none else some (.obj t.attributes)) ∧
      (∀ t : Tag, ∀ flag ∈ t.flags, ∃ written : Fields,
        t.fields.lookup "flags" = some (.obj written) ∧
          written.lookup flag.1 = if flag.2 then some (.bool true) else none) ∧
      ∀ (t : Tag) (fields : Fields), ofJson? (.obj fields) = some t ↔
        fields.lookup "type" = some (.str t.typeName) ∧ t.ShownBy fields := by
  refine ⟨ofJson?_toJson, mapM_ofJson?_map_toJson, lookup_attributes, ?_, ?_⟩
  · intro t flag hflag
    exact ⟨_, t.lookup_flags (List.ne_nil_of_mem hflag), lookup_flagFields t.nodup_flags hflag⟩
  · intro t fields
    exact ofJson?_obj_iff

/-- A token is written without attributes and with one flag, and an object without flags and
attributes is read as a node that has none. -/
theorem json_roundTrip_token :
    ofJson? (toJson (.openNode { token := true } "urn:word" "Word" [])) =
        some (.openNode { token := true } "urn:word" "Word" []) ∧
      listOfJson? (.arr ([.null, .openNode { token := true } "urn:word" "Word" []].map toJson)) =
        some [.null, .openNode { token := true } "urn:word" "Word" []] ∧
      (fields (.openNode { token := true } "urn:word" "Word" [])).lookup "attributes" = none ∧
      (∃ written : Fields,
        (fields (.openNode { token := true } "urn:word" "Word" [])).lookup "flags" =
          some (.obj written) ∧ written.lookup "trivia" = none) ∧
      ofJson? (.obj [("type", .str "open-node"), ("language", .str "urn:word"),
        ("node_type", .str "Word")]) = some (.openNode {} "urn:word" "Word" []) := by
  obtain ⟨hread, hlist, hattributes, hflags, hshown⟩ := json_roundTrip
  refine ⟨hread _, hlist _, hattributes _, ?_, ?_⟩
  · exact hflags _ ("trivia", false) (by simp [flags, NodeTraits.flags])
  · exact (hshown _ _).2 ⟨rfl, .inr ⟨rfl, rfl⟩, rfl, rfl, .inr ⟨rfl, rfl⟩⟩

end Tag

end GrammarMachine
