import Mathlib.Data.List.Sort
import MotifVote.Proofs.Json.Place
import MotifVote.Proofs.Motif.Filter
import MotifVote.Proofs.Motif.Record

/-!
# Labels in both forms

A label can be written as an object or as a list of entries. The two are read on different ways into
the same filter. If every kind is written once, both ways require every entry, and neither the form
nor the order of the entries makes a difference to what is read of the text around the label.

If a kind is repeated, the ways part. A list keeps all entries, and is refused. An object is merged
before anything of it is checked, so that of each kind only the last entry is left; it is read like
the object in which the others had never been written.
-/

namespace MotifVote

open Json (Decoder Draft Fault FieldPlace mergeFields)

namespace Json

variable {α β : Type}

theorem mem_putField_iff {fields : List (String × α)} {name : String} {value : α}
    {field : String × α} :
    field ∈ putField fields name value ↔
      field = (name, value) ∨ field ∈ fields ∧ field.1 ≠ name := by
  rw [putField]
  split
  next known =>
    rcases List.any_eq_true.mp known with ⟨old, member, same⟩
    rw [List.mem_map]
    constructor
    · rintro ⟨other, otherMember, rfl⟩
      split
      next => exact Or.inl rfl
      next different => exact Or.inr ⟨otherMember, by simpa using different⟩
    · rintro (rfl | ⟨kept, different⟩)
      · exact ⟨old, member, if_pos same⟩
      · exact ⟨field, kept, if_neg (by simpa using different)⟩
  next fresh =>
    have others : ∀ field ∈ fields, field.1 ≠ name := by
      intro field member same
      exact fresh (List.any_eq_true.mpr ⟨field, member, beq_iff_eq.mpr same⟩)
    rw [List.mem_append, List.mem_singleton, or_comm]
    constructor
    · exact Or.imp_right fun member => ⟨member, others field member⟩
    · exact Or.imp_right And.left

theorem nodup_putField {fields : List (String × α)} (name : String) (value : α)
    (distinct : (fields.map (·.1)).Nodup) : ((putField fields name value).map (·.1)).Nodup := by
  rw [putField]
  split
  next =>
    have names : (fields.map fun field => if field.1 == name then (name, value) else field).map
        (·.1) = fields.map (·.1) := by
      rw [List.map_map]
      refine List.map_congr_left fun field _ => ?_
      rw [Function.comp_apply]
      split
      next same => exact (eq_of_beq same).symm
      next => rfl
    rwa [names]
  next fresh =>
    rw [List.map_append, List.map_singleton, List.nodup_append]
    refine ⟨distinct, List.nodup_singleton _, ?_⟩
    simp only [List.mem_map, List.mem_singleton]
    rintro _ ⟨field, member, rfl⟩ _ rfl same
    exact fresh (List.any_eq_true.mpr ⟨field, member, beq_iff_eq.mpr same⟩)

theorem mergeFields_append_singleton (fields : List (String × α)) (last : String × α) :
    mergeFields (fields ++ [last]) = putField (mergeFields fields) last.1 last.2 := by
  rw [mergeFields, List.foldl_append]
  rfl

theorem nodup_mergeFields (fields : List (String × α)) :
    ((mergeFields fields).map (·.1)).Nodup := by
  induction fields using List.reverseRecOn with
  | nil => exact List.nodup_nil
  | append_singleton fields last ih =>
      rw [mergeFields_append_singleton]
      exact nodup_putField last.1 last.2 ih

/-- Of each name the last value is kept. -/
theorem mem_mergeFields_iff {fields : List (String × α)} {field : String × α} :
    field ∈ mergeFields fields ↔ fields.findRev? (·.1 == field.1) = some field := by
  induction fields using List.reverseRecOn with
  | nil => simp [mergeFields]
  | append_singleton fields last ih =>
      rw [mergeFields_append_singleton, mem_putField_iff, ih, List.findRev?_eq_find?_reverse,
        List.findRev?_eq_find?_reverse, List.reverse_append, List.reverse_singleton,
        List.singleton_append, List.find?_cons]
      rcases field with ⟨name, value⟩
      by_cases same : last.1 = name
      · simp [← same, Prod.ext_iff, eq_comm]
      · have differs : (name, value) ≠ last := fun equal => same (congrArg Prod.fst equal).symm
        simp [beq_eq_false_iff_ne.mpr same, Ne.symm same, differs]

theorem mergeFields_map (f : α → β) (fields : List (String × α)) :
    mergeFields (fields.map fun field => (field.1, f field.2)) =
      (mergeFields fields).map fun field => (field.1, f field.2) := by
  induction fields using List.reverseRecOn with
  | nil => rfl
  | append_singleton fields last ih =>
      rw [List.map_append, List.map_singleton, mergeFields_append_singleton,
        mergeFields_append_singleton, ih, putField, putField, List.any_map]
      simp only [Function.comp_def]
      split
      · rw [List.map_map, List.map_map]
        refine List.map_congr_left fun field _ => ?_
        simp only [Function.comp_apply]
        split <;> rfl
      · rw [List.map_append, List.map_singleton]

end Json

namespace Filter

theorem eq_of_mem_iff {left right : Filter}
    (same : ∀ predicate, predicate ∈ left.predicates ↔ predicate ∈ right.predicates) :
    left = right := by
  have irreflexive : Std.Irrefl fun left right : Predicate => left.kind < right.kind :=
    ⟨fun predicate => String.lt_irrefl predicate.kind⟩
  have asymmetric : Std.Asymm fun left right : Predicate => left.kind < right.kind :=
    ⟨fun _ _ => String.lt_asymm⟩
  exact eq_of_predicates_eq (left.ascending.eq_of_mem_iff right.ascending same)

theorem mem_collect_of_nodup {predicates : List Predicate} {predicate : Predicate}
    (distinct : (predicates.map (·.kind)).Nodup) :
    predicate ∈ (collect predicates).predicates ↔ predicate ∈ predicates := by
  rw [mem_collect_iff, List.findRev?_eq_find?_reverse]
  constructor
  · intro last
    exact List.mem_reverse.mp (List.mem_of_find?_eq_some last)
  · intro member
    rcases found : predicates.reverse.find? (·.kind == predicate.kind) with _ | other
    · have missed := List.find?_eq_none.mp found predicate (List.mem_reverse.mpr member)
      simp at missed
    · have otherMember := List.mem_reverse.mp (List.mem_of_find?_eq_some found)
      have same : other.kind = predicate.kind := by simpa using List.find?_some found
      exact found.trans (congrArg some
        (List.inj_on_of_nodup_map distinct otherMember member same))

/-- A value that can be required: a text, a truth value, or a number that is in range. -/
inductive LabelValue where
  | text (value : String)
  | truth (value : Bool)
  | number (literal : Json.Literal) (value : Number) (inRange : literal.number? = some value)

namespace LabelValue

def draft : LabelValue → Draft
  | .text value => .string (some value)
  | .truth value => .bool value
  | .number literal _ _ => .number literal

def json : LabelValue → Json
  | .text value => .string value
  | .truth value => .bool value
  | .number _ value _ => .number value

/-- The text that a value is taken as. -/
def required : LabelValue → String
  | .text value => value
  | .truth value => if value then "true" else "false"
  | .number _ value _ => String.ofList value.written

theorem json?_draft (value : LabelValue) : value.draft.json? = some value.json := by
  cases value with
  | text value => rfl
  | truth value => rfl
  | number literal value inRange => simp [draft, json, Draft.json?, inRange]

theorem requiredValue_json (kind : String) (value : LabelValue) :
    requiredValue kind value.json = .ok value.required := by
  cases value <;> rfl

end LabelValue

def predicatesOf (entries : List (String × LabelValue)) : List Predicate :=
  entries.map fun entry => ⟨entry.1, entry.2.required⟩

def objectLabel (entries : List (String × LabelValue)) : Draft :=
  .object 5 (entries.map fun entry => (some entry.1, entry.2.draft))

/-- The draft of an entry of a list, which names its attribute and its value in either order. -/
inductive IsListEntry (entry : String × LabelValue) : Draft → Prop where
  | attributeFirst : IsListEntry entry (.object 6
      [(some "attribute", .string (some entry.1)), (some "value", entry.2.draft)])
  | valueFirst : IsListEntry entry (.object 6
      [(some "value", entry.2.draft), (some "attribute", .string (some entry.1))])

/-- The draft of a label that is written as a list of entries. -/
def IsListLabel (entries : List (String × LabelValue)) (label : Draft) : Prop :=
  ∃ items, List.Forall₂ IsListEntry entries items ∧ label = .array 5 items

/-- The draft of a label with some entries, in one of the two forms. -/
def IsLabel (entries : List (String × LabelValue)) (label : Draft) : Prop :=
  label = objectLabel entries ∨ IsListLabel entries label

/-- A filter requires every entry that has been written, and nothing else. -/
def Requires (filter : Filter) (entries : List (String × LabelValue)) : Prop :=
  ∀ predicate, predicate ∈ filter.predicates ↔
    ∃ entry ∈ entries, predicate = ⟨entry.1, entry.2.required⟩

variable {entries reordered : List (String × LabelValue)} {label : Draft}

theorem requirements_eq_ok_predicatesOf (entries : List (String × LabelValue)) :
    requirements (entries.map fun entry => (entry.1, entry.2.json)) =
      .ok (predicatesOf entries) := by
  rw [requirements, List.mapM_map]
  refine mapM_eq_ok_map fun entry _ => ?_
  simp [LabelValue.requiredValue_json, bind, Except.bind, pure, Except.pure]

theorem decoder_objectLabel (entries : List (String × LabelValue)) :
    Filter.decoder (objectLabel entries) = .ok (collect (predicatesOf (mergeFields entries))) := by
  have fields : Json.fieldsJson? (entries.map fun entry => (some entry.1, entry.2.draft)) =
      some (entries.map fun entry => (entry.1, entry.2.json)) := by
    induction entries with
    | nil => rfl
    | cons entry entries ih => simp [Json.fieldsJson?, LabelValue.json?_draft, ih]
  have json : Decoder.json (objectLabel entries) =
      .ok (.object (entries.map fun entry => (entry.1, entry.2.json))) := by
    rw [Decoder.json, objectLabel, Draft.json?, if_pos (by decide), fields]
    rfl
  have distinct : firstRepeat? [] ((predicatesOf (mergeFields entries)).map (·.kind)) = none := by
    refine firstRepeat?_eq_none_iff.mpr ⟨?_, by simp⟩
    rw [predicatesOf, List.map_map]
    exact Json.nodup_mergeFields entries
  simp [decoder, json, ofLabel, entries?, Decoder.require, Json.mergeFields_map,
    requirements_eq_ok_predicatesOf, ofPredicates, distinct, Except.mapError, bind, Except.bind]

theorem IsListEntry.exists_json? {entry : String × LabelValue} {item : Draft}
    (written : IsListEntry entry item) :
    ∃ json, item.json? = some json ∧ entry? json = some (entry.1, entry.2.json) := by
  cases written with
  | attributeFirst =>
      refine ⟨.object [("attribute", .string entry.1), ("value", entry.2.json)], ?_, rfl⟩
      simp [Draft.json?, Json.fieldsJson?, LabelValue.json?_draft, Json.depthLimit]
  | valueFirst =>
      refine ⟨.object [("value", entry.2.json), ("attribute", .string entry.1)], ?_, rfl⟩
      simp [Draft.json?, Json.fieldsJson?, LabelValue.json?_draft, Json.depthLimit]

theorem exists_itemsJson? {items : List Draft} (written : List.Forall₂ IsListEntry entries items) :
    ∃ jsons, Json.itemsJson? items = some jsons ∧
      jsons.mapM entry? = some (entries.map fun entry => (entry.1, entry.2.json)) := by
  induction written with
  | nil => exact ⟨[], rfl, rfl⟩
  | cons first others ih =>
      rcases first.exists_json? with ⟨json, drafted, entry⟩
      rcases ih with ⟨jsons, otherDrafts, otherEntries⟩
      exact ⟨json :: jsons, by simp [Json.itemsJson?, drafted, otherDrafts],
        by simp [List.mapM_cons, entry, otherEntries]⟩

/-- All entries of a list are required, unless a kind is repeated. -/
theorem decoder_of_isListLabel (listed : IsListLabel entries label) :
    Filter.decoder label =
      (ofPredicates (predicatesOf entries)).mapError fun fault => .refused (.motif fault) := by
  rcases listed with ⟨items, written, rfl⟩
  rcases exists_itemsJson? written with ⟨jsons, drafted, found⟩
  have json : Decoder.json (.array 5 items) = .ok (.array jsons) := by
    rw [Decoder.json, Draft.json?, if_pos (by decide), drafted]
    rfl
  simp [decoder, json, ofLabel, entries?, Decoder.require, found, requirements_eq_ok_predicatesOf,
    Except.mapError, bind, Except.bind]

theorem requires_collect (distinct : (entries.map (·.1)).Nodup) :
    (collect (predicatesOf entries)).Requires entries := by
  intro predicate
  rw [mem_collect_of_nodup (by rwa [predicatesOf, List.map_map]), predicatesOf, List.mem_map]
  simp only [eq_comm]

/-- Entries of different kinds are all required, whichever form the label has and in whichever order
they come. -/
theorem decoder_of_isLabel (distinct : (entries.map (·.1)).Nodup) (same : entries.Perm reordered)
    (written : IsLabel reordered label) :
    Filter.decoder label = .ok (collect (predicatesOf entries)) := by
  have stillDistinct : (reordered.map (·.1)).Nodup := (same.map _).nodup_iff.mp distinct
  have collected : collect (predicatesOf reordered) = collect (predicatesOf entries) := by
    refine eq_of_mem_iff fun predicate => ?_
    rw [requires_collect stillDistinct, requires_collect distinct]
    simp only [same.mem_iff]
  rw [← collected]
  rcases written with rfl | listed
  · rw [decoder_objectLabel, Decoder.mergeFields_eq_self stillDistinct]
  · have single : firstRepeat? [] ((predicatesOf reordered).map (·.kind)) = none := by
      rw [predicatesOf, List.map_map]
      exact firstRepeat?_eq_none_iff.mpr ⟨stillDistinct, by simp⟩
    simp only [decoder_of_isListLabel listed, ofPredicates, single, Except.mapError]

theorem exists_decoder_eq_error (repeated : ¬(entries.map (·.1)).Nodup)
    (listed : IsListLabel entries label) :
    ∃ kind, Filter.decoder label = .error (.refused (.motif (.repeatedKind kind))) := by
  rcases found : firstRepeat? [] ((predicatesOf entries).map (·.kind)) with _ | kind
  · rw [predicatesOf, List.map_map] at found
    exact absurd (nodup_of_firstRepeat?_eq_none found) repeated
  · refine ⟨kind, ?_⟩
    simp only [decoder_of_isListLabel listed, ofPredicates, found, Except.mapError]

end Filter

namespace MotifVertex

theorem readsInPlace_label (place : FieldPlace 1) :
    Decoder.ReadsInPlace MotifVertex.decoder (place.fill 4 "label") Filter.decoder fun put =>
      ∃ identifier, put = fun filter => ⟨identifier, filter⟩ := by
  refine (Json.isFieldAt_of_eraseIdx rfl (by decide) (fun _ _ => rfl) ?_).readsInPlace (by decide)
    place ?_
  · simp only [List.eraseIdx, List.forall_mem_singleton]
    exact Json.Field.isApart_of (fun _ _ => rfl) fun _ _ _ => rfl
  · rintro ⟨_ | identifier, filter⟩
    · exact Or.inl fun value => rfl
    · exact Or.inr ⟨_, ⟨identifier, rfl⟩, fun value => rfl⟩

end MotifVertex

namespace Motif

theorem readsInPlace_vertices (place : FieldPlace 0) :
    Decoder.ReadsInPlace structureDecoder (place.fill 2 "vertices")
      (Decoder.list MotifVertex.decoder) fun put =>
        ∃ edges, put = fun vertices => (vertices, edges) := by
  refine (Json.isFieldAt_of_eraseIdx rfl (by decide) (fun _ _ => rfl) ?_).readsInPlace (by decide)
    place ?_
  · simp only [List.eraseIdx, List.forall_mem_singleton]
    exact Json.Field.isApart_of (fun _ _ => rfl) fun _ _ _ => rfl
  · rintro ⟨vertices, edges⟩
    exact Or.inr ⟨_, ⟨edges.getD [], rfl⟩, fun value => rfl⟩

theorem readsInPlace_structure (place : FieldPlace 1) :
    Decoder.ReadsInPlace partsDecoder (place.fill 1 "structure") structureDecoder fun put =>
      ∃ selector, put = fun parts => (selector, parts) := by
  refine (Json.isFieldAt_of_eraseIdx rfl (by decide) (fun _ _ => rfl) ?_).readsInPlace (by decide)
    place ?_
  · simp only [List.eraseIdx, List.forall_mem_singleton]
    exact Json.Field.isApart_of (fun _ _ => rfl) fun _ _ _ => rfl
  · rintro ⟨_ | selector, parts⟩
    · exact Or.inl fun value => rfl
    · exact Or.inr ⟨_, ⟨selector, rfl⟩, fun value => rfl⟩

/-- Parts that are refused are refused whatever their vertices require. -/
theorem make_eq_error_of_declaredBy {selector : UInt64} {vertices others : List MotifVertex}
    {edges : List MotifEdge} {fault : MotifFault}
    (refused : make selector vertices edges = .error fault)
    (same : declaredBy others = declaredBy vertices) :
    make selector others edges = .error fault := by
  have sameDangling : isDangling others = isDangling vertices := by
    funext edge
    rw [isDangling, isDangling, same]
  rw [make] at refused ⊢
  split at refused
  next repeated =>
    split
    next again =>
      rw [same, repeated] at again
      cases again
      exact refused
    next single =>
      rw [same, repeated] at single
      cases single
  next single =>
    split
    next repeated =>
      rw [same, single] at repeated
      cases repeated
    next =>
      split at refused
      next declared =>
        rw [dif_pos (same ▸ declared)]
        split at refused
        next dangling =>
          split
          next again =>
            rw [sameDangling, dangling] at again
            cases again
            exact refused
          next sound =>
            rw [sameDangling, dangling] at sound
            cases sound
        next => cases refused
      next undeclared =>
        rw [dif_neg (same ▸ undeclared)]
        exact refused

theorem parts_of_make_eq_ok {selector : UInt64} {vertices : List MotifVertex}
    {edges : List MotifEdge} {motif : Motif} (made : make selector vertices edges = .ok motif) :
    motif.selector = selector ∧ motif.vertices = vertices ∧ motif.edges = edges := by
  rw [make] at made
  split at made
  next => cases made
  next =>
    split at made
    next =>
      split at made
      next => cases made
      next =>
        cases made
        exact ⟨rfl, rfl, rfl⟩
    next => cases made

/-- Parts that are accepted are accepted whatever their vertices require. -/
theorem exists_make_eq_ok_of_declaredBy {selector : UInt64} {vertices others : List MotifVertex}
    {edges : List MotifEdge} {motif : Motif} (made : make selector vertices edges = .ok motif)
    (same : declaredBy others = declaredBy vertices) :
    ∃ other, make selector others edges = .ok other ∧ other.vertices = others := by
  rcases parts_of_make_eq_ok made with ⟨rfl, rfl, rfl⟩
  exact ⟨_, make_eq_ok ⟨motif.selector, others, motif.edges, same ▸ motif.distinct,
    same ▸ motif.selectorDeclared, same ▸ motif.endsDeclared⟩, rfl⟩

end Motif

/-- All of the text of a motif but the label of one vertex: where the structure, the vertices and
the label stand, the other vertices, and whether the text ends behind the motif. -/
structure LabelFrame where
  structurePlace : FieldPlace 1
  verticesPlace : FieldPlace 0
  earlier : List Draft
  later : List Draft
  labelPlace : FieldPlace 1
  ends : Bool

namespace LabelFrame

/-- The draft of the motif with the draft of a label. -/
def fill (frame : LabelFrame) (label : Draft) : Draft :=
  frame.structurePlace.fill 1 "structure" <| frame.verticesPlace.fill 2 "vertices" <|
    .array 3 (frame.earlier ++ frame.labelPlace.fill 4 "label" label :: frame.later)

/-- A text is that of the motif with some label. -/
def Spells (frame : LabelFrame) (text : String) (label : Draft) : Prop :=
  Json.draft (Text.symbolsOfText text) = (frame.fill label, frame.ends)

/-- The filter of a motif at the vertex of the label. -/
def FilterIn (frame : LabelFrame) (motif : Motif) (filter : Filter) : Prop :=
  ∃ vertex, motif.vertices[frame.earlier.length]? = some vertex ∧ vertex.filter = filter

theorem readsInPlace_parts (frame : LabelFrame) :
    Decoder.ReadsInPlace Motif.partsDecoder frame.fill Filter.decoder fun put =>
      ∃ selector identifier edges earlier later, earlier.length = frame.earlier.length ∧
        put = fun filter => (selector, earlier ++ ⟨identifier, filter⟩ :: later, edges) := by
  have listed : Decoder.ReadsInPlace (Decoder.list MotifVertex.decoder)
      (fun label =>
        .array 3 (frame.earlier ++ frame.labelPlace.fill 4 "label" label :: frame.later))
      Filter.decoder fun put => ∃ identifier earlier later,
        earlier.length = frame.earlier.length ∧
          put = fun filter => earlier ++ ⟨identifier, filter⟩ :: later := by
    apply (Decoder.readsInPlace_item MotifVertex.decoder (by decide) frame.earlier frame.later).comp
      (MotifVertex.readsInPlace_label frame.labelPlace)
    rintro _ _ ⟨earlier, later, length, rfl⟩ ⟨identifier, rfl⟩
    exact ⟨identifier, earlier, later, length, rfl⟩
  have structured : Decoder.ReadsInPlace Motif.structureDecoder
      (fun label => frame.verticesPlace.fill 2 "vertices" <|
        .array 3 (frame.earlier ++ frame.labelPlace.fill 4 "label" label :: frame.later))
      Filter.decoder fun put => ∃ identifier edges earlier later,
        earlier.length = frame.earlier.length ∧
          put = fun filter => (earlier ++ ⟨identifier, filter⟩ :: later, edges) := by
    apply (Motif.readsInPlace_vertices frame.verticesPlace).comp listed
    rintro _ _ ⟨edges, rfl⟩ ⟨identifier, earlier, later, length, rfl⟩
    exact ⟨identifier, edges, earlier, later, length, rfl⟩
  apply (Motif.readsInPlace_structure frame.structurePlace).comp structured
  rintro _ _ ⟨selector, rfl⟩ ⟨identifier, edges, earlier, later, length, rfl⟩
  exact ⟨selector, identifier, edges, earlier, later, length, rfl⟩

/-- The label is read in its place, and becomes the filter of its vertex. -/
theorem readsInPlace (frame : LabelFrame) :
    Decoder.ReadsInPlace Motif.decoder frame.fill Filter.decoder fun put =>
      ∀ filter, frame.FilterIn (put filter) filter := by
  apply frame.readsInPlace_parts.andThen
  rintro _ ⟨selector, identifier, edges, earlier, later, length, rfl⟩
  rcases made : Motif.make selector (earlier ++ ⟨identifier, .empty⟩ :: later) edges with
    fault | motif
  · refine Or.inl ⟨.refused (.motif fault), fun filter => ?_⟩
    have refused : Motif.make selector (earlier ++ ⟨identifier, filter⟩ :: later) edges =
        .error fault := Motif.make_eq_error_of_declaredBy made (by simp [declaredBy])
    simp only [refused, Except.mapError]
  · have motifs : ∀ filter, ∃ motif, Motif.make selector (earlier ++ ⟨identifier, filter⟩ :: later)
        edges = .ok motif ∧ motif.vertices = earlier ++ ⟨identifier, filter⟩ :: later :=
      fun filter => Motif.exists_make_eq_ok_of_declaredBy made (by simp [declaredBy])
    choose way made vertices using motifs
    refine Or.inr ⟨way, fun filter => ⟨⟨identifier, filter⟩, ?_, rfl⟩, fun filter => ?_⟩
    · simp [vertices, ← length]
    · simp only [made, Except.mapError]

/-- The motif of a draft, if the text ends behind it. -/
def decoder (frame : LabelFrame) : Decoder Motif := fun draft => do
  let motif ← Motif.decoder draft
  if frame.ends then return motif else throw .malformed

theorem readsInPlace_decoder (frame : LabelFrame) :
    Decoder.ReadsInPlace frame.decoder frame.fill Filter.decoder fun put =>
      ∀ filter, frame.FilterIn (put filter) filter := by
  apply frame.readsInPlace.andThen
  intro put isWay
  cases frame.ends with
  | true => exact Or.inr ⟨put, isWay, fun filter => rfl⟩
  | false => exact Or.inl ⟨.malformed, fun filter => rfl⟩

variable {frame : LabelFrame} {text other : String} {label otherLabel : Draft} {filter : Filter}
variable {motif : Motif}

theorem Spells.ofText_eq (spells : frame.Spells text label) :
    Motif.ofText text =
      (frame.decoder (frame.fill label)).mapError fun fault => .motifText fault.refusal? := by
  rw [Motif.ofText, Decoder.runText, Decoder.run, spells]
  rfl

/-- Labels that describe the same filter make no difference to what is read. -/
theorem Spells.ofText_congr (spells : frame.Spells text label)
    (otherSpells : frame.Spells other otherLabel)
    (same : Filter.decoder label = Filter.decoder otherLabel) :
    Motif.ofText text = Motif.ofText other := by
  rcases frame.readsInPlace_decoder with ⟨before, after, reads, -⟩
  rw [spells.ofText_eq, otherSpells.ofText_eq, reads, reads, same]

theorem Spells.filterIn (spells : frame.Spells text label)
    (decoded : Filter.decoder label = .ok filter) (read : Motif.ofText text = .ok motif) :
    frame.FilterIn motif filter := by
  rcases frame.readsInPlace_decoder with ⟨before, after, reads, isWay⟩
  rw [spells.ofText_eq, reads, decoded] at read
  rcases before with _ | ⟨⟩
  · cases read
  rcases after with _ | put
  · cases read
  · cases read
    exact isWay put rfl filter

/-- A text is accepted with a label that describes a filter, if it is with any label. -/
theorem Spells.exists_ofText_eq_ok (spells : frame.Spells text label)
    (decoded : Filter.decoder label = .ok filter) (otherSpells : frame.Spells other otherLabel)
    (read : Motif.ofText other = .ok motif) : ∃ motif, Motif.ofText text = .ok motif := by
  rcases frame.readsInPlace_decoder with ⟨before, after, reads, isWay⟩
  rw [otherSpells.ofText_eq, reads] at read
  rw [spells.ofText_eq, reads, decoded]
  rcases before with _ | ⟨⟩
  · cases read
  rcases after with _ | put
  · rcases otherDecoded : Filter.decoder otherLabel with _ | _ <;>
      rw [otherDecoded] at read <;> cases read
  · exact ⟨put filter, rfl⟩

theorem Spells.exists_ofText_eq_error {fault : Fault} (spells : frame.Spells text label)
    (refused : Filter.decoder label = .error fault) :
    ∃ refusal, Motif.ofText text = .error (.motifText refusal) := by
  rcases frame.readsInPlace_decoder with ⟨before, after, reads, -⟩
  rw [spells.ofText_eq, reads, refused]
  rcases before with earlier | ⟨⟩
  · exact ⟨earlier.refusal?, rfl⟩
  · exact ⟨fault.refusal?, rfl⟩

end LabelFrame

namespace Motif

open MotifVote.Filter (LabelValue IsLabel IsListLabel objectLabel)

/-- The text of a motif is read with a label whose kinds differ, and the label as it is written. -/
structure ReadsAsWritten (frame : LabelFrame) (entries : List (String × LabelValue))
    (text : String) : Prop where
  /-- Neither the form of the label nor the order of its entries makes a difference. -/
  same : ∀ reordered label other, entries.Perm reordered → IsLabel reordered label →
    frame.Spells other label → ofText other = ofText text
  requires : ∀ motif, ofText text = .ok motif →
    ∃ filter, frame.FilterIn motif filter ∧ filter.Requires entries
  /-- The label is no reason to refuse the text. -/
  accepted : ∀ label other motif, frame.Spells other label → ofText other = .ok motif →
    ∃ motif, ofText text = .ok motif
  refused : ∀ error, ofText text = .error error → ∃ refusal, error = .motifText refusal

/-- The text of a motif is read with a label that repeats a kind. As a list the label is refused; as
an object it is read as if of each kind only the last entry had been written. -/
structure ReadsLastOnly (frame : LabelFrame) (entries : List (String × LabelValue))
    (text : String) : Prop where
  refused : ∀ label other, IsListLabel entries label → frame.Spells other label →
    ∃ refusal, ofText other = .error (.motifText refusal)
  shorter : (Json.mergeFields entries).length < entries.length
  kept : ∀ entry, entry ∈ Json.mergeFields entries ↔
    entries.findRev? (·.1 == entry.1) = some entry
  merged : ReadsAsWritten frame (Json.mergeFields entries) text

variable {frame : LabelFrame} {entries : List (String × LabelValue)} {text : String} {label : Draft}

theorem readsAsWritten_of_decoder (distinct : (entries.map (·.1)).Nodup)
    (spells : frame.Spells text label)
    (decoded : Filter.decoder label = .ok (Filter.collect (Filter.predicatesOf entries))) :
    ReadsAsWritten frame entries text where
  same reordered otherLabel other order written otherSpells :=
    otherSpells.ofText_congr spells
      ((Filter.decoder_of_isLabel distinct order written).trans decoded.symm)
  requires motif read :=
    ⟨_, spells.filterIn decoded read, Filter.requires_collect distinct⟩
  accepted otherLabel other motif otherSpells read :=
    spells.exists_ofText_eq_ok decoded otherSpells read
  refused error read := by
    rw [spells.ofText_eq] at read
    rcases found : frame.decoder (frame.fill label) with fault | motif
    · rw [found] at read
      cases read
      exact ⟨_, rfl⟩
    · rw [found] at read
      cases read

theorem length_mergeFields_lt (repeated : ¬(entries.map (·.1)).Nodup) :
    (Json.mergeFields entries).length < entries.length := by
  refine Nat.lt_of_not_le fun noFewer => repeated ?_
  have kinds : (Json.mergeFields entries).map (·.1) ⊆ entries.map (·.1) := by
    intro kind member
    rcases List.mem_map.mp member with ⟨entry, kept, rfl⟩
    have last := Json.mem_mergeFields_iff.mp kept
    rw [List.findRev?_eq_find?_reverse] at last
    exact List.mem_map_of_mem (List.mem_reverse.mp (List.mem_of_find?_eq_some last))
  have perm := (List.subperm_of_subset (Json.nodup_mergeFields entries) kinds).perm_of_length_le
    (by simpa using noFewer)
  exact perm.nodup_iff.mp (Json.nodup_mergeFields entries)

/-- What is read of the text of a motif in which a label is an object, and of the texts in which it
is a list of the same entries. -/
theorem ofText_label_forms (frame : LabelFrame) (entries : List (String × LabelValue))
    {text : String} (spells : frame.Spells text (objectLabel entries)) :
    ((entries.map (·.1)).Nodup → ReadsAsWritten frame entries text) ∧
      (¬(entries.map (·.1)).Nodup → ReadsLastOnly frame entries text) := by
  constructor
  · intro distinct
    exact readsAsWritten_of_decoder distinct spells
      (Filter.decoder_of_isLabel distinct (List.Perm.refl _) (Or.inl rfl))
  · intro repeated
    refine ⟨?_, length_mergeFields_lt repeated, fun entry => Json.mem_mergeFields_iff, ?_⟩
    · intro label other listed otherSpells
      rcases Filter.exists_decoder_eq_error repeated listed with ⟨kind, refused⟩
      exact otherSpells.exists_ofText_eq_error refused
    · exact readsAsWritten_of_decoder (Json.nodup_mergeFields entries) spells
        (Filter.decoder_objectLabel entries)

def singleVertex (label : Json) : Json :=
  .object [
    ("selector", .number (.integer 0)),
    ("structure", .object [
      ("vertices", .array [.object [("identifier", .number (.integer 0)), ("label", label)]])])]

def singleVertexFrame : LabelFrame where
  structurePlace := .named [(some "selector", Json.drafted 1 (.number (.integer 0)))] []
  verticesPlace := .named [] []
  earlier := []
  later := []
  labelPlace := .named [(some "identifier", Json.drafted 4 (.number (.integer 0)))] []
  ends := true

theorem spells_singleVertex {label : Json} (plain : label.IsPlain) :
    singleVertexFrame.Spells (singleVertex label).text (label.drafted 4) := by
  have zero : (Json.number (.integer 0)).IsPlain := .natural (by decide : 0 < UInt64.size)
  have vertex : (Json.object [("identifier", .number (.integer 0)), ("label", label)]).IsPlain :=
    .object (by simp [zero, plain])
  have vertices : (Json.array [.object [("identifier", .number (.integer 0)),
      ("label", label)]]).IsPlain := .array (by simp [vertex])
  have parts : (Json.object [("vertices", .array [.object [("identifier", .number (.integer 0)),
      ("label", label)]])]).IsPlain := .object (by simp [vertices])
  have whole : (singleVertex label).IsPlain := .object (by simp [zero, parts])
  rw [LabelFrame.Spells, Text.symbolsOfText, Json.text, String.toList_ofList,
    Json.draft_compact whole]
  rfl

/-- The kinds of one label differ, and another repeats one. -/
theorem ofText_label_forms_single_vertex :
    let count : LabelValue := .number ⟨false, ['3'], none, none⟩ (.integer 3) rfl
    let once : Json := .object [("pos", .string "NOUN"), ("count", .number (.integer 3))]
    let twice : Json := .object [("pos", .string "NOUN"), ("pos", .string "VERB")]
    (∃ motif, ofText (singleVertex once).text = .ok motif) ∧
      ReadsAsWritten singleVertexFrame [("pos", .text "NOUN"), ("count", count)]
        (singleVertex once).text ∧
      (∃ motif, ofText (singleVertex twice).text = .ok motif) ∧
      ReadsLastOnly singleVertexFrame [("pos", .text "NOUN"), ("pos", .text "VERB")]
        (singleVertex twice).text := by
  intro count once twice
  have three : (Json.number (.integer 3)).IsPlain := .natural (by decide : 3 < UInt64.size)
  have oncePlain : once.IsPlain := .object (by simp [Json.IsPlain.string, three])
  have twicePlain : twice.IsPlain := .object (by simp [Json.IsPlain.string])
  have onceSpells := spells_singleVertex oncePlain
  have twiceSpells := spells_singleVertex twicePlain
  refine ⟨⟨_, onceSpells.ofText_eq⟩, ?_, ⟨_, twiceSpells.ofText_eq⟩, ?_⟩
  · exact (ofText_label_forms singleVertexFrame _ onceSpells).1 (by decide)
  · exact (ofText_label_forms singleVertexFrame _ twiceSpells).2 (by decide)

/-- A label with two parts of speech is refused as a list, but as an object it requires one of them,
namely the last. -/
theorem repeated_kind_is_lost :
    let entries : List (String × LabelValue) := [("pos", .text "NOUN"), ("pos", .text "VERB")]
    let twice : Json := .object [("pos", .string "NOUN"), ("pos", .string "VERB")]
    let reversed : Json := .object [("pos", .string "VERB"), ("pos", .string "NOUN")]
    let listed : Json := .array [
      .object [("attribute", .string "pos"), ("value", .string "NOUN")],
      .object [("attribute", .string "pos"), ("value", .string "VERB")]]
    singleVertexFrame.Spells (singleVertex twice).text (objectLabel entries) ∧
      singleVertexFrame.Spells (singleVertex reversed).text (objectLabel entries.reverse) ∧
      singleVertexFrame.Spells (singleVertex listed).text (listed.drafted 4) ∧
      IsListLabel entries (listed.drafted 4) ∧
      ofText (singleVertex listed).text =
        .error (.motifText (some (.motif (.repeatedKind "pos")))) ∧
      ∃ motif other, ofText (singleVertex twice).text = .ok motif ∧
        motif.vertices = [⟨0, .collect [⟨"pos", "VERB"⟩]⟩] ∧
        ofText (singleVertex reversed).text = .ok other ∧
        other.vertices = [⟨0, .collect [⟨"pos", "NOUN"⟩]⟩] := by
  intro entries twice reversed listed
  have twicePlain : twice.IsPlain := .object (by simp [Json.IsPlain.string])
  have reversedPlain : reversed.IsPlain := .object (by simp [Json.IsPlain.string])
  have listedPlain : listed.IsPlain := by
    refine .array ?_
    simp only [List.forall_mem_cons]
    exact ⟨.object (by simp [Json.IsPlain.string]), .object (by simp [Json.IsPlain.string]),
      by simp⟩
  have twiceSpells := spells_singleVertex twicePlain
  have reversedSpells := spells_singleVertex reversedPlain
  have listedSpells := spells_singleVertex listedPlain
  refine ⟨twiceSpells, reversedSpells, listedSpells, ⟨_, ?_, rfl⟩, listedSpells.ofText_eq, _, _,
    twiceSpells.ofText_eq, rfl, reversedSpells.ofText_eq, rfl⟩
  exact .cons .attributeFirst (.cons .attributeFirst .nil)

end Motif

end MotifVote
