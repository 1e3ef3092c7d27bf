import MotifVote.Graph.Document
import MotifVote.Proofs.Json.Reading

/-!
# Decoders that invert a form

A decoder inverts a way to write values as JSON if it finds every value in the draft of what is
written for it, as long as the draft does not lie too deep. Such a decoder then finds the value in
the text. Numbers, texts, lists, pairs and tables are inverted here; for records it is enough to
follow their fields, as it is done here for graph documents.
-/

namespace MotifVote

/-- A list is gone through without a failure if none of its elements fails. -/
theorem mapM_eq_ok_map {β γ ε : Type} {f : β → Except ε γ} {g : β → γ} {list : List β}
    (succeeds : ∀ x ∈ list, f x = .ok (g x)) : list.mapM f = .ok (list.map g) := by
  induction list with
  | nil => rfl
  | cons x list ih =>
      rcases List.forall_mem_cons.mp succeeds with ⟨first, others⟩
      simp [first, ih others, bind, Except.bind, pure, Except.pure]

/-- What is written for the elements of a list is read as these elements. -/
theorem mapM_map_eq_ok {β γ ε : Type} {form : γ → β} {decode : β → Except ε γ} {values : List γ}
    (decodes : ∀ value ∈ values, decode (form value) = .ok value) :
    (values.map form).mapM decode = .ok values := by
  have found : ∀ value ∈ values, (decode ∘ form) value = .ok (id value) := decodes
  rw [List.mapM_map, mapM_eq_ok_map found, List.map_id]

namespace Json

/-- What is written is plain JSON, and it is decoded as what it was written for. As many levels as
the height are written. -/
structure Decoder.Inverts {α : Type} (decode : Decoder α) (height : Nat) (toJson : α → Json) :
    Prop where
  plain : ∀ value, (toJson value).IsPlain
  decodes : ∀ value depth, depth + height ≤ depthLimit →
    decode ((toJson value).drafted depth) = .ok value

/-- The reader drafts a plain value, and nothing is left over. -/
theorem draft_compact {json : Json} (plain : json.IsPlain) :
    draft (json.compact.map some) = (json.drafted 0, true) := by
  have read := plain.readsBack 0 (2 * (json.compact.map some).length + 2) []
    (by rw [List.length_map]; omega) endsValue_nil
  rw [List.append_nil] at read
  rw [draft, read]
  rfl

theorem drafted_object (depth : Nat) (fields : List (String × Json)) :
    (object fields).drafted depth = .object (depth + 1) (draftedFields (depth + 1) fields) :=
  rfl

@[simp]
theorem draftedFields_cons (depth : Nat) (name : String) (field : Json)
    (fields : List (String × Json)) :
    draftedFields depth ((name, field) :: fields) =
      (some name, field.drafted depth) :: draftedFields depth fields :=
  rfl

namespace Decoder

variable {α σ : Type}

/-- A value is found in the compact form that is written for it. -/
theorem Inverts.run_compact {decode : Decoder α} {height : Nat} {toJson : α → Json}
    (inverts : Inverts decode height toJson) (shallow : height ≤ depthLimit) (value : α) :
    decode.run ((toJson value).compact.map some) = .ok value := by
  have decoded := inverts.decodes value 0 (by omega)
  simp [run, draft_compact (inverts.plain value), decoded, bind, Except.bind, pure, Except.pure]

theorem inverts_natural : Inverts natural 0 GraphDocument.jsonOfId where
  plain id := .natural id.toNat_lt_size
  decodes id depth _ := by
    simp [GraphDocument.jsonOfId, drafted, natural, number?_written id.toNat_lt_size]

theorem inverts_text : Inverts text 0 .string where
  plain value := .string value
  decodes _ _ _ := rfl

/-- Whoever has room for more levels has room for fewer. -/
theorem Inverts.mono {decode : Decoder α} {height higher : Nat} {toJson : α → Json}
    (inverts : Inverts decode height toJson) (atMost : height ≤ higher) :
    Inverts decode higher toJson :=
  ⟨inverts.plain, fun value depth shallow => inverts.decodes value depth (by omega)⟩

/-- A pair is decoded part by part. -/
theorem Inverts.pair {β : Type} {first : Decoder α} {second : Decoder β} {height : Nat}
    {firstToJson : α → Json} {secondToJson : β → Json} (left : Inverts first height firstToJson)
    (right : Inverts second height secondToJson) :
    Inverts (Decoder.pair first second) (height + 1) fun value =>
      .array [firstToJson value.1, secondToJson value.2] where
  plain value := by
    refine .array ?_
    simp [left.plain, right.plain]
  decodes value depth shallow := by
    have deepEnough : ¬depth + 1 > depthLimit := by omega
    have leftDecoded := left.decodes value.1 (depth + 1) (by omega)
    have rightDecoded := right.decodes value.2 (depth + 1) (by omega)
    simp [drafted, draftedItems, Decoder.pair, deepEnough, leftDecoded, rightDecoded, bind,
      Except.bind, pure, Except.pure]

theorem draftedItems_eq_map (depth : Nat) (items : List Json) :
    draftedItems depth items = items.map (drafted depth) := by
  induction items with
  | nil => rfl
  | cons item items ih => rw [draftedItems, ih, List.map_cons]

/-- A list is decoded item by item. -/
theorem Inverts.list {item : Decoder α} {height : Nat} {toJson : α → Json}
    (inverts : Inverts item height toJson) :
    Inverts (Decoder.list item) (height + 1) fun values => .array (values.map toJson) where
  plain values := by
    refine .array ?_
    intro json member
    rcases List.mem_map.mp member with ⟨value, -, rfl⟩
    exact inverts.plain value
  decodes values depth shallow := by
    have deepEnough : depth + 1 ≤ depthLimit := by omega
    rw [drafted, Decoder.list, if_pos deepEnough, draftedItems_eq_map, List.map_map]
    apply mapM_map_eq_ok
    intro value _
    exact inverts.decodes value (depth + 1) (by omega)

section Table

theorem foldl_putField {merged fields : List (String × α)}
    (distinct : ((merged ++ fields).map (·.1)).Nodup) :
    fields.foldl (fun merged field => putField merged field.1 field.2) merged =
      merged ++ fields := by
  induction fields generalizing merged with
  | nil => simp
  | cons field fields ih =>
      rcases field with ⟨name, value⟩
      have fresh : merged.any (·.1 == name) = false := by
        rw [List.map_append, List.nodup_append] at distinct
        rw [List.any_eq_false]
        intro other member
        simpa using distinct.2.2 other.1 (List.mem_map_of_mem member) name List.mem_cons_self
      rw [List.foldl_cons, putField, fresh, if_neg (by simp), ih (by simpa using distinct),
        List.append_assoc, List.singleton_append]

/-- Fields of different names are kept as they are. -/
theorem mergeFields_eq_self {fields : List (String × α)} (distinct : (fields.map (·.1)).Nodup) :
    mergeFields fields = fields :=
  foldl_putField distinct

theorem draftedFields_eq_map (depth : Nat) (fields : List (String × Json)) :
    draftedFields depth fields =
      fields.map fun field => (some field.1, field.2.drafted depth) := by
  induction fields with
  | nil => rfl
  | cons field fields ih => rw [draftedFields_cons, ih, List.map_cons]

/-- A table is decoded row by row, if its names are different. -/
theorem Inverts.table {field : Decoder α} {height : Nat} {toJson : α → Json}
    (inverts : Inverts field height toJson) {rows : List (String × α)}
    (distinct : (rows.map (·.1)).Nodup) {depth : Nat} (shallow : depth + height < depthLimit) :
    Decoder.table field ((object (rows.map fun row => (row.1, toJson row.2))).drafted depth) =
      .ok rows := by
  have deepEnough : ¬depth + 1 > depthLimit := by omega
  have decoded : (draftedFields (depth + 1) (rows.map fun row => (row.1, toJson row.2))).mapM
      (fun entry => do return (← require entry.1, ← field entry.2) :
        Option String × Draft → Except Fault (String × α)) = .ok rows := by
    rw [draftedFields_eq_map, List.map_map]
    apply mapM_map_eq_ok
    intro row _
    simp [require, inverts.decodes row.2 (depth + 1) (by omega), bind, Except.bind, pure,
      Except.pure]
  rw [drafted_object, Decoder.table, if_neg deepEnough]
  change (List.mapM _ _ >>= fun read => pure (mergeFields read)) = Except.ok rows
  rw [decoded]
  exact congrArg Except.ok (mergeFields_eq_self distinct)

end Table

section Record

variable {fields : List (Field σ)} {blank built : σ} {entries : List (Option String × Draft)}

/-- A record is decoded once its fields are. -/
theorem record_object (built : σ) {build : σ → Option α} {value : α} {depth : Nat}
    (shallow : depth ≤ depthLimit) (reads : entries.foldlM (readField fields) blank = .ok built)
    (complete : build built = some value) :
    record fields blank build (.object depth entries) = .ok value := by
  simp [record, Nat.not_lt.mpr shallow, reads, complete, require, bind, Except.bind]

/-- A field that has not been set is set to what is decoded for it. -/
theorem foldlM_readField_cons {result : σ} {name : String} {optional : Bool} {get : σ → Option α}
    {set : α → σ → σ} {decode : Decoder α} {draft : Draft} {value : α}
    (named : fields.find? (·.name == name) = some (.of name optional get set decode))
    (unset : get built = none) (decoded : decode draft = .ok value)
    (rest : entries.foldlM (readField fields) (set value built) = .ok result) :
    ((some name, draft) :: entries).foldlM (readField fields) built = .ok result := by
  have read : readField fields built (some name, draft) = .ok (set value built) := by
    simp [readField, require, named, Field.of, unset, decoded, bind, Except.bind, pure, Except.pure]
  rw [List.foldlM_cons, read]
  exact rest

end Record

end Decoder

end Json

namespace GraphDocument

open Json (Decoder)

theorem inverts_attributeDecoder : attributeDecoder.Inverts 1 attributeToJson where
  plain carried :=
    (Decoder.inverts_text.pair Decoder.inverts_text).plain ⟨carried.kind, carried.value⟩
  decodes carried depth shallow := by
    have pair := (Decoder.inverts_text.pair Decoder.inverts_text).decodes
      ⟨carried.kind, carried.value⟩ depth shallow
    simp [attributeDecoder, attributeToJson, pair, bind, Except.bind, pure, Except.pure]

theorem inverts_vertexDecoder : vertexDecoder.Inverts 3 vertexToJson where
  plain record := by
    refine .object ?_
    simp [Decoder.inverts_natural.plain, inverts_attributeDecoder.list.plain]
  decodes record depth shallow := by
    have identifier := Decoder.inverts_natural.decodes record.identifier (depth + 1) (by omega)
    have attributes := inverts_attributeDecoder.list.decodes record.attributes (depth + 1)
      (by omega)
    refine Decoder.record_object (some record.identifier, some record.attributes) (by omega) ?_ rfl
    exact Decoder.foldlM_readField_cons rfl rfl identifier
      (Decoder.foldlM_readField_cons rfl rfl attributes rfl)

theorem inverts_edgeDecoder : edgeDecoder.Inverts 1 edgeToJson where
  plain record := by
    refine .object ?_
    simp [Decoder.inverts_natural.plain, Json.IsPlain.string]
  decodes record depth shallow := by
    have source := Decoder.inverts_natural.decodes record.source (depth + 1) shallow
    have destination := Decoder.inverts_natural.decodes record.destination (depth + 1) shallow
    have label := Decoder.inverts_text.decodes record.label (depth + 1) shallow
    refine Decoder.record_object (some record.source, some record.destination, some record.label)
      shallow ?_ rfl
    exact Decoder.foldlM_readField_cons rfl rfl source
      (Decoder.foldlM_readField_cons rfl rfl destination
        (Decoder.foldlM_readField_cons rfl rfl label rfl))

theorem inverts_decoder : GraphDocument.decoder.Inverts 5 GraphDocument.toJson where
  plain document := by
    refine .object ?_
    simp [inverts_vertexDecoder.list.plain, inverts_edgeDecoder.list.plain]
  decodes document depth shallow := by
    have vertices := inverts_vertexDecoder.list.decodes document.vertices (depth + 1) (by omega)
    have edges := inverts_edgeDecoder.list.decodes document.edges (depth + 1) (by omega)
    refine Decoder.record_object (some document.vertices, some document.edges) (by omega) ?_ rfl
    exact Decoder.foldlM_readField_cons rfl rfl vertices
      (Decoder.foldlM_readField_cons rfl rfl edges rfl)

/-- A graph document is read back from its own text. -/
theorem ofText_text (document : GraphDocument) : ofText document.toJson.text = .ok document := by
  have found : decoder.run (Text.symbolsOfText document.toJson.text) = .ok document := by
    rw [Text.symbolsOfText, Json.text, String.toList_ofList]
    exact inverts_decoder.run_compact (by decide) document
  rw [ofText, ofSource, found]
  rfl

end GraphDocument

end MotifVote
