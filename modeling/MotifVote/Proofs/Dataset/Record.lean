import MotifVote.Dataset
import MotifVote.Proofs.Image.Record
import MotifVote.Proofs.Text.Bytes

/-!
# Files of records

Whatever list of motifs, points, documents or rows of an image is written to a file, the same list
is read from it, as long as no line is too long; else the first such line is named, with the number
of bytes that lines may have. The names of splits are resolved loosely, but each of them is closest
to itself.

A line may be too long because of a single text, so there are points that are not read back.
-/

namespace MotifVote

open Json (Decoder)
open Text (symbolsOfBytes symbolsOfText)

theorem Split.ofName_name (split : Split) : ofName split.name = .ok split := by
  cases split <;> decide +kernel

namespace Document

theorem inverts_splitDecoder :
    splitDecoder.Inverts 0 fun split => .string split.name where
  plain split := .string split.name
  decodes split depth shallow := by
    have found := Decoder.inverts_text.decodes split.name depth shallow
    simp [splitDecoder, found, Split.ofName_name, Except.mapError, bind, Except.bind]

theorem inverts_decoder : Document.decoder.Inverts 2 Document.toJson where
  plain document := by
    have splits : Json.IsPlain (.array (document.splits.map fun split => .string split.name)) :=
      inverts_splitDecoder.list.plain document.splits
    refine .object ?_
    simp [Json.IsPlain.string, splits]
  decodes document depth shallow := by
    have filename := Decoder.inverts_text.decodes document.filename (depth + 1) (by omega)
    have splits := inverts_splitDecoder.list.decodes document.splits (depth + 1) (by omega)
    refine Decoder.record_object (some document.filename, some document.splits) (by omega) ?_ rfl
    exact Decoder.foldlM_readField_cons rfl rfl filename
      (Decoder.foldlM_readField_cons rfl rfl splits rfl)

end Document

section Files

/-- Lists of records of one kind are read from the files that are written for them. -/
def RestoresFiles {α : Type} (decode : Decoder α) (toJson : α → Json) : Prop :=
  ∀ records : List α,
    JsonLines.read decode (symbolsOfBytes (JsonLines.write toJson records).toUTF8) =
      JsonLines.readBack toJson records

theorem restoresFiles {α : Type} {decode : Decoder α} {toJson : α → Json} {height : Nat}
    (inverts : decode.Inverts height toJson) (shallow : height ≤ Json.depthLimit)
    (objects : ∀ record, ∃ fields, toJson record = .object fields) :
    RestoresFiles decode toJson := by
  intro records
  rw [Text.symbolsOfBytes_toUTF8]
  exact JsonLines.read_write_eq inverts shallow objects records

/-- Files of motifs, points, documents and rows of images are read as what was written to them, up
to lines that are too long; a motif is read from its own text; and an image is read from its own
file, unless a row is too long or a point has no document. -/
theorem files_are_restored :
    RestoresFiles Motif.decoder Motif.toJson ∧ RestoresFiles Point.decoder Point.toJson ∧
      RestoresFiles Document.decoder Document.toJson ∧
      RestoresFiles ImageRow.decoder ImageRow.toJson ∧
      (∀ motif : Motif, Motif.ofText motif.toJson.text = .ok motif) ∧
      ∀ image : Image, Image.ofSource (symbolsOfBytes image.text.toUTF8) = image.readBack := by
  refine ⟨?_, ?_, ?_, ?_, Motif.ofText_text, ?_⟩
  · exact restoresFiles Motif.inverts_decoder (by decide) fun _ => ⟨_, rfl⟩
  · exact restoresFiles Point.inverts_decoder (by decide) fun _ => ⟨_, rfl⟩
  · exact restoresFiles Document.inverts_decoder (by decide) fun _ => ⟨_, rfl⟩
  · exact restoresFiles ImageRow.inverts_decoder (by decide) fun _ => ⟨_, rfl⟩
  · intro image
    rw [Text.symbolsOfBytes_toUTF8]
    exact image.ofSource_text_eq

end Files

section Limits

theorem length_le_utf8ByteSize (chars : List Char) :
    chars.length ≤ (String.ofList chars).utf8ByteSize := by
  induction chars with
  | nil => simp
  | cons c chars ih =>
      have split : String.ofList (c :: chars) = String.singleton c ++ String.ofList chars := by
        rw [String.singleton_eq_ofList, ← String.ofList_append, List.singleton_append]
      have size := c.utf8Size_pos
      rw [split, String.utf8ByteSize_append, String.utf8ByteSize_singleton, List.length_cons]
      omega

/-- Escaping never drops a character. -/
theorem length_le_writtenString (text : String) :
    text.length ≤ (Json.writtenString text).length := by
  have escapes : ∀ c, 1 ≤ (Json.escaped c).length := by
    intro c
    unfold Json.escaped
    split_ifs <;> simp
  have written : text.toList.length ≤ (text.toList.flatMap Json.escaped).length := by
    induction text.toList with
    | nil => simp
    | cons c chars ih =>
        have first := escapes c
        rw [List.flatMap_cons, List.length_append, List.length_cons]
        omega
  rw [String.length_toList] at written
  simp only [Json.writtenString, List.length_append]
  omega

/-- The line of a point has more bytes than the locator of its document has characters. -/
theorem Point.length_document_lt (point : Point) :
    point.document.length < point.toJson.text.utf8ByteSize := by
  refine Nat.lt_of_lt_of_le ?_ (length_le_utf8ByteSize point.toJson.compact)
  have document := length_le_writtenString point.document
  simp only [Point.toJson, Json.compact, Json.compactFields, List.length_append, List.length_cons,
    List.length_nil]
  omega

/-- No point is read back if the locator of its document takes up a whole line. -/
theorem read_point_of_long_document {point : Point}
    (long : JsonLines.lineLimit ≤ point.document.length) :
    JsonLines.read Point.decoder (symbolsOfBytes (JsonLines.write Point.toJson [point]).toUTF8) =
      .error (.recordLine 1 (.tooLong JsonLines.lineLimit)) := by
  have tooLong : JsonLines.lineLimit < point.toJson.text.utf8ByteSize :=
    Nat.lt_of_le_of_lt long point.length_document_lt
  have first : JsonLines.firstLong? Point.toJson [point] = some 0 := by
    simp [JsonLines.firstLong?, tooLong]
  rw [Text.symbolsOfBytes_toUTF8,
    JsonLines.read_write_eq Point.inverts_decoder (by decide) (fun _ => ⟨_, rfl⟩),
    JsonLines.readBack, first]

/-- The message names the line and says how many bytes it may have. -/
example : (Error.recordLine 1 (.tooLong JsonLines.lineLimit)).message =
    "Deserialization error: line 1: record exceeds 67108864 bytes" := by
  decide +kernel

/-- A point of a document whose locator is a line of the letter a. -/
theorem point_not_restored :
    let point : Point := ⟨String.ofList (List.replicate JsonLines.lineLimit 'a'), 0⟩
    JsonLines.read Point.decoder
        (symbolsOfBytes (JsonLines.write Point.toJson [point]).toUTF8) ≠ .ok [point] := by
  intro point restored
  have length : point.document.length = JsonLines.lineLimit := by
    rw [String.length_ofList, List.length_replicate]
  rw [read_point_of_long_document (Nat.le_of_eq length.symm)] at restored
  cases restored

end Limits

end MotifVote
