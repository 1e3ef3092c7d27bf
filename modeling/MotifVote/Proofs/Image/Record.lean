import MotifVote.Image
import MotifVote.Proofs.Json.Lines
import MotifVote.Proofs.Motif.Record

/-!
# Images in JSON

An image is read back from its own text, as long as all its points belong to documents and none of
its rows is too long for a line. Otherwise reading fails, for a row before it fails for a point.
-/

namespace MotifVote

open Json (Decoder Field)

theorem Point.inverts_decoder : Point.decoder.Inverts 1 Point.toJson where
  plain point := by
    refine .object ?_
    simp [Decoder.inverts_natural.plain, Json.IsPlain.string]
  decodes point depth shallow := by
    have document := Decoder.inverts_text.decodes point.document (depth + 1) shallow
    have identifier := Decoder.inverts_natural.decodes point.identifier (depth + 1) shallow
    refine Decoder.record_object (some point.document, some point.identifier) shallow ?_ rfl
    exact Decoder.foldlM_readField_cons rfl rfl document
      (Decoder.foldlM_readField_cons rfl rfl identifier rfl)

theorem ImageRow.inverts_decoder : ImageRow.decoder.Inverts 6 ImageRow.toJson where
  plain row := by
    have points : Json.IsPlain (.array (row.points.map Point.toJson)) :=
      Point.inverts_decoder.list.plain row.points
    refine .object ?_
    simp [Motif.inverts_decoder.plain, points]
  decodes row depth shallow := by
    have motif := Motif.inverts_decoder.decodes row.motif (depth + 1) (by omega)
    have points := Point.inverts_decoder.list.decodes row.points (depth + 1) (by omega)
    refine Decoder.record_object (some row.motif, some row.points) (by omega) ?_ rfl
    exact Decoder.foldlM_readField_cons rfl rfl motif
      (Decoder.foldlM_readField_cons rfl rfl points rfl)

namespace Image

open Text (symbolsOfText)

variable {image : Image}

/-- What should be read of the text of an image: the image, unless a row is too long for a line or
a point has no document. -/
def readBack (image : Image) : Except Error Image :=
  match JsonLines.firstLong? ImageRow.toJson image.rows with
  | some place => .error (.recordLine (place + 1) (.tooLong JsonLines.lineLimit))
  | none =>
    match image.domain.find? fun point => point.document.isEmpty with
    | some point => .error (.pointWithoutDocument point.identifier)
    | none => .ok image

theorem ofSource_text_eq (image : Image) :
    ofSource (symbolsOfText image.text) = image.readBack := by
  have read : JsonLines.read ImageRow.decoder (symbolsOfText image.text) =
      JsonLines.readBack ImageRow.toJson image.rows :=
    JsonLines.read_write_eq ImageRow.inverts_decoder (by decide) (fun _ => ⟨_, rfl⟩) image.rows
  rw [ofSource, read, readBack, JsonLines.readBack]
  rcases JsonLines.firstLong? ImageRow.toJson image.rows with _ | place
  · rfl
  · rfl

/-- The text of an image describes the image again. -/
theorem ofSource_text (documents : ∀ point ∈ image.domain, point.document ≠ "")
    (fit : JsonLines.FitLines ImageRow.toJson image.rows) :
    ofSource (symbolsOfText image.text) = .ok image := by
  have known : image.domain.find? (fun point => point.document.isEmpty) = none := by
    rw [List.find?_eq_none]
    simpa using documents
  rw [ofSource_text_eq, readBack, JsonLines.firstLong?_eq_none_iff.mpr fit, known]

/-- The text of an image describes no other image. -/
theorem eq_of_ofSource_text_eq_ok {loaded : Image}
    (success : ofSource (symbolsOfText image.text) = .ok loaded) : loaded = image := by
  rw [ofSource_text_eq, readBack] at success
  rcases long : JsonLines.firstLong? ImageRow.toJson image.rows with _ | place
  · rcases missing : image.domain.find? (fun point => point.document.isEmpty) with _ | point
    · simp only [long, missing] at success
      exact (Except.ok.inj success).symm
    · simp only [long, missing] at success
      cases success
  · simp only [long] at success
    cases success

end Image

end MotifVote
