import MotifVote.Config.Setting
import MotifVote.Dataset
import MotifVote.Session.Opening

/-!
# Records in files

Reading configurations, datasets, images and motifs from files, and writing images and motifs to
files. The stores of a dataset are opened one after the other, and all of them are tried.
-/

namespace MotifVote

open Disk (Action)

variable {m : Type → Type} [Monad m] [Disk m]

namespace Config

/-- Configuration files have at most this many bytes. -/
def sizeLimit : Nat := 1024 * 1024

/-- The configuration of a file, or the default one without a file. It must pass all checks. -/
def load (path : Option String) : Action m (Config Float) := do
  let config ←
    match path with
    | none => pure default
    | some path => do Disk.settle (ofTomlText (← Disk.loadTextWithin sizeLimit path))
  Disk.settle (config.check.mapError .setting)
  return config

end Config

namespace Dataset

/-- The dataset of a file. -/
def load (path : String) : Action m Dataset := do
  Disk.settle (Dataset.ofSource (← Disk.loadSource path))

/-- Opens the stores of all documents. -/
def openAll (dataset : Dataset) : m (List OpenedDocument) :=
  dataset.documents.mapM fun document => do
    return ⟨document, ← (Session.openExisting document.filename).run⟩

/-- The positives of all documents whose stores open. -/
def loadTruth (dataset : Dataset) : m PointSet := do
  return OpenedDocument.groundTruth (← dataset.openAll)

end Dataset

namespace Image

/-- The image of a file. -/
def load (path : String) : Action m Image := do
  Disk.settle (Image.ofSource (← Disk.loadSource path))

/-- Writes an image to a file. -/
def save (image : Image) (path : String) : Action m Unit := Disk.saveText path image.text

/-- Evaluates all documents of a dataset whose stores open. -/
def evaluateDataset (image : Image) (dataset : Dataset) : m (EvaluationReport × Image) := do
  return image.evaluateDocuments (← dataset.openAll)

end Image

namespace Motif

/-- The motifs of a file, one on each line. -/
def loadAll (path : String) : Action m (List Motif) := do
  Disk.settle (JsonLines.read Motif.decoder (← Disk.loadSource path))

/-- Writes motifs to a file, one on each line. -/
def saveAll (path : String) (motifs : List Motif) : Action m Unit :=
  Disk.saveText path (JsonLines.write Motif.toJson motifs)

end Motif

end MotifVote
