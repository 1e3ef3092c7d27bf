import MotifVote.Image
import MotifVote.Name.Vocabulary
import MotifVote.Session

/-!
# Datasets

A list of documents by the locators of their stores. A document may belong to splits. What is done
for a whole dataset is done as far as possible: documents whose stores do not open are passed over.
-/

namespace MotifVote

/-- A document of a dataset. -/
structure Document where
  filename : String
  splits : List Split
  deriving DecidableEq, Repr

/-- Documents in order. -/
structure Dataset where
  documents : List Document
  deriving DecidableEq, Repr

/-- A document with its store, or why that does not open. -/
structure OpenedDocument where
  document : Document
  store : Except Error Session

/-- What became of the documents of a dataset. -/
structure EvaluationReport where
  evaluated : List String
  failed : List (String × Error)

/-- Whether all documents were evaluated. -/
def EvaluationReport.isComplete (report : EvaluationReport) : Bool := report.failed.isEmpty

namespace Document

open Json (Decoder)

/-- A split is read from a name that is close to its own. -/
def splitDecoder : Decoder Split := fun draft => do
  (Split.ofName (← Decoder.text draft)).mapError .refused

/-- A document may be read without splits. -/
def decoder : Decoder Document :=
  Decoder.record (σ := Option String × Option (List Split))
    [.of "filename" false (·.1) (fun filename built => (some filename, built.2)) Decoder.text,
     .of "split" true (·.2) (fun splits built => (built.1, some splits))
      (Decoder.list splitDecoder)]
    (none, none)
    fun (filename, splits) => do return ⟨← filename, splits.getD []⟩

/-- A document as a JSON value. -/
def toJson (document : Document) : Json :=
  .object [
    ("filename", .string document.filename),
    ("split", .array (document.splits.map fun split => .string split.name))]

/-- The positives of a document whose store is open. -/
def positivePoints (document : Document) (store : Session) : List Point :=
  (GraphStore.positives store).map fun vertex => ⟨document.filename, vertex⟩

end Document

namespace OpenedDocument

/-- The positives of a document; none if its store does not open. -/
def positivePoints (opened : OpenedDocument) : List Point :=
  match opened.store with
  | .ok store => opened.document.positivePoints store
  | .error _ => []

/-- The positives of all documents whose stores open. -/
def groundTruth (documents : List OpenedDocument) : PointSet :=
  .ofList (documents.flatMap positivePoints)

end OpenedDocument

namespace Dataset

/-- The dataset that a source holds, a document on each line. -/
def ofSource (source : List Text.Symbol) : Except Error Dataset := do
  return ⟨← JsonLines.read Document.decoder source⟩

/-- Whether any document belongs to a split. -/
def hasSplits (dataset : Dataset) : Bool := dataset.documents.any fun document =>
  !document.splits.isEmpty

/-- The locators of the documents of a split. -/
def locatorsIn (dataset : Dataset) (split : Split) : Std.TreeSet String :=
  .ofList ((dataset.documents.filter fun document => document.splits.contains split).map
    (·.filename))

end Dataset

namespace Image

/-- Evaluates one more document. -/
def evaluateDocument (state : EvaluationReport × Image) (opened : OpenedDocument) :
    EvaluationReport × Image :=
  let (report, image) := state
  let filename := opened.document.filename
  match opened.store >>= fun store => image.evaluate store filename with
  | .ok (_, image) => ({ report with evaluated := report.evaluated ++ [filename] }, image)
  | .error error => ({ report with failed := report.failed ++ [(filename, error)] }, image)

/-- Evaluates all documents of a dataset. -/
def evaluateDocuments (image : Image) (documents : List OpenedDocument) :
    EvaluationReport × Image :=
  documents.foldl evaluateDocument (⟨[], []⟩, image)

end Image

end MotifVote
