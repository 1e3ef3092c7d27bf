import MotifVote.Command.Basic
import MotifVote.Command.Report
import MotifVote.Command.Table
import MotifVote.Disk.Records
import MotifVote.Neighborhood

/-!
# Running commands

Each command reads files, computes, and writes at most one file besides the stores it opens. The
configuration is read and checked before anything else.
-/

namespace MotifVote

open Disk (Action)

variable {m : Type → Type} [Monad m] [Disk m]

namespace Command

/-- Files of graph documents have at most this many bytes. -/
def documentLimit : Nat := 100 * 1024 * 1024

/-- Stores the graph document of a file. The file is read before the store is opened, but the
document is checked only then. -/
def runIngest (file database : String) : Action m Report := do
  let document ← Disk.settle (GraphDocument.ofText (← Disk.loadTextWithin documentLimit file))
  let session ← Session.openAt database
  let (mapping, session) ← session.ingestAndKeep document
  return .ingested database mapping.size document.edges.length
    (GraphStore.vertexCount session) (GraphStore.edgeCount session)

/-- Says what a store holds. -/
def runStatus (database : String) : Action m Report := do
  let session ← Session.openExisting database
  return .status database session.isPersistent (GraphStore.vertexCount session)
    (GraphStore.edgeCount session) (GraphStore.positives session).length

/-- Writes the neighbourhoods of the positives of a store. -/
def runExtract (config : Config Float) (input output : String) (distance : Option Float) :
    Action m Report := do
  let distance := distance.getD config.neighborhoodDistance
  let weights ← Disk.settle (config.edgeWeights.mapError .setting)
  let session ← Session.openExisting input
  let motifs ← Disk.settle (Neighborhood.extract session distance weights)
  Motif.saveAll output motifs
  return .extracted input output distance motifs.length

/-- Evaluates motifs over the documents of a dataset. -/
def runEvaluate (motifs dataset output : String) : Action m Report := do
  let motifs ← Motif.loadAll motifs
  let dataset ← Dataset.load dataset
  let (report, image) ←
    ((Image.empty.registerAll motifs).evaluateDataset dataset : m (EvaluationReport × Image))
  image.save output
  return .evaluated output image.rows.length report

/-- The results of a run for one strategy. -/
def results (config : Config Float) (image : Image) (dataset : Dataset) (truth : PointSet)
    (settings : LearningSettings Float) (strategy : Strategy) :
    Except Error (List (ResultRow Float)) := do
  let ensemble := Ensemble.ofImage strategy image config
  let partition := Partition.ofDataset ensemble.domain dataset
  let outcome ← settings.run ensemble truth partition config.classificationThreshold
  return outcome.rows

/-- Runs active learning for some strategies; for all if none is given. -/
def runAnalyze (config : Config Float) (image dataset output : String)
    (strategies : List Strategy) (settings : LearningSettings Float) : Action m Report := do
  let image ← Image.load image
  let dataset ← Dataset.load dataset
  let truth ← (dataset.loadTruth : m PointSet)
  let strategies := if strategies.isEmpty then Strategy.all else strategies
  let rows ← Disk.settle (strategies.mapM (results config image dataset truth settings))
  let rows := rows.flatten
  Disk.saveText output (Csv.text (ResultRow.header :: rows.map ResultRow.fields))
  return .analyzed output strategies rows.length

/-- Writes the curve of a strategy. -/
def runCurve (config : Config Float) (image dataset output : String) (strategy : Strategy) :
    Action m Report := do
  let image ← Image.load image
  let dataset ← Dataset.load dataset
  let truth ← (dataset.loadTruth : m PointSet)
  let curve := (Ensemble.ofImage strategy image config).curve truth
  Disk.saveText output (Csv.text (CurvePoint.header :: curve.map CurvePoint.fields))
  return .curve output strategy curve.length

/-- Runs a command. -/
def run (config : Config Float) : Command → Action m Report
  | .ingest file database => runIngest file database
  | .status database => runStatus database
  | .extract input output distance => runExtract config input output distance
  | .evaluate motifs dataset output => runEvaluate motifs dataset output
  | .analyze image dataset output strategies settings =>
    runAnalyze config image dataset output strategies settings
  | .curve image dataset output strategy => runCurve config image dataset output strategy

end Command

/-- Does what a command line asks for, and says what is to be printed. -/
def Invocation.run (invocation : Invocation) : Action m String := do
  let config ← Config.load invocation.config
  let report ← invocation.command.run config
  return report.text invocation.json

end MotifVote
