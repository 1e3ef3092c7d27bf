import MotifVote.Proofs.Image.Coverage
import MotifVote.Proofs.Workspace.Existing

/-!
# Evaluating datasets

One document after another is evaluated, whether or not those before it have failed. On one document
the rows are extended once all motifs have been evaluated, so that a motif that fails keeps all of
them as they are.

No motif fails on a store that is open. To say what would happen if some did, documents are taken as
readings here, where every motif may fail for a reason of its own. The motifs of an image never
change, hence it is decided from the start which readings fail, and the rest of them is appended.
-/

namespace MotifVote

/-- A document, with what evaluates a motif on it if its store opens. -/
structure Reading where
  filename : String
  select : Except Error (Motif → Except Error (List VertexId))

namespace Reading

/-- The reading of a document whose store has been opened. -/
def ofOpened (opened : OpenedDocument) : Reading :=
  ⟨opened.document.filename, opened.store.map fun store motif => motif.evaluate store⟩

/-- Why there is no value. -/
def error? {α : Type} : Except Error α → Option Error
  | .error error => some error
  | .ok _ => none

/-- Why not all motifs can be evaluated. The first of them that fails says why. -/
def failure? (reading : Reading) (motifs : List Motif) : Option Error :=
  match reading.select with
  | .error error => some error
  | .ok select => motifs.findSome? fun motif => error? (select motif)

/-- The points that a motif selects. -/
def selectedPoints (reading : Reading) (motif : Motif) : List Point :=
  match reading.select with
  | .error _ => []
  | .ok select => ((select motif).toOption.getD []).map (Point.mk reading.filename)

end Reading

namespace Image

variable {image next : Image} {reading : Reading} {readings : List Reading}

section Program

/-- Evaluates every motif in a reading. The rows are extended once all have been evaluated. -/
def evaluateIn (image : Image) (reading : Reading) : Except Error (Nat × Image) := do
  let select ← reading.select
  let selections ← image.rows.mapM fun row => select row.motif
  return (selections.flatten.length,
    ⟨List.zipWith (extendRow reading.filename) image.rows selections⟩)

/-- Evaluates every motif in one more reading. -/
def evaluateNext (state : EvaluationReport × Image) (reading : Reading) :
    EvaluationReport × Image :=
  let (report, image) := state
  match image.evaluateIn reading with
  | .ok (_, image) =>
    ({ report with evaluated := report.evaluated ++ [reading.filename] }, image)
  | .error error =>
    ({ report with failed := report.failed ++ [(reading.filename, error)] }, image)

/-- Evaluates every motif in one reading after another. -/
def evaluateAll (image : Image) (readings : List Reading) : EvaluationReport × Image :=
  readings.foldl evaluateNext (⟨[], []⟩, image)

theorem evaluate_eq_evaluateIn {σ : Type} [GraphStore σ] (image : Image) (store : σ)
    (document : String) :
    image.evaluate store document =
      image.evaluateIn ⟨document, .ok fun motif => motif.evaluate store⟩ :=
  rfl

theorem evaluateDocument_eq_evaluateNext (state : EvaluationReport × Image)
    (opened : OpenedDocument) :
    evaluateDocument state opened = evaluateNext state (.ofOpened opened) := by
  rcases opened with ⟨document, error | store⟩
  · rfl
  · rfl

theorem evaluateDocuments_eq_evaluateAll (image : Image) (documents : List OpenedDocument) :
    image.evaluateDocuments documents = image.evaluateAll (documents.map .ofOpened) := by
  have same : evaluateDocument = fun state opened => evaluateNext state (.ofOpened opened) :=
    funext₂ evaluateDocument_eq_evaluateNext
  rw [evaluateDocuments, evaluateAll, List.foldl_map, same]

end Program

section Appending

/-- The image with what the motifs select in some readings. -/
def append (image : Image) (readings : List Reading) : Image :=
  ⟨image.rows.map fun row =>
    { row with points := row.points ++ readings.flatMap (·.selectedPoints row.motif) }⟩

@[simp]
theorem append_nil (image : Image) : image.append [] = image := by
  simp [append]

@[simp]
theorem motifs_append (image : Image) (readings : List Reading) :
    (image.append readings).motifs = image.motifs := by
  simp [append, motifs, Function.comp_def]

theorem append_append (image : Image) (readings others : List Reading) :
    (image.append readings).append others = image.append (readings ++ others) := by
  simp [append]

theorem length_domain_append (image : Image) (reading : Reading) :
    (image.append [reading]).domain.length =
      image.domain.length + (image.motifs.flatMap reading.selectedPoints).length := by
  rcases image with ⟨rows⟩
  induction rows with
  | nil => rfl
  | cons row rows ih =>
      simp only [append, domain, motifs, List.map_cons, List.flatMap_cons, List.flatMap_nil,
        List.append_nil, List.length_append] at ih ⊢
      omega

/-- Evaluating motifs one after another ends at the first of them that fails. -/
theorem mapM_select (select : Motif → Except Error (List VertexId)) (rows : List ImageRow) :
    rows.mapM (fun row => select row.motif) =
      match (rows.map (·.motif)).findSome? fun motif => Reading.error? (select motif) with
      | some error => .error error
      | none => .ok (rows.map fun row => (select row.motif).toOption.getD []) := by
  induction rows with
  | nil => rfl
  | cons row rows ih =>
      rw [List.mapM_cons, ih, List.map_cons, List.findSome?_cons]
      rcases found : select row.motif with error | selected
      · rfl
      · rw [List.map_cons, found]
        generalize (rows.map (·.motif)).findSome? (fun motif => Reading.error? (select motif)) =
          failure
        rcases failure with _ | error
        · rfl
        · rfl

/-- On one document, either nothing is appended or all motifs have been evaluated. -/
theorem evaluateIn_eq (image : Image) (reading : Reading) :
    image.evaluateIn reading =
      match reading.failure? image.motifs with
      | some error => .error error
      | none => .ok ((image.motifs.flatMap reading.selectedPoints).length,
          image.append [reading]) := by
  rcases reading with ⟨filename, error | select⟩
  · rfl
  · have run : image.evaluateIn ⟨filename, .ok select⟩ = (do
        let selections ← image.rows.mapM fun row => select row.motif
        return (selections.flatten.length,
          ⟨List.zipWith (extendRow filename) image.rows selections⟩)) := rfl
    have failure : Reading.failure? ⟨filename, .ok select⟩ image.motifs =
        (image.rows.map (·.motif)).findSome? fun motif => Reading.error? (select motif) := rfl
    rw [run, failure, mapM_select]
    split
    next => rfl
    next =>
      have count : (image.rows.map fun row => (select row.motif).toOption.getD []).flatten.length =
          (image.motifs.flatMap (Reading.selectedPoints ⟨filename, .ok select⟩)).length := by
        simp [motifs, Reading.selectedPoints, List.length_flatMap, List.length_flatten,
          Function.comp_def]
      have extended : List.zipWith (extendRow filename) image.rows
          (image.rows.map fun row => (select row.motif).toOption.getD []) =
            (image.append [⟨filename, .ok select⟩]).rows := by
        rw [List.zipWith_map_right, List.zipWith_self]
        simp [append, extendRow, Reading.selectedPoints]
      simp only [bind, Except.bind, pure, Except.pure, count, extended]

end Appending

section Runs

/-- The readings in which no motif of an image fails, in order. -/
def readable (image : Image) (readings : List Reading) : List Reading :=
  readings.filter fun reading => (reading.failure? image.motifs).isNone

/-- The filenames of the other readings with the reasons, in order. -/
def unreadable (image : Image) (readings : List Reading) : List (String × Error) :=
  readings.filterMap fun reading => (reading.failure? image.motifs).map (Prod.mk reading.filename)

theorem evaluateNext_eq (report : EvaluationReport) (image : Image) (reading : Reading) :
    evaluateNext (report, image) reading =
      (⟨report.evaluated ++ (image.readable [reading]).map (·.filename),
        report.failed ++ image.unreadable [reading]⟩, image.append (image.readable [reading])) := by
  have result := evaluateIn_eq image reading
  rcases failed : reading.failure? image.motifs with _ | error
  · simp only [failed] at result
    simp [evaluateNext, result, readable, unreadable, failed]
  · simp only [failed] at result
    simp [evaluateNext, result, readable, unreadable, failed]

/-- Which readings fail is the same for all images on the way, since their motifs are the same. -/
theorem foldl_evaluateNext (report : EvaluationReport) (image : Image) (readings : List Reading) :
    readings.foldl evaluateNext (report, image) =
      (⟨report.evaluated ++ (image.readable readings).map (·.filename),
        report.failed ++ image.unreadable readings⟩, image.append (image.readable readings)) := by
  induction readings generalizing report image with
  | nil => simp [readable, unreadable]
  | cons reading readings ih =>
      have readableLater : readable (image.append (image.readable [reading])) = image.readable := by
        simp only [funext_iff, readable, motifs_append, implies_true]
      have unreadableLater :
          unreadable (image.append (image.readable [reading])) = image.unreadable := by
        simp only [funext_iff, unreadable, motifs_append, implies_true]
      have readableSplit : image.readable (reading :: readings) =
          image.readable [reading] ++ image.readable readings :=
        List.filter_append [reading] readings
      have unreadableSplit : image.unreadable (reading :: readings) =
          image.unreadable [reading] ++ image.unreadable readings := by
        rw [← List.singleton_append, unreadable, List.filterMap_append]
        rfl
      rw [List.foldl_cons, evaluateNext_eq, ih, append_append, readableLater, unreadableLater,
        readableSplit, unreadableSplit, List.map_append, List.append_assoc, List.append_assoc]

/-- Every reading either fails or does not. -/
theorem perm_readable_append_unreadable (image : Image) (readings : List Reading) :
    ((image.readable readings).map (·.filename) ++ (image.unreadable readings).map (·.1)).Perm
      (readings.map (·.filename)) := by
  have failing : (image.unreadable readings).map (·.1) =
      (readings.filter fun reading => !(reading.failure? image.motifs).isNone).map
        (·.filename) := by
    rw [unreadable, List.map_filterMap, ← List.filterMap_eq_map', List.filterMap_filter]
    congr 1
    funext reading
    cases reading.failure? image.motifs <;> rfl
  rw [failing, readable, ← List.map_append]
  exact (List.filter_append_perm _ readings).map _

/-- What evaluating every motif of an image in one reading after another leads to. -/
structure IsEvaluated (image : Image) (readings : List Reading) (report : EvaluationReport)
    (next : Image) : Prop where
  motifs : next.motifs = image.motifs
  /-- Every row goes on with what its motif selects where no motif fails. -/
  rows : next.rows = image.rows.map fun row =>
    { row with
      points := row.points ++ (image.readable readings).flatMap (·.selectedPoints row.motif) }
  evaluated : report.evaluated = (image.readable readings).map (·.filename)
  failed : report.failed = image.unreadable readings
  /-- A document is reported as often as it is there. -/
  once : (report.evaluated ++ report.failed.map (·.1)).Perm (readings.map (·.filename))

theorem isEvaluated_evaluateAll (image : Image) (readings : List Reading) :
    IsEvaluated image readings (image.evaluateAll readings).1 (image.evaluateAll readings).2 := by
  rw [evaluateAll, foldl_evaluateNext]
  constructor
  case motifs => exact motifs_append image _
  case rows => rfl
  case evaluated => rfl
  case failed => rfl
  case once => exact perm_readable_append_unreadable image readings

/-- A motif that fails behind one that does not leaves no points in either row. -/
example :
    let image : Image := ⟨[⟨.ofVertex 0, [⟨"a", 7⟩]⟩, ⟨.ofVertex 1, []⟩]⟩
    let broken : Reading := ⟨"b", .ok fun motif =>
      if motif = .ofVertex 1 then .error (.files "disk read failed") else .ok [0]⟩
    let sound : Reading := ⟨"c", .ok fun _ => .ok [3, 5]⟩
    image.evaluateAll [broken, sound] =
      (⟨["c"], [("b", .files "disk read failed")]⟩,
        ⟨[⟨.ofVertex 0, [⟨"a", 7⟩, ⟨"c", 3⟩, ⟨"c", 5⟩]⟩,
          ⟨.ofVertex 1, [⟨"c", 3⟩, ⟨"c", 5⟩]⟩]⟩) := by
  rfl

theorem length_domain_of_evaluateIn {count : Nat}
    (evaluated : image.evaluateIn reading = .ok (count, next)) :
    next.domain.length = image.domain.length + count := by
  rw [evaluateIn_eq] at evaluated
  split at evaluated
  next => cases evaluated
  next =>
    cases evaluated
    exact length_domain_append image reading

end Runs

end Image

section Stores

variable {document : Document} {session : Session}

/-- On a store that is open, no motif fails. -/
theorem Reading.failure?_ofOpened (opened : OpenedDocument) (motifs : List Motif) :
    (ofOpened opened).failure? motifs = error? opened.store := by
  rcases opened with ⟨document, error | session⟩
  · rfl
  · change motifs.findSome? (fun motif => error? (motif.evaluate session)) = none
    rw [List.findSome?_eq_none_iff]
    intro motif _
    rw [motif.evaluate_eq_ok]
    rfl

/-- The reading of a document whose store is looked for in a workspace. -/
def Workspace.reading (workspace : Workspace) (document : Document) : Reading :=
  .ofOpened ⟨document, workspace.sessionAt document.filename⟩

theorem Workspace.selectedPoints_reading {workspace : Workspace}
    (opens : workspace.sessionAt document.filename = .ok session) (motif : Motif) :
    ∃ selected, motif.evaluate session = .ok selected ∧ selected.Pairwise (· < ·) ∧
      (workspace.reading document).selectedPoints motif =
        selected.map (Point.mk document.filename) := by
  rcases motif.exists_evaluate_eq_ok session with ⟨selected, evaluated, ascending⟩
  refine ⟨selected, evaluated, ascending, ?_⟩
  simp only [reading, opens, Reading.ofOpened, Reading.selectedPoints, Except.map, evaluated]
  rfl

/-- The stores that are there open as what they are in the workspace, and no store is changed. -/
theorem Image.evaluateDataset_apply (image : Image) (dataset : Dataset) (workspace : Workspace) :
    ∃ after, (image.evaluateDataset dataset :
        StateM Workspace (EvaluationReport × Image)) workspace =
      (image.evaluateAll (dataset.documents.map workspace.reading), after) ∧
      Workspace.OnlyFillsFiles workspace after := by
  rcases Workspace.openAll_apply dataset workspace with ⟨opened, fills⟩
  refine ⟨_, ?_, fills⟩
  have shape : (image.evaluateDataset dataset :
      StateM Workspace (EvaluationReport × Image)) workspace =
        (image.evaluateDocuments
          ((dataset.openAll : StateM Workspace (List OpenedDocument)) workspace).1,
        ((dataset.openAll : StateM Workspace (List OpenedDocument)) workspace).2) := rfl
  rw [shape, opened, evaluateDocuments_eq_evaluateAll, List.map_map]
  rfl

/-- Evaluating a dataset evaluates its documents in order, each on the store that the workspace has
had for it from the beginning. A document fails only if its store does not open, and otherwise adds
to each row, in ascending order, what the motif selects. This is a case of evaluating motifs in
readings where any of them may fail. -/
theorem Image.evaluateDataset_isEvaluated (image : Image) (dataset : Dataset)
    (workspace : Workspace) :
    (∃ report next after,
      (image.evaluateDataset dataset : StateM Workspace (EvaluationReport × Image)) workspace =
        ((report, next), after) ∧
      (report, next) = image.evaluateAll (dataset.documents.map workspace.reading) ∧
      IsEvaluated image (dataset.documents.map workspace.reading) report next ∧
      Workspace.OnlyFillsFiles workspace after) ∧
    (∀ document : Document,
      (workspace.perform (Session.openExisting document.filename)).1 =
        workspace.sessionAt document.filename ∧
      (workspace.reading document).filename = document.filename ∧
      (workspace.reading document).failure? image.motifs =
        Reading.error? (workspace.sessionAt document.filename) ∧
      ∀ session, workspace.sessionAt document.filename = .ok session → ∀ motif : Motif,
        ∃ selected, motif.evaluate session = .ok selected ∧ selected.Pairwise (· < ·) ∧
          (workspace.reading document).selectedPoints motif =
            selected.map (Point.mk document.filename)) ∧
    (∀ (σ : Type) [GraphStore σ] (store : σ) (document : String),
      ∃ count next, image.evaluate store document = .ok (count, next) ∧
        next.domain.length = image.domain.length + count) ∧
    ∀ readings : List Reading,
      IsEvaluated image readings (image.evaluateAll readings).1
        (image.evaluateAll readings).2 := by
  refine ⟨?_, ?_, ?_, image.isEvaluated_evaluateAll⟩
  · rcases image.evaluateDataset_apply dataset workspace with ⟨after, evaluated, fills⟩
    exact ⟨_, _, after, evaluated, rfl, image.isEvaluated_evaluateAll _, fills⟩
  · intro document
    refine ⟨(workspace.perform_openExisting document.filename).1, rfl, ?_, ?_⟩
    · exact Reading.failure?_ofOpened _ image.motifs
    · intro session opens motif
      exact Workspace.selectedPoints_reading opens motif
  · intro σ _ store document
    rcases image.evaluate_eq_ok store document with ⟨count, evaluated⟩
    have inReading := (image.evaluate_eq_evaluateIn store document).symm.trans evaluated
    exact ⟨count, _, evaluated, length_domain_of_evaluateIn inReading⟩

end Stores

end MotifVote
