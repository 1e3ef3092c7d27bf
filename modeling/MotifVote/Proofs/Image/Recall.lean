import MotifVote.Proofs.Ensemble.Disjunction
import MotifVote.Proofs.Ensemble.Training
import MotifVote.Proofs.Image.Record
import MotifVote.Proofs.Neighborhood.Record
import MotifVote.Proofs.Scalar.Difference
import MotifVote.Proofs.Text.Bytes

/-!
# Extracted neighbourhoods find the positives

The neighbourhoods of the positives of a store are written to a file, read from it, registered in an
image and evaluated on the same store. The disjunction of this image then finds every positive
again, also after the image has been written and read itself.

Each step keeps what the next one needs: every positive has a motif that selects it, reading gives
back the motifs that were written, evaluating looks each of them up under its own row, and a
disjunction is certain of what any motif selects. A file is read unless one of its lines is too
long; if it is read, nothing of it is lost.
-/

namespace MotifVote

open Text (symbolsOfBytes)

variable {σ α : Type} [GraphStore σ] {store : σ}

/-- The points of the vertices of a document that are judged to be positives. -/
def GraphStore.positivePoints (store : σ) (document : String) : PointSet :=
  .ofList ((positives store).map (Point.mk document))

namespace Image

theorem rows_registerAll (image : Image) (motifs : List Motif) :
    (image.registerAll motifs).rows = image.rows ++ motifs.map fun motif => ⟨motif, []⟩ := by
  induction motifs generalizing image with
  | nil => simp [registerAll]
  | cons motif motifs ih =>
      have next : image.registerAll (motif :: motifs) = (image.register motif).registerAll motifs :=
        rfl
      rw [next, ih, register, List.append_assoc, List.map_cons, List.singleton_append]

/-- The image of some motifs that select given vertices of a document. -/
def ofSelections (motifs : List Motif) (document : String) (select : Motif → List VertexId) :
    Image :=
  ⟨motifs.map fun motif => ⟨motif, (select motif).map (Point.mk document)⟩⟩

section Selections

variable {motifs : List Motif} {document : String} {select : Motif → List VertexId}

theorem evaluate_registerAll_empty
    (evaluated : ∀ motif ∈ motifs, motif.evaluate store = .ok (select motif)) :
    ∃ count, (empty.registerAll motifs).evaluate store document =
      .ok (count, ofSelections motifs document select) := by
  have rows : (empty.registerAll motifs).rows = motifs.map fun motif => ⟨motif, []⟩ :=
    rows_registerAll empty motifs
  have selections : (motifs.map fun motif => ImageRow.mk motif []).mapM
      (fun row => row.motif.evaluate store) = .ok (motifs.map select) := by
    rw [List.mapM_map]
    exact mapM_eq_ok_map evaluated
  have extended : List.zipWith (extendRow document) (motifs.map fun motif => ⟨motif, []⟩)
      (motifs.map select) = (ofSelections motifs document select).rows := by
    rw [List.zipWith_map, List.zipWith_self]
    rfl
  simp only [evaluate, rows, selections, extended, bind, Except.bind, pure, Except.pure]
  exact ⟨_, rfl⟩

theorem selects_ofSelections {motif : Motif} (registered : motif ∈ motifs) {vertex : VertexId}
    (selected : vertex ∈ select motif) :
    (ofSelections motifs document select).Selects motif ⟨document, vertex⟩ := by
  refine ⟨(select motif).map (Point.mk document), ?_, List.mem_map_of_mem selected⟩
  -- Motifs may be repeated; the row that is found belongs to an equal one, which selects the same.
  rcases found : motifs.find? (fun other => other = motif) with _ | other
  · have missed := List.find?_eq_none.mp found motif registered
    simp at missed
  · have same : other = motif := by simpa using List.find?_some found
    simp only [ofSelections, motifDomain?, List.find?_map, Function.comp_def, found, same,
      Option.map_some]

theorem document_of_mem_ofSelections {point : Point}
    (member : point ∈ (ofSelections motifs document select).domain) :
    point.document = document := by
  rcases List.mem_flatMap.mp member with ⟨row, registered, inRow⟩
  rcases List.mem_map.mp registered with ⟨motif, -, rfl⟩
  rcases List.mem_map.mp inRow with ⟨vertex, -, rfl⟩
  rfl

end Selections

/-- The disjunction of an image classifies some points as positives, so that their recall is one if
there are any. -/
structure Finds [Exponential α] (image : Image) (config : Config α) (truth : PointSet) : Prop where
  classifies : ∀ point ∈ truth,
    (Ensemble.ofImage .disjunction image config).classifies point = true
  sensitivity : truth.isEmpty = false → ∀ beta : α,
    (Score.ofSets ((Ensemble.ofImage .disjunction image config).classifiedSet none) truth
      beta).sensitivity = 1

/-- A disjunction finds points that motifs select. -/
theorem finds_of_selects [Exponential α] [Scalar.IsCounting α] {image : Image} {config : Config α}
    (accepted : config.check = .ok ()) {truth : PointSet} (bounded : truth.size ≤ UInt64.size)
    (selected : ∀ point ∈ truth, ∃ motif, image.Selects motif point) :
    image.Finds config truth := by
  have classified : ∀ point ∈ truth,
      point ∈ (Ensemble.ofImage .disjunction image config).classified none := by
    intro point true
    rcases selected point true with ⟨motif, selects⟩
    exact Ensemble.mem_classified_disjunction accepted selects
  refine ⟨?_, ?_⟩
  · intro point true
    exact List.contains_iff_mem.mpr (classified point true)
  · intro nonempty beta
    refine Score.sensitivityOf_eq_one ?_ ?_ bounded
    · intro point true
      exact Std.TreeSet.mem_ofList.mpr (List.contains_iff_mem.mpr (classified point true))
    · rw [Nat.pos_iff_ne_zero]
      intro none
      rw [Std.TreeSet.isEmpty_eq_size_eq_zero, none] at nonempty
      cases nonempty

end Image

namespace GraphStore

theorem mem_positivePoints_iff {document : String} {point : Point} :
    point ∈ positivePoints store document ↔
      ∃ vertex ∈ positives store, ⟨document, vertex⟩ = point := by
  simp [positivePoints]

/-- There are no more positives than identifiers. -/
theorem size_positivePoints_le (document : String) :
    (positivePoints store document).size ≤ UInt64.size := by
  let codes := (positivePoints store document).toList.map fun point => point.identifier.toNat
  have distinct : codes.Nodup := by
    refine (nodup_toList (positivePoints store document)).map_on ?_
    intro point member other otherMember same
    rw [Std.TreeSet.mem_toList, mem_positivePoints_iff] at member otherMember
    rcases member with ⟨vertex, -, rfl⟩
    rcases otherMember with ⟨otherVertex, -, rfl⟩
    exact congrArg (Point.mk document) (UInt64.toNat_inj.mp same)
  have below : codes ⊆ List.range UInt64.size := by
    intro code member
    rcases List.mem_map.mp member with ⟨point, -, rfl⟩
    exact List.mem_range.mpr point.identifier.toNat_lt_size
  have atMost := distinct.length_le_of_subset below
  rwa [List.length_range, List.length_map, Std.TreeSet.length_toList] at atMost

end GraphStore

namespace Neighborhood

variable [Exponential α]

/-- The neighbourhoods of the positives of a store, evaluated under a locator after they have been
written and read, find all positives; and so does their image after it has been written and read.
-/
def AreRecalled (store : σ) (distance : α) (weights : EdgeWeights α) (config : Config α)
    (document : String) : Prop :=
  ∃ records, extract store distance weights = .ok records ∧
    (JsonLines.FitLines Motif.toJson records →
      JsonLines.read Motif.decoder
        (symbolsOfBytes (JsonLines.write Motif.toJson records).toUTF8) = .ok records) ∧
    ∀ motifs, JsonLines.read Motif.decoder
        (symbolsOfBytes (JsonLines.write Motif.toJson records).toUTF8) = .ok motifs →
      ∃ count image, (Image.empty.registerAll motifs).evaluate store document =
          .ok (count, image) ∧
        image.Finds config (GraphStore.positivePoints store document) ∧
        (JsonLines.FitLines ImageRow.toJson image.rows →
          Image.ofSource (symbolsOfBytes image.text.toUTF8) = .ok image) ∧
        ∀ loaded, Image.ofSource (symbolsOfBytes image.text.toUTF8) = .ok loaded →
          loaded.Finds config (GraphStore.positivePoints store document)

section Recall

variable [Scalar.IsOrdered α] [Scalar.IsCounting α] {distance : α} {config : Config α}
variable {document : String}

theorem areRecalled_of_isCoherent (coherent : GraphStore.IsCoherent store)
    (known : GraphStore.KnowsIncident store) (valid : IsDistance distance)
    (accepted : config.check = .ok ()) (named : document ≠ "") (weights : EdgeWeights α) :
    AreRecalled store distance weights config document := by
  rcases exists_extract_eq_ok coherent known valid weights with
    ⟨records, extracted, selectors, ownSelected⟩
  choose select evaluated using fun motif : Motif => motif.selectsImages_of_isCoherent coherent
  have reads := JsonLines.read_write Motif.inverts_decoder (by decide) (fun _ => ⟨_, rfl⟩) records
  refine ⟨records, extracted, ?_, ?_⟩
  · rw [Text.symbolsOfBytes_toUTF8]
    exact reads.1
  intro motifs success
  rw [Text.symbolsOfBytes_toUTF8] at success
  -- A line that is too long is refused, but nothing else than what was written is ever read.
  rcases JsonLines.eq_of_read_write_eq_ok Motif.inverts_decoder (by decide) (fun _ => ⟨_, rfl⟩)
    success with rfl
  have found : (Image.ofSelections motifs document select).Finds config
      (GraphStore.positivePoints store document) := by
    refine Image.finds_of_selects accepted (GraphStore.size_positivePoints_le document) ?_
    intro point positive
    rcases GraphStore.mem_positivePoints_iff.mp positive with ⟨vertex, judged, rfl⟩
    rw [← selectors] at judged
    rcases List.mem_map.mp judged with ⟨motif, registered, rfl⟩
    rcases ownSelected motif registered with ⟨selected, same, own⟩
    rw [(evaluated motif).1] at same
    exact ⟨motif, Image.selects_ofSelections registered (Except.ok.inj same ▸ own)⟩
  rcases Image.evaluate_registerAll_empty (fun motif _ => (evaluated motif).1) with ⟨count, ran⟩
  refine ⟨count, Image.ofSelections motifs document select, ran, found, ?_, ?_⟩
  · intro fit
    rw [Text.symbolsOfBytes_toUTF8]
    refine Image.ofSource_text ?_ fit
    intro point member
    rwa [Image.document_of_mem_ofSelections member]
  · intro loaded success
    rw [Text.symbolsOfBytes_toUTF8] at success
    rwa [Image.eq_of_ofSource_text_eq_ok success]

/-- After any events, on either kind of store, with any weights and any accepted configuration, the
neighbourhoods within any distance are recalled under any locator. -/
theorem areRecalled_after (valid : IsDistance distance) (accepted : config.check = .ok ())
    (named : document ≠ "") (weights : EdgeWeights α) (events : List StoreEvent) :
    AreRecalled (DocumentStore.after MemoryGraph.empty events) distance weights config document ∧
      AreRecalled (DocumentStore.after TableGraph.empty events) distance weights config
        document := by
  have sound := MemoryGraph.isSound_after events
  have alike := TableGraph.readAlike_after events
  constructor
  · exact areRecalled_of_isCoherent sound.isCoherent sound.knowsIncident valid accepted named
      weights
  · exact areRecalled_of_isCoherent (sound.isCoherent.congr alike) (sound.knowsIncident.congr alike)
      valid accepted named weights

/-- Two words in a row, of which the first is a positive, over doubles and over the rationals.
Nothing is too long for a line, so all is written and read again, and the positive is found. -/
theorem areRecalled_two_words :
    let events : List StoreEvent := [
      .call (.createVertex [⟨"token:pos", "NOUN"⟩, ⟨"user:label", "positive"⟩]),
      .call (.createVertex [⟨"token:pos", "VERB"⟩]), .call (.createEdge 0 "token:next" 1)]
    let memory := DocumentStore.after MemoryGraph.empty events
    let tables := DocumentStore.after TableGraph.empty events
    IsDistance (2 : Rat) ∧ Config.rational.check = .ok () ∧ "a.json" ≠ "" ∧
      AreRecalled memory (2 : Rat) ⟨∅, 1⟩ .rational "a.json" ∧
      AreRecalled tables (2 : Rat) ⟨∅, 1⟩ .rational "a.json" ∧
      IsDistance (2.0 : Float) ∧ Config.default.check = .ok () ∧
      AreRecalled memory (2.0 : Float) ⟨∅, 1.0⟩ .default "a.json" ∧
      AreRecalled tables (2.0 : Float) ⟨∅, 1.0⟩ .default "a.json" ∧
      (GraphStore.positivePoints memory "a.json").toList = [⟨"a.json", 0⟩] ∧
      ∃ records count image, extract memory (2 : Rat) ⟨∅, 1⟩ = .ok records ∧
        JsonLines.read Motif.decoder
          (symbolsOfBytes (JsonLines.write Motif.toJson records).toUTF8) = .ok records ∧
        (Image.empty.registerAll records).evaluate memory "a.json" = .ok (count, image) ∧
        Image.ofSource (symbolsOfBytes image.text.toUTF8) = .ok image ∧
        image.Finds Config.rational (GraphStore.positivePoints memory "a.json") := by
  intro events memory tables
  have valid : IsDistance (2 : Rat) := ⟨rfl, by decide⟩
  have accepted : Config.rational.check = .ok () := by decide +kernel
  have named : "a.json" ≠ "" := by decide
  have both : AreRecalled memory (2 : Rat) ⟨∅, 1⟩ .rational "a.json" ∧
      AreRecalled tables (2 : Rat) ⟨∅, 1⟩ .rational "a.json" :=
    areRecalled_after valid accepted named ⟨∅, 1⟩ events
  have validDouble : IsDistance (2.0 : Float) := ⟨rfl, by decide +kernel⟩
  have acceptedDouble : Config.default.check = .ok () := by decide +kernel
  have overDoubles : AreRecalled memory (2.0 : Float) ⟨∅, 1.0⟩ .default "a.json" ∧
      AreRecalled tables (2.0 : Float) ⟨∅, 1.0⟩ .default "a.json" :=
    areRecalled_after validDouble acceptedDouble named ⟨∅, 1.0⟩ events
  rcases both with ⟨inMemory, inTables⟩
  refine ⟨valid, accepted, named, inMemory, inTables, validDouble, acceptedDouble, overDoubles.1,
    overDoubles.2, by decide +kernel, ?_⟩
  rcases inMemory with ⟨records, extracted, read, recalled⟩
  have recordsFit : (extract memory (2 : Rat) ⟨∅, 1⟩).toOption.map
      (fun records => decide (JsonLines.FitLines Motif.toJson records)) = some true := by
    decide +kernel
  simp only [extracted, Except.toOption, Option.map_some, Option.some.injEq, decide_eq_true_eq]
    at recordsFit
  rcases recalled records (read recordsFit) with ⟨count, image, evaluated, found, loads, -⟩
  have rowsFit : ((extract memory (2 : Rat) ⟨∅, 1⟩ >>= fun records =>
      (Image.empty.registerAll records).evaluate memory "a.json").toOption.map
        fun evaluated => decide (JsonLines.FitLines ImageRow.toJson evaluated.2.rows)) =
          some true := by
    decide +kernel
  simp only [extracted, evaluated, bind, Except.bind, Except.toOption, Option.map_some,
    Option.some.injEq, decide_eq_true_eq] at rowsFit
  exact ⟨records, count, image, extracted, read recordsFit, evaluated, loads rowsFit, found⟩

end Recall

end Neighborhood

end MotifVote
