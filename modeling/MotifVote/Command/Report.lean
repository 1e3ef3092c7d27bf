import MotifVote.Dataset
import MotifVote.Text.Quoted

/-!
# Reports

What the program says when a command is done, in words or in JSON. Words quote the paths they name.
-/

namespace MotifVote

/-- What has been done. -/
inductive Report where
  | ingested (database : String) (vertices edges vertexCount edgeCount : Nat)
  | status (database : String) (persistent : Bool) (vertices edges positives : Nat)
  | extracted (input output : String) (distance : Float) (neighborhoods : Nat)
  | evaluated (output : String) (motifs : Nat) (report : EvaluationReport)
  | analyzed (output : String) (strategies : List Strategy) (rows : Nat)
  | curve (output : String) (strategy : Strategy) (points : Nat)

namespace Report

open Text (quoted)

/-- The lines of a report in words. -/
def lines : Report → List String
  | .ingested database vertices edges _ _ =>
    [s!"Ingested {vertices} vertices and {edges} edges into " ++ quoted database]
  | .status database _ vertices edges positives =>
    ["Motel Document Status",
     "=====================",
     "Database:  " ++ quoted database,
     "",
     s!"Vertices:  {vertices}",
     s!"Edges:     {edges}",
     s!"Positives: {positives}"]
  | .extracted _ output _ neighborhoods =>
    [s!"Wrote {neighborhoods} neighborhoods to " ++ quoted output]
  | .evaluated output motifs report =>
    let evaluated := report.evaluated.length
    let failed := report.failed.length
    [s!"Evaluated {motifs} motifs over {evaluated} documents ({failed} failed)"] ++
      report.failed.map (fun (document, error) => "  " ++ document ++ ": " ++ error.message) ++
      ["Image written to " ++ quoted output]
  | .analyzed output _ rows => [s!"Wrote {rows} result rows to " ++ quoted output]
  | .curve output _ points => [s!"Wrote {points}-point curve to " ++ quoted output]

/-- A count in JSON. -/
def count (n : Nat) : Json := .number (.integer n)

/-- A report in JSON. -/
def toJson : Report → Json
  | .ingested database vertices edges vertexCount edgeCount =>
    .object [
      ("database", .string database),
      ("vertices_ingested", count vertices),
      ("edges_ingested", count edges),
      ("vertex_count", count vertexCount),
      ("edge_count", count edgeCount)]
  | .status database persistent vertices edges positives =>
    .object [
      ("database", .string database),
      ("persistent", .bool persistent),
      ("vertex_count", count vertices),
      ("edge_count", count edges),
      ("positive_count", count positives)]
  | .extracted input output distance neighborhoods =>
    .object [
      ("input", .string input),
      ("output", .string output),
      ("distance", .number (.real distance)),
      ("neighborhoods", count neighborhoods)]
  | .evaluated output motifs report =>
    .object [
      ("output", .string output),
      ("motifs", count motifs),
      ("evaluated", .array (report.evaluated.map .string)),
      ("failed", .array (report.failed.map fun (document, error) =>
        .object [("document", .string document), ("error", .string error.message)]))]
  | .analyzed output strategies rows =>
    .object [
      ("output", .string output),
      ("ensembles", .array (strategies.map fun strategy => .string strategy.name)),
      ("rows", count rows)]
  | .curve output strategy points =>
    .object [
      ("output", .string output),
      ("ensemble", .string strategy.name),
      ("points", count points)]

/-- A report as it is printed. -/
def text (report : Report) (json : Bool) : String :=
  if json then report.toJson.indentedText ++ "\n"
  else String.join (report.lines.map (· ++ "\n"))

end Report

end MotifVote
