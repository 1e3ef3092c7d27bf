import MotifVote.Learning

/-!
# Tables of results

The tables that commands write are records of fields, one record a line, with commas between the
fields. A field that holds a comma, a quote or a line break stands in quotes, and its own quotes are
doubled.
-/

namespace MotifVote

namespace Csv

/-- Whether a field with a character in it must be quoted. -/
def needsQuotes (c : Char) : Bool := c == ',' || c == '"' || c == '\n' || c == '\r'

/-- A character between quotes. -/
def quotedChar (c : Char) : List Char := if c = '"' then ['"', '"'] else [c]

/-- A field as it is written. -/
def field (text : String) : List Char :=
  if text.toList.any needsQuotes then ['"'] ++ text.toList.flatMap quotedChar ++ ['"']
  else text.toList

/-- A record as a line. -/
def record (fields : List String) : List Char :=
  (fields.map field).intersperse [','] |>.flatten |>.append ['\n']

/-- Records as a text. -/
def text (records : List (List String)) : String := String.ofList (records.flatMap record)

end Csv

/-- The columns of a table of results. -/
def ResultRow.header : List String :=
  ["ensemble", "precision", "recall", "f-beta", "al-step", "threshold"]

/-- The fields of a result. -/
def ResultRow.fields (row : ResultRow Float) : List String :=
  [row.strategy.name,
   Decimal.Layout.csv.write row.score.precision,
   Decimal.Layout.csv.write row.score.sensitivity,
   Decimal.Layout.csv.write row.score.fBeta,
   s!"{row.step}",
   Decimal.Layout.csv.write row.threshold]

/-- The columns of a curve. -/
def CurvePoint.header : List String :=
  ["ranking", "file", "identifier", "precision", "recall", "gt"]

/-- The fields of a point of a curve. -/
def CurvePoint.fields (point : CurvePoint Float) : List String :=
  [Decimal.Layout.csv.write point.ranking,
   point.point.document,
   s!"{point.point.identifier}",
   Decimal.Layout.csv.write point.precision,
   Decimal.Layout.csv.write point.sensitivity,
   if point.isTrue then "true" else "false"]

end MotifVote
