import MotifVote.Json.Decode
import MotifVote.Json.Printer

/-!
# Records in lines

A source of records: one JSON value a line. A line ends at a line feed, or at a carriage return
with a line feed. White space around a line does not count, and lines without anything else are
skipped. Reading stops at the first line that is too long or cannot be read as a record, and says
its number and which of the two it is.
-/

namespace MotifVote.JsonLines

open Text (Symbol)

/-- The lines of a source without their ends, where `line` has been read of the first one, the last
symbol first. What follows the last end is a line only if there is anything. -/
def linesFrom (line : List Symbol) : List Symbol → List (List Symbol)
  | [] => if line.isEmpty then [] else [line.reverse]
  | some '\n' :: rest => line.reverse :: linesFrom [] rest
  | symbol :: rest => linesFrom (symbol :: line) rest

/-- The lines of a source. -/
def lines (source : List Symbol) : List (List Symbol) := linesFrom [] source

/-- Lines have at most this many bytes. -/
def lineLimit : Nat := 64 * 1024 * 1024

/-- The characters of a line, if it is a text. -/
def lineText? (line : List Symbol) : Option (List Char) := line.mapM id

/-- Reads the records of some lines, the first of which has the number given. -/
def readLines {α : Type} (decode : Json.Decoder α) (number : Nat) :
    List (List Symbol) → Except Error (List α)
  | [] => .ok []
  | line :: rest =>
    match lineText? line with
    | none => .error (.files "stream did not contain valid UTF-8")
    | some chars =>
      let trimmed := Text.trim chars
      if trimmed.isEmpty then readLines decode (number + 1) rest
      else if (String.ofList trimmed).utf8ByteSize > lineLimit then
        .error (.recordLine number (.tooLong lineLimit))
      else
        match decode.run (trimmed.map some) with
        | .error fault => .error (.recordLine number (.unreadable fault.refusal?))
        | .ok record => do return record :: (← readLines decode (number + 1) rest)

/-- The records of a source. -/
def read {α : Type} (decode : Json.Decoder α) (source : List Symbol) : Except Error (List α) :=
  readLines decode 1 (lines source)

/-- Records as a text, each on a line of its own. -/
def write {α : Type} (toJson : α → Json) (records : List α) : String :=
  String.ofList (records.flatMap fun record => (toJson record).compact ++ ['\n'])

end MotifVote.JsonLines
