import MotifVote.JsonLines
import MotifVote.Proofs.Json.Decoding

/-!
# Written records are read

Records that are written on lines of their own are read back as the same records, unless one of
their lines is longer than lines may be; then nothing is read, and the first of these lines is named
as one that is too long.

A line feed within a text is escaped, so each record stays on its line, and a record begins and ends
with a brace, so no white space at its ends is lost.
-/

namespace MotifVote

namespace Json

theorem lineFeed_not_mem_escaped (c : Char) : '\n' ∉ escaped c := by
  have digits : ∀ digit : Fin 16, hexDigit digit ≠ '\n' := by decide
  unfold escaped
  split_ifs with quote backslash backspace tab lineFeed formFeed carriageReturn control
  rotate_left 7
  · have high := digits ⟨c.toNat / 16, by omega⟩
    have low := digits ⟨c.toNat % 16, by omega⟩
    simp [high.symm, low.symm]
  · simpa using Ne.symm lineFeed
  all_goals decide

theorem lineFeed_not_mem_writtenString (text : String) : '\n' ∉ writtenString text := by
  simp [writtenString, lineFeed_not_mem_escaped]

theorem lineFeed_not_mem_compactItems {list : List Json}
    (none : ∀ item ∈ list, '\n' ∉ item.compact) : '\n' ∉ compactItems list := by
  induction list with
  | nil => simp [compactItems]
  | cons item list ih =>
      rcases List.forall_mem_cons.mp none with ⟨first, others⟩
      rcases list with _ | ⟨next, list⟩
      · exact first
      · simp [compactItems_cons, first, ih others]

theorem lineFeed_not_mem_compactFields {list : List (String × Json)}
    (none : ∀ field ∈ list, '\n' ∉ field.2.compact) : '\n' ∉ compactFields list := by
  induction list with
  | nil => simp [compactFields]
  | cons field list ih =>
      rcases field with ⟨name, field⟩
      rcases List.forall_mem_cons.mp none with ⟨first, others⟩
      rcases list with _ | ⟨next, list⟩
      · simp [compactFields_singleton, lineFeed_not_mem_writtenString, first]
      · simp [compactFields_cons, lineFeed_not_mem_writtenString, first, ih others]

theorem IsPlain.lineFeed_not_mem_compact {json : Json} (plain : json.IsPlain) :
    '\n' ∉ json.compact := by
  induction plain with
  | null => decide
  | bool value => cases value <;> decide
  | @natural n small =>
      rw [compact, written_natural]
      intro member
      have isDigit := Nat.isDigit_of_mem_toDigits (by decide) (by decide) member
      simp at isDigit
  | string value => exact lineFeed_not_mem_writtenString value
  | array plain ih => simp [compact, lineFeed_not_mem_compactItems ih]
  | object plain ih => simp [compact, lineFeed_not_mem_compactFields ih]

end Json

namespace JsonLines

open Text (Symbol symbolsOfText)

variable {α : Type} {decode : Json.Decoder α} {toJson : α → Json} {height : Nat}

/-- Every record stands on a line that is not too long. -/
def FitLines (toJson : α → Json) (records : List α) : Prop :=
  ∀ record ∈ records, (toJson record).text.utf8ByteSize ≤ lineLimit

instance (toJson : α → Json) (records : List α) : Decidable (FitLines toJson records) :=
  inferInstanceAs (Decidable (∀ record ∈ records, (toJson record).text.utf8ByteSize ≤ lineLimit))

/-- The place of the first record that stands on a line that is too long. -/
def firstLong? (toJson : α → Json) (records : List α) : Option Nat :=
  records.findIdx? fun record => decide (lineLimit < (toJson record).text.utf8ByteSize)

theorem firstLong?_eq_none_iff {records : List α} :
    firstLong? toJson records = none ↔ FitLines toJson records := by
  simp [firstLong?, FitLines]

/-- What should be read of written records: the records, unless a line is too long. -/
def readBack (toJson : α → Json) (records : List α) : Except Error (List α) :=
  match firstLong? toJson records with
  | none => .ok records
  | some place => .error (.recordLine (place + 1) (.tooLong lineLimit))

theorem linesFrom_append {chars : List Char} (oneLine : '\n' ∉ chars) (line rest : List Symbol) :
    linesFrom line (chars.map some ++ some '\n' :: rest) =
      (line.reverse ++ chars.map some) :: linesFrom [] rest := by
  induction chars generalizing line with
  | nil => simp [linesFrom]
  | cons c chars ih =>
      rw [List.mem_cons, not_or] at oneLine
      have differs : c ≠ '\n' := Ne.symm oneLine.1
      simp [linesFrom, differs, ih oneLine.2]

theorem lineText?_map (chars : List Char) : lineText? (chars.map some) = some chars := by
  induction chars with
  | nil => rfl
  | cons c chars ih =>
      rw [lineText?] at ih
      simp [lineText?, ih]

theorem trim_eq_self {first last : Char} (middle : List Char)
    (firstVisible : Text.isBlank first = false) (lastVisible : Text.isBlank last = false) :
    Text.trim (first :: (middle ++ [last])) = first :: (middle ++ [last]) := by
  simp [Text.trim, firstVisible, lastVisible]

theorem trim_compact (fields : List (String × Json)) :
    Text.trim (Json.object fields).compact = (Json.object fields).compact :=
  trim_eq_self (Json.compactFields fields) (by decide) (by decide)

/-- The lines of written records are the compact forms of the records. -/
theorem lines_write (oneLine : ∀ record, '\n' ∉ (toJson record).compact) (records : List α) :
    lines (symbolsOfText (write toJson records)) =
      records.map fun record => (toJson record).compact.map some := by
  have shape : ∀ records : List α, symbolsOfText (write toJson records) =
      (records.flatMap fun record => (toJson record).compact ++ ['\n']).map some := by
    intro records
    simp [symbolsOfText, write]
  rw [shape]
  induction records with
  | nil => rfl
  | cons record records ih =>
      rw [List.flatMap_cons, List.map_append, List.map_append, List.append_assoc,
        List.map_singleton, List.singleton_append, lines, linesFrom_append (oneLine record)]
      exact congrArg _ ih

section Records

variable (inverts : decode.Inverts height toJson) (shallow : height ≤ Json.depthLimit)
variable (objects : ∀ record, ∃ fields, toJson record = .object fields)
include inverts shallow objects

/-- A line of a record is read as the record if it is not too long, and else refused. -/
theorem readLines_cons (number : Nat) (record : α) (rest : List (List Symbol)) :
    readLines decode number ((toJson record).compact.map some :: rest) =
      if (toJson record).text.utf8ByteSize > lineLimit then
        .error (.recordLine number (.tooLong lineLimit))
      else do return record :: (← readLines decode (number + 1) rest) := by
  have found := inverts.run_compact shallow record
  rcases objects record with ⟨fields, shape⟩
  rw [shape] at found ⊢
  have nonempty : (Json.object fields).compact.isEmpty = false := rfl
  simp only [readLines, lineText?_map, trim_compact, nonempty, found]
  rfl

/-- Lines of records are read up to the first that is too long. -/
theorem readLines_map (records : List α) (number : Nat) :
    readLines decode number (records.map fun record => (toJson record).compact.map some) =
      match firstLong? toJson records with
      | none => .ok records
      | some place => .error (.recordLine (number + place) (.tooLong lineLimit)) := by
  induction records generalizing number with
  | nil => rfl
  | cons record records ih =>
      rw [List.map_cons, readLines_cons inverts shallow objects, firstLong?, List.findIdx?_cons,
        ← firstLong?]
      by_cases long : (toJson record).text.utf8ByteSize > lineLimit
      · rw [if_pos long, if_pos (decide_eq_true long)]
        rfl
      · rw [if_neg long, if_neg (by simpa using long), ih (number + 1)]
        rcases firstLong? toJson records with _ | place
        · rfl
        · have following : number + 1 + place = number + (place + 1) := by omega
          simp only [Option.map_some, following]
          rfl

theorem read_write_eq (records : List α) :
    read decode (symbolsOfText (write toJson records)) = readBack toJson records := by
  have oneLine := fun record => (inverts.plain record).lineFeed_not_mem_compact
  rw [read, lines_write oneLine, readLines_map inverts shallow objects, readBack]
  simp only [Nat.add_comm 1]

/-- Records are read back from what is written for them, unless a line is too long. -/
theorem read_write (records : List α) :
    (FitLines toJson records →
      read decode (symbolsOfText (write toJson records)) = .ok records) ∧
    (¬FitLines toJson records → ∃ line,
      read decode (symbolsOfText (write toJson records)) =
        .error (.recordLine line (.tooLong lineLimit))) := by
  rw [read_write_eq inverts shallow objects, readBack, ← firstLong?_eq_none_iff]
  rcases firstLong? toJson records with _ | place
  · simp
  · simp

/-- What is read of written records is these records. -/
theorem eq_of_read_write_eq_ok {records found : List α}
    (success : read decode (symbolsOfText (write toJson records)) = .ok found) :
    found = records := by
  rcases read_write inverts shallow objects records with ⟨fits, fails⟩
  by_cases fit : FitLines toJson records
  · rw [fits fit] at success
    exact (Except.ok.inj success).symm
  · rcases fails fit with ⟨line, failed⟩
    rw [failed] at success
    cases success

end Records

end JsonLines

end MotifVote
