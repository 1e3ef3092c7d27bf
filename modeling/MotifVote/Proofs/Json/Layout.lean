import MotifVote.Image
import MotifVote.Proofs.Json.Lines
import Mathlib.Data.List.Forall2
import Mathlib.Data.List.TakeWhile
import Mathlib.Logic.Relation

/-!
# Records and the layout of their lines

Reading a text is reading its lines in order. Only the content of a line counts, which is what is
left of it without white space at its ends; a line without content adds nothing and is only counted.

What is seen of two texts with a line feed between them is what is seen of the first and then what
is seen of the second. From this one law it follows that white space may be inserted wherever a line
starts or ends.
-/

namespace MotifVote.JsonLines

open Text (isBlank symbolsOfText trim)

section Lines

/-- A line that was ended by a line feed, without the carriage return that may precede it. -/
def withoutReturn (line : List Char) : List Char :=
  if line.getLast? = some '\r' then line.dropLast else line

/-- The lines whose ends are line feeds. What follows the last of these is a line only if there is
anything. -/
def endedLines : List (List Char) → List (List Char)
  | [] => []
  | [last] => if last.isEmpty then [] else [last]
  | line :: lines => withoutReturn line :: endedLines lines

/-- The lines of a text. They end at a line feed, or at a carriage return with a line feed. -/
def textLines (text : List Char) : List (List Char) := endedLines (text.splitOn '\n')

/-- A line of nothing but white space. -/
def isBlankLine (line : List Char) : Bool := line.all isBlank

/-- No line of a text is too long, white space at its ends not counted. -/
def LinesFit (text : List Char) : Prop :=
  ∀ line ∈ textLines text, (String.ofList (trim line)).utf8ByteSize ≤ lineLimit

instance (text : List Char) : Decidable (LinesFit text) :=
  inferInstanceAs (Decidable
    (∀ line ∈ textLines text, (String.ofList (trim line)).utf8ByteSize ≤ lineLimit))

variable {line text rest : List Char}

theorem endedLines_append (lines : List (List Char)) {others : List (List Char)}
    (nonempty : others ≠ []) :
    endedLines (lines ++ others) = lines.map withoutReturn ++ endedLines others := by
  induction lines with
  | nil => rfl
  | cons line lines ih =>
      have more : lines ++ others ≠ [] := by simp [nonempty]
      rcases shape : lines ++ others with _ | ⟨next, later⟩
      · exact absurd shape more
      · rw [shape] at ih
        rw [List.cons_append, shape, List.map_cons, List.cons_append, ← ih]
        rfl

theorem textLines_append (text rest : List Char) :
    textLines (text ++ '\n' :: rest) =
      (text.splitOn '\n').map withoutReturn ++ textLines rest := by
  rw [textLines, List.splitOn, List.splitOnP_append_cons _ _ (by rfl)]
  exact endedLines_append _ (List.splitOn_ne_nil _ _)

theorem textLines_append_lineFeed (text rest : List Char) :
    textLines (text ++ '\n' :: rest) = textLines (text ++ ['\n']) ++ textLines rest := by
  have nothing : textLines [] = [] := by rfl
  rw [textLines_append text rest, textLines_append text [], nothing, List.append_nil]

theorem splitOn_oneLine (oneLine : '\n' ∉ line) : line.splitOn '\n' = [line] := by
  apply List.splitOnP_eq_singleton
  intro c member
  rw [beq_eq_false_iff_ne]
  rintro rfl
  exact oneLine member

theorem textLines_oneLine (oneLine : '\n' ∉ line) :
    textLines line = if line.isEmpty then [] else [line] := by
  rw [textLines, splitOn_oneLine oneLine]
  rfl

theorem textLines_cons (oneLine : '\n' ∉ line) (rest : List Char) :
    textLines (line ++ '\n' :: rest) = withoutReturn line :: textLines rest := by
  rw [textLines_append, splitOn_oneLine oneLine]
  rfl

/-- A text is one line without an end, or a line with an end and another text. -/
theorem line_induction {motive : List Char → Prop}
    (last : ∀ line, '\n' ∉ line → motive line)
    (ended : ∀ line rest, '\n' ∉ line → motive rest → motive (line ++ '\n' :: rest))
    (text : List Char) : motive text := by
  by_cases broken : '\n' ∈ text
  · rcases List.eq_append_cons_of_mem broken with ⟨line, rest, rfl, oneLine⟩
    exact ended line rest oneLine (line_induction last ended rest)
  · exact last text broken
termination_by text.length
decreasing_by simp_all; omega

end Lines

section Trim

variable {line : List Char} {c : Char}

theorem trim_eq_nil_iff : trim line = [] ↔ isBlankLine line = true := by
  rw [isBlankLine, List.all_eq_true, trim, List.reverse_eq_nil_iff, List.dropWhile_eq_nil_iff]
  simp only [List.mem_reverse]
  constructor
  · intro blank c member
    by_contra visible
    have kept : line.dropWhile isBlank ≠ [] := by
      intro none
      exact visible (List.dropWhile_eq_nil_iff.mp none c member)
    have first := List.head_dropWhile_not isBlank kept
    rw [blank _ (List.head_mem kept)] at first
    cases first
  · intro blank c member
    exact blank c (List.dropWhile_sublist isBlank |>.mem member)

theorem trim_cons (blank : isBlank c = true) (line : List Char) : trim (c :: line) = trim line := by
  simp [trim, blank]

theorem trim_concat (blank : isBlank c = true) (line : List Char) :
    trim (line ++ [c]) = trim line := by
  rw [trim, trim, List.dropWhile_append]
  by_cases allBlank : line.dropWhile isBlank = []
  · simp [allBlank, blank]
  · simp [allBlank, blank]

theorem trim_withoutReturn (line : List Char) : trim (withoutReturn line) = trim line := by
  rw [withoutReturn]
  split
  next ends =>
    rcases List.getLast?_eq_some_iff.mp ends with ⟨rest, rfl⟩
    rw [List.dropLast_concat, trim_concat (by decide)]
  next => rfl

end Trim

section Contents

variable {α : Type} {decode : Json.Decoder α} {number : Nat} {contents others : List (List Char)}

/-- What is read of a text. -/
def readText (decode : Json.Decoder α) (text : List Char) : Except Error (List α) :=
  read decode (symbolsOfText (String.ofList text))

/-- The record that a content is, or why it is none. -/
def readContent (decode : Json.Decoder α) (content : List Char) : Except LineFault α :=
  if (String.ofList content).utf8ByteSize > lineLimit then .error (.tooLong lineLimit)
  else (decode.run (content.map some)).mapError fun fault => .unreadable fault.refusal?

/-- The records of the contents of some lines, the first of which has the number given. -/
def readContents (decode : Json.Decoder α) (number : Nat) :
    List (List Char) → Except Error (List α)
  | [] => .ok []
  | content :: contents =>
    if content.isEmpty then readContents decode (number + 1) contents
    else match readContent decode content with
      | .error fault => .error (.recordLine number fault)
      | .ok record => (record :: ·) <$> readContents decode (number + 1) contents

/-- An error that is about a later line. -/
def laterBy (count : Nat) : Error → Error
  | .recordLine number fault => .recordLine (number + count) fault
  | error => error

theorem readLines_cons_eq (decode : Json.Decoder α) (number : Nat) (line : List Char)
    (rest : List (List Text.Symbol)) :
    readLines decode number (line.map some :: rest) =
      if (trim line).isEmpty then readLines decode (number + 1) rest
      else match readContent decode (trim line) with
        | .error fault => .error (.recordLine number fault)
        | .ok record => (record :: ·) <$> readLines decode (number + 1) rest := by
  simp only [readLines, lineText?_map, readContent]
  split
  next => rfl
  next =>
    split
    next => rfl
    next =>
      rcases decode.run ((trim line).map some) with fault | record
      · rfl
      · rcases readLines decode (number + 1) rest with error | records
        · rfl
        · rfl

theorem linesFrom_oneLine {chars : List Char} (oneLine : '\n' ∉ chars)
    (line : List Text.Symbol) :
    linesFrom line (chars.map some) =
      if (line.reverse ++ chars.map some).isEmpty then []
      else [line.reverse ++ chars.map some] := by
  induction chars generalizing line with
  | nil => simp [linesFrom]
  | cons c chars ih =>
      rw [List.mem_cons, not_or] at oneLine
      have differs : c ≠ '\n' := Ne.symm oneLine.1
      simp [linesFrom, differs, ih oneLine.2]

/-- Carriage returns at the ends of lines are white space, so it makes no difference that they are
left to be trimmed. -/
theorem readLines_lines (decode : Json.Decoder α) (text : List Char) (number : Nat) :
    readLines decode number (lines (text.map some)) =
      readContents decode number ((textLines text).map trim) := by
  induction text using line_induction generalizing number with
  | last line oneLine =>
      rw [lines, linesFrom_oneLine oneLine, textLines_oneLine oneLine]
      rcases line with _ | ⟨c, line⟩
      · rfl
      · exact readLines_cons_eq decode number (c :: line) []
  | ended line rest oneLine ih =>
      rw [List.map_append, List.map_cons, lines, linesFrom_append oneLine, textLines_cons oneLine,
        List.map_cons, trim_withoutReturn]
      simp only [List.reverse_nil, List.nil_append, readLines_cons_eq, readContents]
      rw [← lines, ih]

theorem readText_eq (decode : Json.Decoder α) (text : List Char) :
    readText decode text = readContents decode 1 ((textLines text).map trim) := by
  rw [readText, read, symbolsOfText, String.toList_ofList]
  exact readLines_lines decode text 1

theorem readContents_add (decode : Json.Decoder α) (number count : Nat)
    (contents : List (List Char)) :
    readContents decode (number + count) contents =
      (readContents decode number contents).mapError (laterBy count) := by
  induction contents generalizing number with
  | nil => rfl
  | cons content contents ih =>
      have next := ih (number + 1)
      rw [Nat.add_right_comm] at next
      simp only [readContents, next]
      split
      next => rfl
      next =>
        rcases readContent decode content with refusal | record
        · rfl
        · rcases readContents decode (number + 1) contents with error | records
          · rfl
          · rfl

theorem readContents_append {records : List α}
    (read : readContents decode number contents = .ok records) (others : List (List Char)) :
    readContents decode number (contents ++ others) =
      (records ++ ·) <$> readContents decode (number + contents.length) others := by
  induction contents generalizing number records with
  | nil =>
      cases read
      exact (id_map' _).symm
  | cons content contents ih =>
      rw [List.length_cons, ← Nat.add_assoc, Nat.add_right_comm]
      rw [readContents] at read
      rw [List.cons_append, readContents]
      split at read
      next empty =>
        rw [if_pos empty]
        exact ih read
      next visible =>
        rw [if_neg visible]
        rcases outcome : readContent decode content with refusal | record
        · rw [outcome] at read
          cases read
        · rw [outcome] at read
          rcases rest : readContents decode (number + 1) contents with error | later
          · rw [rest] at read
            cases read
          · rw [rest] at read
            cases read
            dsimp only
            rw [ih rest, Functor.map_map]
            rfl

/-- Lines without content are only counted. -/
theorem toOption_readContents (decode : Json.Decoder α) (number : Nat)
    (contents : List (List Char)) :
    (readContents decode number contents).toOption =
      (contents.filter fun content => !content.isEmpty).mapM
        fun content => (readContent decode content).toOption := by
  induction contents generalizing number with
  | nil => rfl
  | cons content contents ih =>
      rw [readContents]
      by_cases empty : content.isEmpty = true
      · rw [if_pos empty, ih, List.filter_cons_of_neg (by simp [empty])]
      · rw [if_neg empty, List.filter_cons_of_pos (by simp [empty]), List.mapM_cons, ← ih]
        rcases readContent decode content with refusal | record
        · rfl
        · rcases readContents decode (number + 1) contents with error | records
          · rfl
          · rfl

end Contents

section Visible

variable {α : Type} {line text rest before after blanks ending : List Char} {c : Char}

/-- The contents of the lines that have any. -/
def visible (text : List Char) : List (List Char) :=
  ((textLines text).map trim).filter fun content => !content.isEmpty

theorem toOption_readText (decode : Json.Decoder α) (text : List Char) :
    (readText decode text).toOption =
      (visible text).mapM fun content => (readContent decode content).toOption := by
  rw [readText_eq, toOption_readContents, visible]

theorem visible_oneLine (oneLine : '\n' ∉ line) :
    visible line = [trim line].filter fun content => !content.isEmpty := by
  rw [visible, textLines_oneLine oneLine]
  cases line <;> rfl

theorem visible_append_lineFeed (text rest : List Char) :
    visible (text ++ '\n' :: rest) = visible text ++ visible rest := by
  induction text using line_induction with
  | last line oneLine =>
      rw [visible_oneLine oneLine, visible, visible, textLines_cons oneLine, List.map_cons,
        trim_withoutReturn, ← List.filter_append, List.singleton_append]
  | ended line between oneLine ih =>
      rw [visible, visible] at ih ⊢
      rw [List.append_assoc, List.cons_append, textLines_cons oneLine, textLines_cons oneLine,
        List.map_cons, List.map_cons, List.filter_cons, List.filter_cons]
      split
      next => rw [ih, List.cons_append]
      next => exact ih

theorem visible_cons (blank : isBlank c = true) (text : List Char) :
    visible (c :: text) = visible text := by
  by_cases breaks : c = '\n'
  · rw [breaks]
    exact visible_append_lineFeed [] text
  · induction text using line_induction with
    | last line oneLine =>
        have stillOneLine : '\n' ∉ c :: line := by simp [oneLine, Ne.symm breaks]
        rw [visible_oneLine stillOneLine, visible_oneLine oneLine, trim_cons blank]
    | ended line rest oneLine _ =>
        have stillOneLine : '\n' ∉ c :: line := by simp [oneLine, Ne.symm breaks]
        rw [← List.cons_append, visible_append_lineFeed, visible_append_lineFeed,
          visible_oneLine stillOneLine, visible_oneLine oneLine, trim_cons blank]

theorem visible_concat (blank : isBlank c = true) (text : List Char) :
    visible (text ++ [c]) = visible text := by
  have nothing : visible [] = [] := by rfl
  by_cases breaks : c = '\n'
  · rw [breaks, visible_append_lineFeed, nothing, List.append_nil]
  · induction text using line_induction with
    | last line oneLine =>
        have stillOneLine : '\n' ∉ line ++ [c] := by simp [oneLine, Ne.symm breaks]
        rw [visible_oneLine stillOneLine, visible_oneLine oneLine, trim_concat blank]
    | ended line rest oneLine ih =>
        rw [List.append_assoc, List.cons_append, visible_append_lineFeed,
          visible_append_lineFeed, ih]

theorem visible_blank_append (blank : isBlankLine blanks = true) (text : List Char) :
    visible (blanks ++ text) = visible text := by
  induction blanks with
  | nil => rfl
  | cons c blanks ih =>
      rw [isBlankLine, List.all_cons, Bool.and_eq_true] at blank
      rw [List.cons_append, visible_cons blank.1, ih blank.2]

theorem visible_append_blank (blank : isBlankLine blanks = true) (text : List Char) :
    visible (text ++ blanks) = visible text := by
  induction blanks generalizing text with
  | nil => rw [List.append_nil]
  | cons c blanks ih =>
      rw [isBlankLine, List.all_cons, Bool.and_eq_true] at blank
      rw [List.append_cons, ih blank.2, visible_concat blank.1]

/-- A line starts behind a text. -/
def StartsLine (before : List Char) : Prop := before = [] ∨ ∃ text, before = text ++ ['\n']

/-- The end of a line. -/
def IsLineEnd (ending : List Char) : Prop := ending = ['\n'] ∨ ending = ['\r', '\n']

/-- A line ends before a text. -/
def EndsLine (after : List Char) : Prop :=
  after = [] ∨ ∃ ending rest, IsLineEnd ending ∧ after = ending ++ rest

theorem IsLineEnd.isBlankLine (isEnd : IsLineEnd ending) : isBlankLine ending = true := by
  rcases isEnd with rfl | rfl <;> decide

theorem visible_append_lineEnd (isEnd : IsLineEnd ending) (text rest : List Char) :
    visible (text ++ ending ++ rest) = visible text ++ visible rest := by
  rcases isEnd with rfl | rfl
  · rw [List.append_assoc, List.singleton_append, visible_append_lineFeed]
  · rw [List.append_assoc, List.cons_append, List.cons_append, List.nil_append, List.append_cons,
      visible_append_lineFeed, visible_concat (by decide)]

theorem StartsLine.visible_insert (starts : StartsLine before)
    (blank : JsonLines.isBlankLine blanks = true) (after : List Char) :
    visible (before ++ blanks ++ after) = visible (before ++ after) := by
  rcases starts with rfl | ⟨text, rfl⟩
  · exact visible_blank_append blank after
  · rw [List.append_assoc, List.append_assoc, List.append_assoc, List.singleton_append,
      List.singleton_append, visible_append_lineFeed, visible_append_lineFeed,
      visible_blank_append blank]

theorem EndsLine.visible_insert (ends : EndsLine after)
    (blank : JsonLines.isBlankLine blanks = true) (before : List Char) :
    visible (before ++ blanks ++ after) = visible (before ++ after) := by
  rcases ends with rfl | ⟨ending, rest, isEnd, rfl⟩
  · rw [List.append_nil, List.append_nil, visible_append_blank blank]
  · rw [← List.append_assoc, ← List.append_assoc, visible_append_lineEnd isEnd,
      visible_append_lineEnd isEnd, visible_append_blank blank]

end Visible

section Layout

variable {text other ending : List Char}

/-- One change to the layout of the lines of a text. -/
inductive LaidOutAs : List Char → List Char → Prop
  /-- A line of nothing but white space is inserted. -/
  | blankLine {before blanks ending : List Char} (starts : StartsLine before)
      (blank : isBlankLine blanks = true) (isEnd : IsLineEnd ending) (after : List Char) :
      LaidOutAs (before ++ after) (before ++ (blanks ++ ending) ++ after)
  /-- A line ends at a carriage return with a line feed, in place of the line feed alone. -/
  | carriageReturn (before after : List Char) :
      LaidOutAs (before ++ '\n' :: after) (before ++ '\r' :: '\n' :: after)
  /-- White space is inserted at the start of a line. -/
  | front {before blanks : List Char} (starts : StartsLine before)
      (blank : isBlankLine blanks = true) (after : List Char) :
      LaidOutAs (before ++ after) (before ++ blanks ++ after)
  /-- White space is inserted at the end of a line. -/
  | back {after blanks : List Char} (ends : EndsLine after)
      (blank : isBlankLine blanks = true) (before : List Char) :
      LaidOutAs (before ++ after) (before ++ blanks ++ after)
  /-- The end of the last line is left out. -/
  | finalEnd {ending : List Char} (isEnd : IsLineEnd ending) (text : List Char) :
      LaidOutAs (text ++ ending) text

theorem textLines_append_lineEnd (isEnd : IsLineEnd ending) (text rest : List Char) :
    textLines (text ++ ending ++ rest) = textLines (text ++ ending) ++ textLines rest := by
  rcases isEnd with rfl | rfl
  · rw [List.append_assoc, List.singleton_append, textLines_append_lineFeed]
  · rw [List.append_cons text, List.append_assoc, List.singleton_append, textLines_append_lineFeed]

theorem LaidOutAs.visible_eq (change : LaidOutAs text other) : visible other = visible text := by
  cases change with
  | blankLine starts blank isEnd after =>
      refine starts.visible_insert ?_ after
      have allBlank := isEnd.isBlankLine
      simp only [isBlankLine, List.all_append, Bool.and_eq_true] at blank allBlank ⊢
      exact ⟨blank, allBlank⟩
  | carriageReturn before after =>
      rw [List.append_cons before '\r', visible_append_lineFeed, visible_append_lineFeed,
        visible_concat (by decide)]
  | front starts blank after => exact starts.visible_insert blank after
  | back ends blank before => exact ends.visible_insert blank before
  | finalEnd isEnd text => exact (visible_append_blank isEnd.isBlankLine _).symm

theorem visible_eq_of_layout (changes : Relation.ReflTransGen LaidOutAs text other) :
    visible other = visible text := by
  induction changes with
  | refl => rfl
  | tail _ change ih => exact change.visible_eq.trans ih

end Layout

section Reading

variable {α : Type} {decode : Json.Decoder α} {number : Nat} {lines : List (List Char)}
variable {text first second ending : List Char}

/-- The record on a line, or why there is none. -/
def parse (decode : Json.Decoder α) (line : List Char) : Except Json.Fault α :=
  decode.run ((trim line).map some)

/-- A line that adds a record, or nothing because it is blank. -/
def IsFine (decode : Json.Decoder α) (line : List Char) : Prop :=
  isBlankLine line = true ∨ ∃ record, parse decode line = .ok record

/-- The place of the first line that is no record, and what is wrong with it. -/
inductive FirstFault (decode : Json.Decoder α) : List (List Char) → Nat → Json.Fault → Prop
  | here {line : List Char} {fault : Json.Fault} (visible : isBlankLine line = false)
      (failed : parse decode line = .error fault) (lines : List (List Char)) :
      FirstFault decode (line :: lines) 0 fault
  | later {line : List Char} {lines : List (List Char)} {place : Nat} {fault : Json.Fault}
      (fine : IsFine decode line) (first : FirstFault decode lines place fault) :
      FirstFault decode (line :: lines) (place + 1) fault

/-- Lines are read in order: each that is not blank as one record, up to the first that is none.
This one is named by its number, where blank lines count. -/
structure ReadsInOrder (decode : Json.Decoder α) (number : Nat) (lines : List (List Char))
    (result : Except Error (List α)) : Prop where
  ok_iff : ∀ records, result = .ok records ↔
    List.Forall₂ (fun line record => parse decode line = .ok record)
      (lines.filter fun line => !isBlankLine line) records
  error_iff : ∀ error, result = .error error ↔ ∃ place fault,
    FirstFault decode lines place fault ∧
      error = .recordLine (number + place) (.unreadable fault.refusal?)

variable {line : List Char} {record : α} {result : Except Error (List α)} {error : Error}

theorem exists_firstFault_cons_iff (fine : IsFine decode line) :
    (∃ place fault, FirstFault decode (line :: lines) place fault ∧
      error = .recordLine (number + place) (.unreadable fault.refusal?)) ↔
    ∃ place fault, FirstFault decode lines place fault ∧
      error = .recordLine (number + 1 + place) (.unreadable fault.refusal?) := by
  constructor
  · rintro ⟨_, fault, first, rfl⟩
    cases first with
    | here visible failed =>
        rcases fine with blank | ⟨record, parsed⟩
        · rw [blank] at visible
          cases visible
        · rw [parsed] at failed
          cases failed
    | @later _ _ place _ _ first => exact ⟨place, fault, first, by rw [Nat.add_right_comm]; rfl⟩
  · rintro ⟨place, fault, first, rfl⟩
    exact ⟨place + 1, fault, first.later fine, by rw [Nat.add_right_comm]; rfl⟩

theorem readsInOrder_nil (decode : Json.Decoder α) (number : Nat) :
    ReadsInOrder decode number [] (.ok []) where
  ok_iff records := by
    rw [List.filter_nil, List.forall₂_nil_left_iff, Except.ok.injEq, eq_comm]
  error_iff error := by
    refine iff_of_false (by simp) ?_
    rintro ⟨place, fault, ⟨⟩, -⟩

theorem ReadsInOrder.skip (blank : isBlankLine line = true)
    (reads : ReadsInOrder decode (number + 1) lines result) :
    ReadsInOrder decode number (line :: lines) result where
  ok_iff := by
    rw [List.filter_cons_of_neg (by simp [blank])]
    exact reads.ok_iff
  error_iff error := by rw [reads.error_iff, exists_firstFault_cons_iff (Or.inl blank)]

theorem readsInOrder_fail {fault : Json.Fault} (visible : isBlankLine line = false)
    (failed : parse decode line = .error fault) (number : Nat) (lines : List (List Char)) :
    ReadsInOrder decode number (line :: lines)
      (.error (.recordLine number (.unreadable fault.refusal?))) where
  ok_iff records := by
    rw [List.filter_cons_of_pos (by simp [visible]), List.forall₂_cons_left_iff, failed]
    simp
  error_iff error := by
    constructor
    · rintro ⟨⟩
      exact ⟨0, fault, .here visible failed lines, rfl⟩
    · rintro ⟨_, other, first, rfl⟩
      cases first with
      | here _ otherFailed =>
          rw [failed] at otherFailed
          cases otherFailed
          rfl
      | later fine first =>
          rcases fine with blank | ⟨record, parsed⟩
          · rw [visible] at blank
            cases blank
          · rw [failed] at parsed
            cases parsed

theorem ReadsInOrder.keep (visible : isBlankLine line = false)
    (parsed : parse decode line = .ok record)
    (reads : ReadsInOrder decode (number + 1) lines result) :
    ReadsInOrder decode number (line :: lines) ((record :: ·) <$> result) where
  ok_iff records := by
    rw [List.filter_cons_of_pos (by simp [visible]), List.forall₂_cons_left_iff, parsed]
    constructor
    · intro success
      rcases result with error | later
      · cases success
      · cases success
        exact ⟨record, later, rfl, (reads.ok_iff later).mp rfl, rfl⟩
    · rintro ⟨_, later, ⟨⟩, parsedLater, rfl⟩
      rw [(reads.ok_iff later).mpr parsedLater]
      rfl
  error_iff error := by
    have same : (record :: ·) <$> result = .error error ↔ result = .error error := by
      cases result <;> simp [Functor.map, Except.map]
    rw [same, reads.error_iff, exists_firstFault_cons_iff (Or.inr ⟨record, parsed⟩)]

theorem isEmpty_trim (line : List Char) : (trim line).isEmpty = isBlankLine line := by
  rw [Bool.eq_iff_iff, List.isEmpty_iff, trim_eq_nil_iff]

theorem readContents_readsInOrder
    (fit : ∀ line ∈ lines, (String.ofList (trim line)).utf8ByteSize ≤ lineLimit) :
    ReadsInOrder decode number lines (readContents decode number (lines.map trim)) := by
  induction lines generalizing number with
  | nil => exact readsInOrder_nil decode number
  | cons line lines ih =>
      rcases List.forall_mem_cons.mp fit with ⟨fits, fitRest⟩
      rw [List.map_cons, readContents, isEmpty_trim, readContent, if_neg (not_lt.mpr fits)]
      split
      next blank => exact (ih fitRest).skip blank
      next notBlank =>
        have visible := eq_false_of_ne_true notBlank
        rcases outcome : decode.run ((trim line).map some) with fault | record
        · exact readsInOrder_fail visible outcome number lines
        · exact (ih fitRest).keep visible outcome

/-- Reading a text whose lines are not too long is reading its lines in order. The records that are
read do not change with the layout of the lines. Two texts with the end of a line between them are
read like the first and then the second, with what is wrong in the second named by its place in the
whole. -/
theorem readText_isByLine (decode : Json.Decoder α) :
    (∀ text, LinesFit text →
      ReadsInOrder decode 1 (textLines text) (readText decode text)) ∧
    (∀ text other, Relation.ReflTransGen LaidOutAs text other →
      (readText decode other).toOption = (readText decode text).toOption) ∧
    ∀ first ending second records, IsLineEnd ending → readText decode first = .ok records →
      readText decode (first ++ ending ++ second) =
        ((records ++ ·) <$> readText decode second).mapError
          (laterBy (textLines (first ++ ending)).length) := by
  refine ⟨?_, ?_, ?_⟩
  · intro text fit
    rw [readText_eq]
    exact readContents_readsInOrder fit
  · intro text other changes
    rw [toOption_readText, toOption_readText, visible_eq_of_layout changes]
  · intro first ending second records isEnd success
    have withEnd : readText decode (first ++ ending) = .ok records := by
      have same : (readText decode (first ++ ending)).toOption = some records := by
        rw [toOption_readText, visible_append_blank isEnd.isBlankLine, ← toOption_readText,
          success]
        rfl
      rcases result : readText decode (first ++ ending) with error | others
      · rw [result] at same
        cases same
      · rw [result] at same
        cases same
        rfl
    rw [readText_eq] at withEnd
    rw [readText_eq, textLines_append_lineEnd isEnd, List.map_append, readContents_append withEnd,
      readContents_add, List.length_map, readText_eq]
    cases readContents decode 1 ((textLines second).map trim) <;> rfl

/-- A point on the first line and a number on the third. The number is no point, and is named by its
line. The point is read alike when its line ends at a carriage return with a line feed and when its
line has no end. -/
theorem readText_isByLine_point :
    readText Point.decoder "\x7b\"file\":\"a\",\"identifier\":1\x7d\n\n 7".toList =
        .error (.recordLine 3 (.unreadable none)) ∧
      (readText Point.decoder "\x7b\"file\":\"a\",\"identifier\":1\x7d".toList).toOption =
        some [⟨"a", 1⟩] ∧
      readText Point.decoder
          ("\x7b\"file\":\"a\",\"identifier\":1\x7d".toList ++ ['\r', '\n'] ++ "\n 7".toList) =
        .error (.recordLine 3 (.unreadable none)) := by
  rcases readText_isByLine Point.decoder with ⟨inOrder, byLayout, inParts⟩
  refine ⟨?_, ?_, ?_⟩
  · refine ((inOrder _ (by decide +kernel)).error_iff _).mpr ⟨2, .malformed, ?_, rfl⟩
    exact .later (.inr ⟨⟨"a", 1⟩, by decide +kernel⟩)
      (.later (.inl (by decide +kernel)) (.here (by decide +kernel) (by decide +kernel) []))
  · have change : LaidOutAs ("\x7b\"file\":\"a\",\"identifier\":1\x7d".toList ++ ['\r', '\n'])
        "\x7b\"file\":\"a\",\"identifier\":1\x7d".toList := .finalEnd (.inr rfl) _
    rw [byLayout _ _ (.single change)]
    decide +kernel
  · rw [inParts _ _ _ [⟨"a", 1⟩] (.inr rfl) (by decide +kernel)]
    decide +kernel

end Reading

end MotifVote.JsonLines
