import MotifVote.Toml.Quotation
import MotifVote.Toml.Word

/-!
# TOML documents

A document is read line by line: a line assigns a value to a key, opens a table by a header, or
holds nothing but a comment. Arrays and tables in braces may span lines and end in a comma. A
document with any fault has no value.
-/

namespace MotifVote.Toml

/-- The source behind the blanks at its start. -/
def skipBlanks (source : List Char) : List Char := source.dropWhile fun c => c == ' ' || c == '\t'

/-- The source behind blanks, line breaks and comments. -/
def skipFiller (inComment : Bool) : List Char → List Char
  | [] => []
  | '\r' :: '\n' :: rest => skipFiller false rest
  | c :: rest =>
    if c = '\n' then skipFiller false rest
    else if inComment then (if isPrintable c then skipFiller true rest else c :: rest)
    else if c = ' ' || c = '\t' then skipFiller false rest
    else if c = '#' then skipFiller true rest
    else c :: rest

/-- The source behind the rest of a line that holds at most a comment. -/
def endOfLine? (source : List Char) : Option (List Char) :=
  let rest :=
    match skipBlanks source with
    | '#' :: rest => rest.dropWhile isPrintable
    | rest => rest
  match rest with
  | [] => some []
  | '\n' :: rest => some rest
  | '\r' :: '\n' :: rest => some rest
  | _ => none

/-- Whether a character may stand in a key without quotes. -/
def isKeyChar (c : Char) : Bool := c.isAlphanum || c == '-' || c == '_'

/-- One part of a key. -/
def keyPart? (source : List Char) : Option (String × List Char) :=
  match quotedLine? source with
  | some taken => some taken
  | none =>
    let part := source.takeWhile isKeyChar
    if part.isEmpty then none else some (String.ofList part, source.dropWhile isKeyChar)

/-- The parts of a key, with blanks skipped around its dots and behind it. The number of parts is
at most the `fuel`. -/
def key? : Nat → List Char → Option ((List String × String) × List Char)
  | 0, _ => none
  | fuel + 1, source =>
    match keyPart? (skipBlanks source) with
    | none => none
    | some (part, rest) =>
      match skipBlanks rest with
      | '.' :: rest => (key? fuel rest).map fun ((path, name), rest) => ((part :: path, name), rest)
      | rest => some (([], part), rest)

/-- Whether a character may stand in a word. -/
def isWordChar (c : Char) : Bool :=
  c.isAlphanum || c == '-' || c == '_' || c == '+' || c == '.' || c == ':'

/-- The word at the start of a source. A blank may stand between a date and a time. -/
def word (source : List Char) : List Char × List Char :=
  let first := source.takeWhile isWordChar
  let rest := source.dropWhile isWordChar
  match afterDate? first, rest with
  | some [], ' ' :: digit :: rest =>
    if digit.isDigit then
      (first ++ ' ' :: digit :: rest.takeWhile isWordChar, rest.dropWhile isWordChar)
    else (first, ' ' :: digit :: rest)
  | _, _ => (first, rest)

/-- Arrays and tables in braces nest at most this deep. -/
def depthLimit : Nat := 80

mutual

/-- The value at the start of a source, which lies inside `depth` others. Each call of the three
functions needs one unit of `fuel`. -/
def value? (depth : Nat) : Nat → List Char → Option (Toml × List Char)
  | 0, _ => none
  | fuel + 1, source =>
    match source with
    | '[' :: rest =>
      if depth < depthLimit then
        (items? (depth + 1) fuel (skipFiller false rest)).map fun (items, rest) =>
          (.array items, rest)
      else none
    | '\x7b' :: rest =>
      if depth < depthLimit then
        (fields? (depth + 1) fuel [] (skipFiller false rest)).map fun (fields, rest) =>
          (.table .braces fields, rest)
      else none
    | '"' :: _ => (quoted? source).map fun (text, rest) => (.string text, rest)
    | '\'' :: _ => (quoted? source).map fun (text, rest) => (.string text, rest)
    | source => (word? (word source).1).map fun value => (value, (word source).2)

/-- The items of an array from the next one on. -/
def items? (depth : Nat) : Nat → List Char → Option (List Toml × List Char)
  | 0, _ => none
  | fuel + 1, source =>
    match source with
    | ']' :: rest => some ([], rest)
    | source => do
      let (item, rest) ← value? depth fuel source
      match skipFiller false rest with
      | ',' :: rest =>
        let (items, rest) ← items? depth fuel (skipFiller false rest)
        return (item :: items, rest)
      | ']' :: rest => return ([item], rest)
      | _ => none

/-- The fields of a table in braces, which has some `fields` already, from the next one on. -/
def fields? (depth : Nat) : Nat → Fields → List Char → Option (Fields × List Char)
  | 0, _, _ => none
  | fuel + 1, fields, source =>
    match source with
    | '\x7d' :: rest => some (fields, rest)
    | source => do
      let ((path, name), rest) ← key? source.length source
      match rest with
      | '=' :: rest =>
        let (value, rest) ← value? depth fuel (skipBlanks rest)
        let fields ← assign path name value .braces fields
        match skipFiller false rest with
        | ',' :: rest => fields? depth fuel fields (skipFiller false rest)
        | '\x7d' :: rest => return (fields, rest)
        | _ => none
      | _ => none

end

/-- A document as far as it has been read. -/
structure Progress where
  fields : Fields
  /-- The path of the table that is open. -/
  current : List String

/-- The document after an assignment in the open table. -/
def Progress.assign (progress : Progress) (path : List String) (name : String) (value : Toml) :
    Option Progress :=
  (changeAt false (Toml.assign path name value) progress.current .header progress.fields).map
    fun fields => { progress with fields }

/-- The document after a header. -/
def Progress.enter (progress : Progress) (path : List String) (name : String)
    (opening : String → TableOrigin → Fields → Option Fields) : Option Progress :=
  (changeAt false (opening name) path .header progress.fields).map
    fun fields => ⟨fields, path ++ [name]⟩

/-- Reads one line that holds more than a comment, up to its end. -/
def line? (progress : Progress) (source : List Char) : Option (Progress × List Char) :=
  match source with
  | '[' :: '[' :: rest => do
    let ((path, name), rest) ← key? rest.length rest
    match rest with
    | ']' :: ']' :: rest => return (← progress.enter path name openMember, rest)
    | _ => none
  | '[' :: rest => do
    let ((path, name), rest) ← key? rest.length rest
    match rest with
    | ']' :: rest => return (← progress.enter path name openTable, rest)
    | _ => none
  | source => do
    let ((path, name), rest) ← key? source.length source
    match rest with
    | '=' :: rest =>
      let (value, rest) ← value? 0 (2 * rest.length + 2) (skipBlanks rest)
      return (← progress.assign path name value, rest)
    | _ => none

/-- Reads a document to its end, with one unit of `fuel` for each line. -/
def linesFrom? : Nat → Progress → List Char → Option Fields
  | 0, _, _ => none
  | fuel + 1, progress, source =>
    match skipFiller false source with
    | [] => some progress.fields
    | source => do
      let (progress, rest) ← line? progress source
      linesFrom? fuel progress (← endOfLine? rest)

/-- The fields of a document. A byte order mark at its start does not count. -/
def document? (text : String) : Option Fields :=
  let source :=
    match text.toList with
    | '\uFEFF' :: rest => rest
    | source => source
  linesFrom? (source.length + 1) ⟨[], []⟩ source

end MotifVote.Toml
