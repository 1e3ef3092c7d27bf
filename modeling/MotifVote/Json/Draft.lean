import MotifVote.Json.Literal
import MotifVote.Text.Symbols

/-!
# JSON as far as it can be read

A text is read into a draft, which holds what the text says up to its first fault: where the text
stops being JSON the draft holds `broken`, and nothing behind that is read. A record is then
decoded from the draft in text order. So a value that a record refuses is found before a fault that
comes later in the text, and what a record ignores need only have the form of JSON.

What makes a value unusable without breaking the form is kept in the draft: a string that is no text
(a lone surrogate, or bytes that are no characters), a number out of range, and how deep a value
lies.
-/

namespace MotifVote.Json

open Text (Symbol hexNumber?)

/-- What a text says up to its first fault. -/
inductive Draft where
  | broken
  | null
  | bool (value : Bool)
  | number (literal : Literal)
  | string (value : Option String)
  | array (depth : Nat) (items : List Draft)
  | object (depth : Nat) (fields : List (Option String × Draft))

/-- The source behind the blanks at its start. -/
def skipBlanks : List Symbol → List Symbol
  | some c :: rest =>
    if c = ' ' || c = '\n' || c = '\t' || c = '\r' then skipBlanks rest else some c :: rest
  | source => source

/-- The decimal digits at the start of a source, and what follows them. -/
def digitsOf : List Symbol → List Char × List Symbol
  | some c :: rest =>
    if c.isDigit then
      let (digits, rest) := digitsOf rest
      (c :: digits, rest)
    else ([], some c :: rest)
  | source => ([], source)

/-- The digits before the point: no zero stands before another digit. -/
def whole? (source : List Symbol) : Option (List Char × List Symbol) :=
  match digitsOf source with
  | ([], _) => none
  | (['0'], rest) => some (['0'], rest)
  | ('0' :: _, _) => none
  | (digits, rest) => some (digits, rest)

/-- An optional point with digits behind it. -/
def fraction? : List Symbol → Option (Option (List Char) × List Symbol)
  | some '.' :: rest =>
    match digitsOf rest with
    | ([], _) => none
    | (digits, rest) => some (some digits, rest)
  | source => some (none, source)

/-- The digits of an exponent under a sign. -/
def exponentDigits? (negative : Bool) (source : List Symbol) :
    Option (Option (Bool × List Char) × List Symbol) :=
  match digitsOf source with
  | ([], _) => none
  | (digits, rest) => some (some (negative, digits), rest)

/-- An optional exponent. -/
def exponent? : List Symbol → Option (Option (Bool × List Char) × List Symbol)
  | some mark :: rest =>
    if mark = 'e' || mark = 'E' then
      match rest with
      | some '-' :: rest => exponentDigits? true rest
      | some '+' :: rest => exponentDigits? false rest
      | rest => exponentDigits? false rest
    else some (none, some mark :: rest)
  | source => some (none, source)

/-- The number literal at the start of a source. -/
def literal? (source : List Symbol) : Option (Literal × List Symbol) := do
  let (negative, rest) :=
    match source with
    | some '-' :: rest => (true, rest)
    | rest => (false, rest)
  let (whole, rest) ← whole? rest
  let (fraction, rest) ← fraction? rest
  let (exponent, rest) ← exponent? rest
  return (⟨negative, whole, fraction, exponent⟩, rest)

/-- The character of a short escape. -/
def shortEscape? (c : Char) : Option Char :=
  match c with
  | '"' => some '"'
  | '\\' => some '\\'
  | '/' => some '/'
  | 'b' => some '\x08'
  | 'f' => some '\x0c'
  | 'n' => some '\n'
  | 'r' => some '\r'
  | 't' => some '\t'
  | _ => none

/-- What has been read of a string: its characters, the last first, a leading surrogate that waits
for its second half, and whether all of it has been text so far. -/
structure Spelling where
  chars : List Char
  pending : Option Nat
  isText : Bool

/-- The spelling with one more character; a surrogate that still waits is no text. -/
def Spelling.push (spelling : Spelling) (c : Char) : Spelling :=
  ⟨c :: spelling.chars, none, spelling.isText && spelling.pending.isNone⟩

/-- The spelling with one more code of an escape. Two surrogates make one character. -/
def Spelling.pushCode (spelling : Spelling) (code : Nat) : Spelling :=
  if 0xD800 ≤ code ∧ code < 0xDC00 then
    ⟨spelling.chars, some code, spelling.isText && spelling.pending.isNone⟩
  else if 0xDC00 ≤ code ∧ code < 0xE000 then
    match spelling.pending with
    | some high =>
      ⟨Char.ofNat (0x10000 + (high - 0xD800) * 0x400 + (code - 0xDC00)) :: spelling.chars, none,
        spelling.isText⟩
    | none => { spelling with isText := false }
  else spelling.push (Char.ofNat code)

/-- The text that a string spells, if all of it is text. -/
def Spelling.text? (spelling : Spelling) : Option String :=
  if spelling.isText && spelling.pending.isNone then some (String.ofList spelling.chars.reverse)
  else none

/-- The rest of a string up to its closing quote, behind what has been read of it. The result is
`none` where the source is no string. -/
def stringRest? (spelling : Spelling) : List Symbol → Option (Option String × List Symbol)
  | [] => none
  | some '\\' :: some 'u' :: some a :: some b :: some c :: some d :: rest =>
    match hexNumber? [a, b, c, d] with
    | some code => stringRest? (spelling.pushCode code) rest
    | none => none
  | some '\\' :: some c :: rest =>
    match shortEscape? c with
    | some char => stringRest? (spelling.push char) rest
    | none => none
  | some c :: rest =>
    if c = '"' then some (spelling.text?, rest)
    else if c = '\\' || c.toNat < 0x20 then none
    else stringRest? (spelling.push c) rest
  | none :: rest => stringRest? { spelling with isText := false } rest

/-- The string at the start of a source, behind its opening quote. -/
def string? (source : List Symbol) : Option (Option String × List Symbol) :=
  stringRest? ⟨[], none, true⟩ source

/-- A source without the characters of a word at its start. -/
def afterWord? (word : List Char) (source : List Symbol) : Option (List Symbol) :=
  if source.take word.length = word.map some then some (source.drop word.length) else none

/-- A value that is not made of others, with what follows it. -/
def scalar (source : List Symbol) : Draft × Option (List Symbol) :=
  match source with
  | some '"' :: rest =>
    match string? rest with
    | some (value, rest) => (.string value, some rest)
    | none => (.broken, none)
  | some 'n' :: rest => word .null "ull" rest
  | some 't' :: rest => word (.bool true) "rue" rest
  | some 'f' :: rest => word (.bool false) "alse" rest
  | source =>
    match literal? source with
    | some (literal, rest) => (.number literal, some rest)
    | none => (.broken, none)
where
  /-- A value that is written as a word, the first letter of which has been read. -/
  word (draft : Draft) (letters : String) (rest : List Symbol) : Draft × Option (List Symbol) :=
    match afterWord? letters.toList rest with
    | some rest => (draft, some rest)
    | none => (.broken, none)

mutual

/-- The value at the start of a source, which lies inside `depth` others, with what follows it;
nothing follows a fault. Each call of the three functions needs one unit of `fuel`. -/
def value (depth : Nat) : Nat → List Symbol → Draft × Option (List Symbol)
  | 0, _ => (.broken, none)
  | fuel + 1, source =>
    match skipBlanks source with
    | some '[' :: rest =>
      match skipBlanks rest with
      | some ']' :: rest => (.array (depth + 1) [], some rest)
      | rest =>
        let (items, rest) := items (depth + 1) fuel rest
        (.array (depth + 1) items, rest)
    | some '\x7b' :: rest =>
      match skipBlanks rest with
      | some '\x7d' :: rest => (.object (depth + 1) [], some rest)
      | rest =>
        let (fields, rest) := fields (depth + 1) fuel rest
        (.object (depth + 1) fields, rest)
    | rest => scalar rest

/-- The items of an array from the next one on. -/
def items (depth : Nat) : Nat → List Symbol → List Draft × Option (List Symbol)
  | 0, _ => ([.broken], none)
  | fuel + 1, source =>
    match value depth fuel source with
    | (item, none) => ([item], none)
    | (item, some rest) =>
      match skipBlanks rest with
      | some ',' :: rest =>
        let (items, rest) := items depth fuel rest
        (item :: items, rest)
      | some ']' :: rest => ([item], some rest)
      | _ => ([item, .broken], none)

/-- The fields of an object from the next one on. -/
def fields (depth : Nat) :
    Nat → List Symbol → List (Option String × Draft) × Option (List Symbol)
  | 0, _ => ([(none, .broken)], none)
  | fuel + 1, source =>
    match skipBlanks source with
    | some '"' :: rest =>
      match string? rest with
      | none => ([(none, .broken)], none)
      | some (name, rest) =>
        match skipBlanks rest with
        | some ':' :: rest =>
          match value depth fuel rest with
          | (field, none) => ([(name, field)], none)
          | (field, some rest) =>
            match skipBlanks rest with
            | some ',' :: rest =>
              let (fields, rest) := fields depth fuel rest
              ((name, field) :: fields, rest)
            | some '\x7d' :: rest => ([(name, field)], some rest)
            | _ => ([(name, field), (none, .broken)], none)
        | _ => ([(name, .broken)], none)
    | _ => ([(none, .broken)], none)

end

/-- What a source says, and whether it is one whole JSON value with nothing but blanks around it. -/
def draft (source : List Symbol) : Draft × Bool :=
  match value 0 (2 * source.length + 2) source with
  | (draft, none) => (draft, false)
  | (draft, some rest) => (draft, (skipBlanks rest).isEmpty)

end MotifVote.Json
