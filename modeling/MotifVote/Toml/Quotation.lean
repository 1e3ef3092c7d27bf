import MotifVote.Text.Symbols

/-!
# TOML strings

Text in quotation marks. Between double quotes a backslash starts an escape; between single quotes
everything stands for itself. Three quotes in a row open a text that may span lines; a line break
right behind them does not count, and up to two quotes may stand at the end of the text.
-/

namespace MotifVote.Toml

open Text (hexNumber?)

/-- Whether a character may stand in a comment or between quotes: no control but the tab. -/
def isPrintable (c : Char) : Bool := c == '\t' || (0x20 ≤ c.toNat && c.toNat != 0x7F)

/-- The character of an escape with one letter. -/
def letterEscape? (c : Char) : Option Char :=
  match c with
  | 'b' => some '\x08'
  | 't' => some '\t'
  | 'n' => some '\n'
  | 'f' => some '\x0c'
  | 'r' => some '\r'
  | 'e' => some '\x1b'
  | '"' => some '"'
  | '\\' => some '\\'
  | _ => none

/-- The character of a code. -/
def charOfCode? (code : Nat) : Option Char :=
  if code.isValidChar then some (Char.ofNat code) else none

/-- The character of an escape with hexadecimal digits. -/
def codeEscape? (digits : List Char) : Option Char := (hexNumber? digits).bind charOfCode?

/-- A text and what follows its closing quotes, behind the characters read so far, the last first.
-/
abbrev Quoted := Option (String × List Char)

/-- The text of the characters read, the last first. -/
def textOf (read : List Char) : String := String.ofList read.reverse

/-- A text in double quotes on one line, behind the opening quote. -/
def lineRest? (read : List Char) : List Char → Quoted
  | [] => none
  | '\\' :: 'x' :: a :: b :: rest => (codeEscape? [a, b]).bind fun c => lineRest? (c :: read) rest
  | '\\' :: 'u' :: a :: b :: c :: d :: rest =>
    (codeEscape? [a, b, c, d]).bind fun c => lineRest? (c :: read) rest
  | '\\' :: 'U' :: a :: b :: c :: d :: e :: f :: g :: h :: rest =>
    (codeEscape? [a, b, c, d, e, f, g, h]).bind fun c => lineRest? (c :: read) rest
  | '\\' :: c :: rest => (letterEscape? c).bind fun c => lineRest? (c :: read) rest
  | c :: rest =>
    if c = '"' then some (textOf read, rest)
    else if c = '\\' || !isPrintable c then none
    else lineRest? (c :: read) rest

/-- A text in single quotes on one line, behind the opening quote. -/
def plainLineRest? (read : List Char) : List Char → Quoted
  | [] => none
  | c :: rest =>
    if c = '\'' then some (textOf read, rest)
    else if isPrintable c then plainLineRest? (c :: read) rest
    else none

/-- Where the reading of a text on several lines stands with blanks. -/
inductive Blanks where
  /-- Blanks belong to the text. -/
  | kept
  /-- A backslash has been read, behind which the line must end. -/
  | toLineEnd
  /-- The line has ended behind a backslash; blanks do not count. -/
  | dropped

/-- A text in three double quotes, behind the opening ones. -/
def linesRest? (read : List Char) : Blanks → List Char → Quoted
  | _, [] => none
  | .toLineEnd, '\r' :: '\n' :: rest => linesRest? read .dropped rest
  | .toLineEnd, c :: rest =>
    if c = '\n' then linesRest? read .dropped rest
    else if c = ' ' || c = '\t' then linesRest? read .toLineEnd rest
    else none
  | _, '"' :: '"' :: '"' :: '"' :: '"' :: rest => some (textOf ('"' :: '"' :: read), rest)
  | _, '"' :: '"' :: '"' :: '"' :: rest => some (textOf ('"' :: read), rest)
  | _, '"' :: '"' :: '"' :: rest => some (textOf read, rest)
  | _, '\\' :: 'x' :: a :: b :: rest =>
    (codeEscape? [a, b]).bind fun c => linesRest? (c :: read) .kept rest
  | _, '\\' :: 'u' :: a :: b :: c :: d :: rest =>
    (codeEscape? [a, b, c, d]).bind fun c => linesRest? (c :: read) .kept rest
  | _, '\\' :: 'U' :: a :: b :: c :: d :: e :: f :: g :: h :: rest =>
    (codeEscape? [a, b, c, d, e, f, g, h]).bind fun c => linesRest? (c :: read) .kept rest
  | _, '\\' :: '\r' :: '\n' :: rest => linesRest? read .dropped rest
  | _, '\\' :: c :: rest =>
    if c = '\n' then linesRest? read .dropped rest
    else if c = ' ' || c = '\t' then linesRest? read .toLineEnd rest
    else (letterEscape? c).bind fun c => linesRest? (c :: read) .kept rest
  | .dropped, '\r' :: '\n' :: rest => linesRest? read .dropped rest
  | .kept, '\r' :: '\n' :: rest => linesRest? ('\n' :: read) .kept rest
  | .dropped, c :: rest =>
    if c = ' ' || c = '\t' || c = '\n' then linesRest? read .dropped rest
    else if isPrintable c && c != '\\' then linesRest? (c :: read) .kept rest
    else none
  | .kept, c :: rest =>
    if (isPrintable c && c != '\\') || c = '\n' then linesRest? (c :: read) .kept rest else none

/-- A text in three single quotes, behind the opening ones. -/
def plainLinesRest? (read : List Char) : List Char → Quoted
  | [] => none
  | '\'' :: '\'' :: '\'' :: '\'' :: '\'' :: rest => some (textOf ('\'' :: '\'' :: read), rest)
  | '\'' :: '\'' :: '\'' :: '\'' :: rest => some (textOf ('\'' :: read), rest)
  | '\'' :: '\'' :: '\'' :: rest => some (textOf read, rest)
  | '\r' :: '\n' :: rest => plainLinesRest? ('\n' :: read) rest
  | c :: rest =>
    if isPrintable c || c = '\n' then plainLinesRest? (c :: read) rest else none

/-- A source without a line break at its start. -/
def skipBreak : List Char → List Char
  | '\n' :: rest => rest
  | '\r' :: '\n' :: rest => rest
  | source => source

/-- The quoted text on one line that stands at the start of a source. -/
def quotedLine? : List Char → Quoted
  | '"' :: rest => lineRest? [] rest
  | '\'' :: rest => plainLineRest? [] rest
  | _ => none

/-- The quoted text that stands at the start of a source. -/
def quoted? : List Char → Quoted
  | '"' :: '"' :: '"' :: rest => linesRest? [] .kept (skipBreak rest)
  | '\'' :: '\'' :: '\'' :: rest => plainLinesRest? [] (skipBreak rest)
  | source => quotedLine? source

end MotifVote.Toml
