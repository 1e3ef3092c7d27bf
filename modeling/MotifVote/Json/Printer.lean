import MotifVote.Json.Value
import MotifVote.Decimal.Layout

/-!
# Written JSON

Two forms: compact, with no blank between tokens, and indented, with one item a line. Only quotes,
backslashes and controls are escaped; a number that is not finite is written as null.
-/

namespace MotifVote

/-- A number in JSON. -/
def Number.written : Number → List Char
  | .integer value => (toString value).toList
  | .real value =>
    if value.isFinite then (Decimal.Layout.json.write value).toList else "null".toList

namespace Json

/-- A hexadecimal digit in lower case. -/
def hexDigit (n : Nat) : Char := (Nat.toDigits 16 n).headD '0'

/-- One character inside a JSON string. -/
def escaped (c : Char) : List Char :=
  if c = '"' then ['\\', '"']
  else if c = '\\' then ['\\', '\\']
  else if c = '\x08' then ['\\', 'b']
  else if c = '\t' then ['\\', 't']
  else if c = '\n' then ['\\', 'n']
  else if c = '\x0c' then ['\\', 'f']
  else if c = '\r' then ['\\', 'r']
  else if c.toNat < 0x20 then
    ['\\', 'u', '0', '0', hexDigit (c.toNat / 16), hexDigit (c.toNat % 16)]
  else [c]

/-- A text as a JSON string. -/
def writtenString (text : String) : List Char :=
  ['"'] ++ text.toList.flatMap escaped ++ ['"']

mutual

/-- The compact form of a value. -/
def compact : Json → List Char
  | .null => "null".toList
  | .bool value => (if value then "true" else "false").toList
  | .number value => value.written
  | .string value => writtenString value
  | .array items => ['['] ++ compactItems items ++ [']']
  | .object fields => ['\x7b'] ++ compactFields fields ++ ['\x7d']

/-- Items with commas between them. -/
def compactItems : List Json → List Char
  | [] => []
  | [item] => item.compact
  | item :: items => item.compact ++ [','] ++ compactItems items

/-- Fields with commas between them. -/
def compactFields : List (String × Json) → List Char
  | [] => []
  | [(name, value)] => writtenString name ++ [':'] ++ value.compact
  | (name, value) :: fields =>
    writtenString name ++ [':'] ++ value.compact ++ [','] ++ compactFields fields

end

/-- The compact text of a value. -/
def text (json : Json) : String := String.ofList json.compact

/-- A new line, indented by two blanks for each level. -/
def newLine (level : Nat) : List Char := '\n' :: List.replicate (2 * level) ' '

mutual

/-- The indented form of a value that stands at a level. -/
def indented (level : Nat) : Json → List Char
  | .array [] => ['[', ']']
  | .array (item :: items) =>
    ['['] ++ indentedItems (level + 1) (item :: items) ++ newLine level ++ [']']
  | .object [] => ['\x7b', '\x7d']
  | .object (field :: fields) =>
    ['\x7b'] ++ indentedFields (level + 1) (field :: fields) ++ newLine level ++ ['\x7d']
  | scalar => scalar.compact

/-- Items, each on a line of its own. -/
def indentedItems (level : Nat) : List Json → List Char
  | [] => []
  | [item] => newLine level ++ item.indented level
  | item :: items => newLine level ++ item.indented level ++ [','] ++ indentedItems level items

/-- Fields, each on a line of its own. -/
def indentedFields (level : Nat) : List (String × Json) → List Char
  | [] => []
  | [(name, value)] => newLine level ++ writtenString name ++ [':', ' '] ++ value.indented level
  | (name, value) :: fields =>
    newLine level ++ writtenString name ++ [':', ' '] ++ value.indented level ++ [','] ++
      indentedFields level fields

end

/-- The indented text of a value. -/
def indentedText (json : Json) : String := String.ofList (json.indented 0)

end Json

end MotifVote
