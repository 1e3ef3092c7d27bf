/-!
# Characters of a source

A source that may hold any bytes is read as a list of symbols: a character where the bytes are the
UTF-8 form of one, and `none` for every byte that is part of no character.

Readers ask of a character whether it is white space, in the sense of Unicode, and whether it is a
hexadecimal digit. Digits in either case are read; digits in lower case are written.
-/

namespace MotifVote.Text

/-- A character, or a byte that belongs to none. -/
abbrev Symbol := Option Char

/-- Whether a byte continues a character. -/
def isContinuation (byte : UInt8) : Bool := 0x80 ≤ byte && byte < 0xC0

/-- The six bits that a continuation byte carries. -/
def lowBits (byte : UInt8) : Nat := byte.toNat % 64

/-- The character of two bytes, if they are the shortest form of one. -/
def twoBytes? (a b : UInt8) : Option Char :=
  if 0xC2 ≤ a && a < 0xE0 && isContinuation b then
    some (Char.ofNat (a.toNat % 32 * 64 + lowBits b))
  else none

/-- The character of three bytes, if they are the shortest form of one; surrogates are none. -/
def threeBytes? (a b c : UInt8) : Option Char :=
  if 0xE0 ≤ a && a < 0xF0 && isContinuation b && isContinuation c then
    let code := a.toNat % 16 * 4096 + lowBits b * 64 + lowBits c
    if code < 0x800 || (0xD800 ≤ code && code < 0xE000) then none else some (Char.ofNat code)
  else none

/-- The character of four bytes, if they are the shortest form of one. -/
def fourBytes? (a b c d : UInt8) : Option Char :=
  if 0xF0 ≤ a && a < 0xF5 && isContinuation b && isContinuation c && isContinuation d then
    let code := a.toNat % 8 * 262144 + lowBits b * 4096 + lowBits c * 64 + lowBits d
    if code < 0x10000 || 0x110000 ≤ code then none else some (Char.ofNat code)
  else none

/-- The character that starts a list of bytes, with the number of its bytes. -/
def leadingChar? : List UInt8 → Option (Char × Nat)
  | [] => none
  | a :: rest =>
    if a < 0x80 then some (Char.ofNat a.toNat, 1)
    else match rest with
      | [] => none
      | b :: rest =>
        match twoBytes? a b with
        | some char => some (char, 2)
        | none =>
          match rest with
          | [] => none
          | c :: rest =>
            match threeBytes? a b c with
            | some char => some (char, 3)
            | none =>
              match rest with
              | [] => none
              | d :: _ => (fourBytes? a b c d).map (·, 4)

/-- The symbols of a list of bytes; `skip` bytes at its start belong to the character before. -/
def symbolsFrom : Nat → List UInt8 → List Symbol
  | _, [] => []
  | skip + 1, _ :: rest => symbolsFrom skip rest
  | 0, byte :: rest =>
    match leadingChar? (byte :: rest) with
    | some (char, size) => some char :: symbolsFrom (size - 1) rest
    | none => none :: symbolsFrom 0 rest

/-- The symbols of a text: its characters. -/
def symbolsOfText (text : String) : List Symbol := text.toList.map some

/-- The symbols of some bytes. Bytes that are a text as a whole need not be read one by one. -/
def symbolsOfBytes (bytes : ByteArray) : List Symbol :=
  match String.fromUTF8? bytes with
  | some text => symbolsOfText text
  | none => symbolsFrom 0 bytes.toList

/-- Whether a character is white space in the sense of Unicode. -/
def isBlank (c : Char) : Bool :=
  let code := c.toNat
  (0x09 ≤ code && code ≤ 0x0D) || code == 0x20 || code == 0x85 || code == 0xA0 || code == 0x1680 ||
    (0x2000 ≤ code && code ≤ 0x200A) || code == 0x2028 || code == 0x2029 || code == 0x202F ||
    code == 0x205F || code == 0x3000

/-- The characters from the first to the last that is not blank. -/
def trim (chars : List Char) : List Char :=
  ((chars.dropWhile isBlank).reverse.dropWhile isBlank).reverse

/-- The value of a hexadecimal digit. -/
def hexValue? (c : Char) : Option Nat :=
  if c.isDigit then some (c.toNat - '0'.toNat)
  else if 'a' ≤ c && c ≤ 'f' then some (c.toNat - 'a'.toNat + 10)
  else if 'A' ≤ c && c ≤ 'F' then some (c.toNat - 'A'.toNat + 10)
  else none

/-- The number that some hexadecimal digits write. -/
def hexNumber? (digits : List Char) : Option Nat :=
  digits.foldlM (fun n digit => (hexValue? digit).map (16 * n + ·)) 0

/-- The hexadecimal digits of a number, without leading zeros. -/
def hexDigits (n : Nat) : List Char := Nat.toDigits 16 n

end MotifVote.Text
