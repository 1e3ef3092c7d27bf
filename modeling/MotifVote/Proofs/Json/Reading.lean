import MotifVote.Json.Decode
import MotifVote.Json.Printer
import Mathlib.Data.List.Basic

/-!
# What is written is read

The compact form of a value, read again, is a draft of that value. Doubles are left out: they are
written in decimal and rounded when they are read.

The reader is followed behind each kind of token in turn. A value ends where it should because a
comma, a bracket or the end of the source stands behind it, which no number goes on with. A value
never starts with a blank or with a closing bracket, so the reader does not take a list for an empty
one. That there are calls enough is seen from the length: every call is one for a character of its
own.
-/

namespace MotifVote.Json

open Text (Symbol hexNumber?)

/-- A value all numbers of which are natural numbers of 64 bits. -/
inductive IsPlain : Json → Prop
  | null : IsPlain .null
  | bool (value : Bool) : IsPlain (.bool value)
  | natural {n : Nat} (small : n < UInt64.size) : IsPlain (.number (.integer n))
  | string (value : String) : IsPlain (.string value)
  | array {items : List Json} (plain : ∀ item ∈ items, IsPlain item) : IsPlain (.array items)
  | object {fields : List (String × Json)} (plain : ∀ field ∈ fields, IsPlain field.2) :
      IsPlain (.object fields)

mutual

/-- The draft of a plain value that lies inside `depth` others. -/
def drafted (depth : Nat) : Json → Draft
  | .null => .null
  | .bool value => .bool value
  | .number value => .number ⟨false, value.written, none, none⟩
  | .string value => .string (some value)
  | .array items => .array (depth + 1) (draftedItems (depth + 1) items)
  | .object fields => .object (depth + 1) (draftedFields (depth + 1) fields)

/-- The drafts of items. -/
def draftedItems (depth : Nat) : List Json → List Draft
  | [] => []
  | item :: items => item.drafted depth :: draftedItems depth items

/-- The drafts of fields. -/
def draftedFields (depth : Nat) : List (String × Json) → List (Option String × Draft)
  | [] => []
  | (name, value) :: fields => (some name, value.drafted depth) :: draftedFields depth fields

end

/-- Whether a character is one that the reader does not pass over. -/
def IsVisible (c : Char) : Prop := c ≠ ' ' ∧ c ≠ '\n' ∧ c ≠ '\t' ∧ c ≠ '\r'

instance (c : Char) : Decidable (IsVisible c) :=
  inferInstanceAs (Decidable (c ≠ ' ' ∧ c ≠ '\n' ∧ c ≠ '\t' ∧ c ≠ '\r'))

/-- What stands behind a value does not go on with a number. -/
def EndsValue (rest : List Symbol) : Prop :=
  ∀ c later, rest = some c :: later → c.isDigit = false ∧ c ≠ '.' ∧ c ≠ 'e' ∧ c ≠ 'E'

theorem endsValue_nil : EndsValue [] := by
  intro c later none
  cases none

theorem endsValue_cons {c : Char} (delimiter : c = ',' ∨ c = ']' ∨ c = '\x7d')
    (later : List Symbol) : EndsValue (some c :: later) := by
  intro c later same
  cases same
  rcases delimiter with rfl | rfl | rfl
  all_goals exact ⟨rfl, by decide, by decide, by decide⟩

theorem skipBlanks_cons {c : Char} (visible : IsVisible c) (rest : List Symbol) :
    skipBlanks (some c :: rest) = some c :: rest := by
  rcases visible with ⟨notSpace, notLineFeed, notTab, notReturn⟩
  simp [skipBlanks, notSpace, notLineFeed, notTab, notReturn]

section Strings

/-- The last two digits of the escape of a control are its code. -/
theorem hexNumber?_control (code : Fin 32) :
    hexNumber? ['0', '0', hexDigit (code / 16), hexDigit (code % 16)] = some code.val := by
  decide +revert

theorem stringRest?_control (before : List Char) {c : Char} (control : c.toNat < 0x20)
    (rest : List Symbol) :
    stringRest? ⟨before, none, true⟩
        (['\\', 'u', '0', '0', hexDigit (c.toNat / 16), hexDigit (c.toNat % 16)].map some ++ rest) =
      stringRest? ⟨c :: before, none, true⟩ rest := by
  have code := hexNumber?_control ⟨c.toNat, control⟩
  have notHigh : ¬(0xD800 ≤ c.toNat ∧ c.toNat < 0xDC00) := by omega
  have notLow : ¬(0xDC00 ≤ c.toNat ∧ c.toNat < 0xE000) := by omega
  simp only [List.map_cons, List.map_nil, List.cons_append, List.nil_append, stringRest?, code,
    Spelling.pushCode, notHigh, notLow, if_false, Spelling.push, Option.isNone_none,
    Bool.and_true, Char.ofNat_toNat]

/-- Whatever stands for a character in a string is read as that character. -/
theorem stringRest?_escaped (before : List Char) (c : Char) (rest : List Symbol) :
    stringRest? ⟨before, none, true⟩ ((escaped c).map some ++ rest) =
      stringRest? ⟨c :: before, none, true⟩ rest := by
  unfold escaped
  split_ifs with quote backslash backspace tab lineFeed formFeed carriageReturn control
  -- The first seven have short escapes of their own.
  rotate_left 7
  · exact stringRest?_control before control rest
  · simp [stringRest?, Spelling.push, quote, backslash, control]
  all_goals
    subst_vars
    simp [stringRest?, shortEscape?, Spelling.push]

theorem stringRest?_flatMap_escaped (before chars : List Char) (rest : List Symbol) :
    stringRest? ⟨before, none, true⟩ ((chars.flatMap escaped).map some ++ some '"' :: rest) =
      some (some (String.ofList (before.reverse ++ chars)), rest) := by
  induction chars generalizing before with
  | nil => simp [stringRest?, Spelling.text?]
  | cons c chars ih =>
      rw [List.flatMap_cons, List.map_append, List.append_assoc, stringRest?_escaped, ih]
      simp

/-- A text is read off its own JSON string, behind the opening quote. -/
theorem string?_written (text : String) (rest : List Symbol) :
    string? ((text.toList.flatMap escaped).map some ++ some '"' :: rest) =
      some (some text, rest) := by
  rw [string?, stringRest?_flatMap_escaped]
  simp

theorem map_writtenString (text : String) (rest : List Symbol) :
    (writtenString text).map some ++ rest =
      some '"' :: ((text.toList.flatMap escaped).map some ++ some '"' :: rest) := by
  simp [writtenString]

theorem scalar_writtenString (text : String) (rest : List Symbol) :
    scalar ((writtenString text).map some ++ rest) = (.string (some text), some rest) := by
  rw [map_writtenString]
  simp only [scalar, string?_written]

end Strings

section Numbers

variable {rest : List Symbol}

theorem written_natural (n : Nat) : (Number.integer n).written = Nat.toDigits 10 n := by
  simp [Number.written, toString, Int.repr, Nat.repr]

/-- No zero stands in front of a number, unless it is zero. -/
theorem toDigits_eq_cons (n : Nat) :
    ∃ digit digits, Nat.toDigits 10 n = digit :: digits ∧ (digit = '0' → digits = []) := by
  induction n using Nat.strongRecOn with
  | ind n ih =>
      rw [Nat.toDigits_eq_if (by decide)]
      by_cases small : n < 10
      · exact ⟨_, [], if_pos small, fun _ => rfl⟩
      · rcases ih (n / 10) (by omega) with ⟨digit, digits, front, zero⟩
        refine ⟨digit, digits ++ [(n % 10).digitChar], by rw [if_neg small, front]; rfl, ?_⟩
        intro isZero
        exfalso
        have value := Nat.ofDigitChars_ten_toDigits (n := n / 10)
        rw [front, zero isZero, isZero] at value
        have none : n / 10 = 0 := value.symm
        omega

theorem ne_of_isDigit {digit c : Char} (isDigit : digit.isDigit = true)
    (other : c.isDigit = false) : digit ≠ c := by
  rintro rfl
  rw [isDigit] at other
  cases other

theorem isVisible_of_isDigit {digit : Char} (isDigit : digit.isDigit = true) : IsVisible digit :=
  ⟨ne_of_isDigit isDigit rfl, ne_of_isDigit isDigit rfl, ne_of_isDigit isDigit rfl,
    ne_of_isDigit isDigit rfl⟩

/-- A natural number is written with digits, and no zero in front unless it is zero. -/
theorem written_eq_cons (n : Nat) :
    ∃ digit digits, (Number.integer n).written = digit :: digits ∧ digit.isDigit = true ∧
      (∀ c ∈ digits, c.isDigit = true) ∧ (digit = '0' → digits = []) := by
  rcases toDigits_eq_cons n with ⟨digit, digits, shape, zero⟩
  have areDigits : ∀ c ∈ digit :: digits, c.isDigit = true :=
    fun c member => Nat.isDigit_of_mem_toDigits (by decide) (by decide) (shape ▸ member)
  rcases List.forall_mem_cons.mp areDigits with ⟨first, others⟩
  exact ⟨digit, digits, (written_natural n).trans shape, first, others, zero⟩

theorem digitsOf_append {digits : List Char} (areDigits : ∀ c ∈ digits, c.isDigit = true)
    (ends : EndsValue rest) : digitsOf (digits.map some ++ rest) = (digits, rest) := by
  induction digits with
  | nil =>
      rcases rest with _ | ⟨_ | c, later⟩
      · rfl
      · rfl
      · simp [digitsOf, (ends c later rfl).1]
  | cons digit digits ih =>
      rcases List.forall_mem_cons.mp areDigits with ⟨isDigit, others⟩
      simp only [List.map_cons, List.cons_append, digitsOf, isDigit, if_true, ih others]

theorem fraction?_of_endsValue (ends : EndsValue rest) : fraction? rest = some (none, rest) := by
  rcases rest with _ | ⟨_ | c, later⟩
  · rfl
  · rfl
  · simp [fraction?, (ends c later rfl).2.1]

theorem exponent?_of_endsValue (ends : EndsValue rest) : exponent? rest = some (none, rest) := by
  rcases rest with _ | ⟨_ | c, later⟩
  · rfl
  · rfl
  · simp [exponent?, (ends c later rfl).2.2.1, (ends c later rfl).2.2.2]

/-- A natural number is read off its digits. -/
theorem scalar_written (n : Nat) (ends : EndsValue rest) :
    scalar ((Number.integer n).written.map some ++ rest) =
      (.number ⟨false, (Number.integer n).written, none, none⟩, some rest) := by
  rcases written_eq_cons n with ⟨digit, digits, shape, isDigit, others, zero⟩
  have read := digitsOf_append (List.forall_mem_cons.mpr ⟨isDigit, others⟩) ends
  have whole : whole? ((digit :: digits).map some ++ rest) = some (digit :: digits, rest) := by
    by_cases isZero : digit = '0'
    · rw [zero isZero, isZero] at read ⊢
      simp only [whole?, read]
    · rw [whole?, read]
      simp [isZero]
  have notMinus : digit ≠ '-' := ne_of_isDigit isDigit rfl
  have literal : literal? ((digit :: digits).map some ++ rest) =
      some (⟨false, digit :: digits, none, none⟩, rest) := by
    rw [List.map_cons, List.cons_append] at whole ⊢
    simp [literal?, notMinus, whole, fraction?_of_endsValue ends, exponent?_of_endsValue ends]
  have notQuote : digit ≠ '"' := ne_of_isDigit isDigit rfl
  have notNull : digit ≠ 'n' := ne_of_isDigit isDigit rfl
  have notTrue : digit ≠ 't' := ne_of_isDigit isDigit rfl
  have notFalse : digit ≠ 'f' := ne_of_isDigit isDigit rfl
  rw [shape]
  rw [List.map_cons, List.cons_append] at literal ⊢
  simp [scalar, notQuote, notNull, notTrue, notFalse, literal]

/-- A literal without anything but a natural number stands for it. -/
theorem number?_written {n : Nat} (small : n < UInt64.size) :
    Literal.number? ⟨false, (Number.integer n).written, none, none⟩ = some (.integer n) := by
  have value : Decimal.digitsValue (Nat.toDigits 10 n) = n := by
    rw [Decimal.digitsValue, ← Nat.ofDigitChars_eq_foldl, Nat.ofDigitChars_ten_toDigits]
  simp [Literal.number?, Literal.integer?, written_natural, value, small]

end Numbers

section Layout

variable (first last : Char) (left right : List Char) (rest : List Symbol)

theorem length_enclosed : ([first] ++ left ++ [last]).length = left.length + 2 := by
  simp

theorem map_enclosed :
    ([first] ++ left ++ [last]).map some ++ rest =
      some first :: (left.map some ++ some last :: rest) := by
  simp

theorem length_separated : (left ++ [first] ++ right).length = left.length + right.length + 1 := by
  simp
  omega

theorem map_separated :
    (left ++ [first] ++ right).map some ++ rest =
      left.map some ++ some first :: (right.map some ++ rest) := by
  simp

end Layout

section Values

theorem compactItems_cons (item next : Json) (items : List Json) :
    compactItems (item :: next :: items) =
      item.compact ++ [','] ++ compactItems (next :: items) :=
  rfl

theorem compactFields_singleton (name : String) (field : Json) :
    compactFields [(name, field)] = writtenString name ++ [':'] ++ field.compact :=
  rfl

theorem compactFields_cons (name : String) (field : Json) (next : String × Json)
    (fields : List (String × Json)) :
    compactFields ((name, field) :: next :: fields) =
      writtenString name ++ [':'] ++ field.compact ++ [','] ++ compactFields (next :: fields) :=
  rfl

/-- A value is read off its own compact form, in as many calls as this has characters. -/
def ReadsBack (json : Json) : Prop :=
  ∀ (depth fuel : Nat) (rest : List Symbol), json.compact.length ≤ fuel → EndsValue rest →
    value depth fuel (json.compact.map some ++ rest) = (json.drafted depth, some rest)

/-- Some characters start with one that is visible and does not close a list. -/
def StartsVisibly (chars : List Char) : Prop :=
  ∃ first later, chars = first :: later ∧ IsVisible first ∧ first ≠ ']'

theorem IsPlain.startsVisibly {json : Json} (plain : json.IsPlain) :
    StartsVisibly json.compact := by
  cases plain with
  | null => exact ⟨'n', _, rfl, by decide, by decide⟩
  | bool value =>
      cases value with
      | true => exact ⟨'t', _, rfl, by decide, by decide⟩
      | false => exact ⟨'f', _, rfl, by decide, by decide⟩
  | @natural n small =>
      rcases written_eq_cons n with ⟨digit, digits, shape, isDigit, -⟩
      exact ⟨digit, digits, shape, isVisible_of_isDigit isDigit, ne_of_isDigit isDigit (by decide)⟩
  | string value => exact ⟨'"', _, rfl, by decide, by decide⟩
  | array plain => exact ⟨'[', _, rfl, by decide, by decide⟩
  | object plain => exact ⟨'\x7b', _, rfl, by decide, by decide⟩

theorem startsVisibly_compactItems {list : List Json} (nonempty : list ≠ [])
    (plain : ∀ item ∈ list, item.IsPlain) : StartsVisibly (compactItems list) := by
  rcases list with _ | ⟨item, _ | ⟨next, list⟩⟩
  · exact absurd rfl nonempty
  · exact (plain item List.mem_cons_self).startsVisibly
  · rcases (plain item List.mem_cons_self).startsVisibly with ⟨first, later, shape, visible, open_⟩
    refine ⟨first, later ++ [','] ++ compactItems (next :: list), ?_, visible, open_⟩
    simp [compactItems_cons, shape]

/-- A value that is not made of others is read in one call. -/
theorem value_of_scalar (depth fuel : Nat) {first : Char} {later : List Symbol}
    (visible : IsVisible first) (notArray : first ≠ '[') (notObject : first ≠ '\x7b') :
    value depth (fuel + 1) (some first :: later) = scalar (some first :: later) := by
  simp [value, skipBlanks_cons visible, notArray, notObject]

theorem value_array (depth fuel : Nat) {first : Char} {later : List Symbol}
    (visible : IsVisible first) (notClosed : first ≠ ']') :
    value depth (fuel + 1) (some '[' :: some first :: later) =
      (.array (depth + 1) (items (depth + 1) fuel (some first :: later)).1,
        (items (depth + 1) fuel (some first :: later)).2) := by
  have opened : skipBlanks (some '[' :: some first :: later) = some '[' :: some first :: later :=
    rfl
  simp [value, opened, skipBlanks_cons visible, notClosed]

theorem value_object (depth fuel : Nat) (later : List Symbol) :
    value depth (fuel + 1) (some '\x7b' :: some '"' :: later) =
      (.object (depth + 1) (fields (depth + 1) fuel (some '"' :: later)).1,
        (fields (depth + 1) fuel (some '"' :: later)).2) :=
  rfl

/-- Items are read off their compact form, up to the bracket behind them. -/
theorem items_compactItems {list : List Json} (nonempty : list ≠ [])
    (readsBack : ∀ item ∈ list, item.ReadsBack) {fuel : Nat}
    (enough : (compactItems list).length + 1 ≤ fuel) (depth : Nat) (rest : List Symbol) :
    items depth fuel ((compactItems list).map some ++ some ']' :: rest) =
      (draftedItems depth list, some rest) := by
  induction list generalizing fuel with
  | nil => exact absurd rfl nonempty
  | cons item list ih =>
      rcases fuel with _ | fuel
      · omega
      rcases List.forall_mem_cons.mp readsBack with ⟨readsItem, readsRest⟩
      rcases list with _ | ⟨next, list⟩
      · -- One call is spent on the item, and its own length is enough for what it holds.
        have read := readsItem depth fuel (some ']' :: rest) (by simpa [compactItems] using enough)
          (endsValue_cons (by simp) rest)
        simp only [items, compactItems, read]
        rfl
      · rw [compactItems_cons, length_separated] at enough
        have read := readsItem depth fuel
          (some ',' :: ((compactItems (next :: list)).map some ++ some ']' :: rest)) (by omega)
          (endsValue_cons (by simp) _)
        have others := ih (List.cons_ne_nil _ _) readsRest (by omega : _ ≤ fuel)
        rw [compactItems_cons, map_separated, items, read]
        have separated : skipBlanks
            (some ',' :: ((compactItems (next :: list)).map some ++ some ']' :: rest)) =
              some ',' :: ((compactItems (next :: list)).map some ++ some ']' :: rest) := rfl
        simp only [separated, others]
        rfl

theorem map_writtenField (name : String) (field : Json) (rest : List Symbol) :
    (writtenString name ++ [':'] ++ field.compact).map some ++ rest =
      some '"' :: ((name.toList.flatMap escaped).map some ++
        some '"' :: some ':' :: (field.compact.map some ++ rest)) := by
  simp [writtenString]

section Field

variable {depth fuel : Nat} {name : String} {field : Json} {later : List Symbol}

theorem fields_last
    (read : value depth fuel (field.compact.map some ++ some '\x7d' :: later) =
      (field.drafted depth, some (some '\x7d' :: later))) :
    fields depth (fuel + 1)
        ((writtenString name ++ [':'] ++ field.compact).map some ++ some '\x7d' :: later) =
      ([(some name, field.drafted depth)], some later) := by
  have opened : IsVisible '"' := by decide
  have separated : IsVisible ':' := by decide
  rw [map_writtenField, fields]
  simp only [skipBlanks_cons opened, string?_written, skipBlanks_cons separated, read]
  rfl

/-- A field before a comma is read as its name and its value, with the fields behind it. -/
theorem fields_next
    (read : value depth fuel (field.compact.map some ++ some ',' :: later) =
      (field.drafted depth, some (some ',' :: later))) :
    fields depth (fuel + 1)
        ((writtenString name ++ [':'] ++ field.compact).map some ++ some ',' :: later) =
      ((some name, field.drafted depth) :: (fields depth fuel later).1,
        (fields depth fuel later).2) := by
  have opened : IsVisible '"' := by decide
  have separated : IsVisible ':' := by decide
  rw [map_writtenField, fields]
  simp only [skipBlanks_cons opened, string?_written, skipBlanks_cons separated, read]
  rfl

end Field

theorem compactFields_eq_cons {list : List (String × Json)} (nonempty : list ≠ []) :
    ∃ later, compactFields list = '"' :: later := by
  rcases list with _ | ⟨field, _ | ⟨next, list⟩⟩
  · exact absurd rfl nonempty
  · exact ⟨_, rfl⟩
  · exact ⟨_, rfl⟩

/-- Fields are read off their compact form, up to the brace behind them. -/
theorem fields_compactFields {list : List (String × Json)} (nonempty : list ≠ [])
    (readsBack : ∀ field ∈ list, field.2.ReadsBack) {fuel : Nat}
    (enough : (compactFields list).length + 1 ≤ fuel) (depth : Nat) (rest : List Symbol) :
    fields depth fuel ((compactFields list).map some ++ some '\x7d' :: rest) =
      (draftedFields depth list, some rest) := by
  induction list generalizing fuel with
  | nil => exact absurd rfl nonempty
  | cons field list ih =>
      rcases field with ⟨name, field⟩
      rcases fuel with _ | fuel
      · omega
      rcases List.forall_mem_cons.mp readsBack with ⟨readsField, readsRest⟩
      simp only at readsField
      rcases list with _ | ⟨next, list⟩
      · rw [compactFields_singleton, List.length_append] at enough
        have read := readsField depth fuel (some '\x7d' :: rest) (by omega)
          (endsValue_cons (by simp) rest)
        rw [compactFields_singleton, fields_last read]
        rfl
      · rw [compactFields_cons, length_separated, List.length_append] at enough
        have read := readsField depth fuel
          (some ',' :: ((compactFields (next :: list)).map some ++ some '\x7d' :: rest)) (by omega)
          (endsValue_cons (by simp) _)
        have others := ih (List.cons_ne_nil _ _) readsRest (by omega : _ ≤ fuel)
        rw [compactFields_cons, map_separated, fields_next read, others]
        rfl

theorem IsPlain.readsBack {json : Json} (plain : json.IsPlain) : json.ReadsBack := by
  induction plain with
  | null =>
      intro depth fuel rest enough _
      rcases fuel with _ | fuel
      · simp [compact] at enough
      · rfl
  | bool value =>
      intro depth fuel rest enough _
      rcases fuel with _ | fuel
      · cases value <;> simp [compact] at enough
      · cases value <;> rfl
  | @natural n small =>
      intro depth fuel rest enough ends
      rcases written_eq_cons n with ⟨digit, digits, shape, isDigit, -, -⟩
      have read := scalar_written n ends
      rw [compact, drafted, ← read, shape, List.map_cons, List.cons_append]
      rw [compact, shape] at enough
      rcases fuel with _ | fuel
      · simp at enough
      · exact value_of_scalar depth fuel (isVisible_of_isDigit isDigit)
          (ne_of_isDigit isDigit rfl) (ne_of_isDigit isDigit rfl)
  | string value =>
      intro depth fuel rest enough _
      rcases fuel with _ | fuel
      · simp [compact, writtenString] at enough
      · rw [compact, drafted, ← scalar_writtenString value rest, map_writtenString]
        exact value_of_scalar depth fuel (by decide) (by decide) (by decide)
  | @array list plain ih =>
      intro depth fuel rest enough _
      have shape : compact (.array list) = ['['] ++ compactItems list ++ [']'] := rfl
      rw [shape, length_enclosed] at enough
      rcases fuel with _ | fuel
      · omega
      rw [shape, map_enclosed]
      -- An empty list is closed at once, which the reader tells from the first character.
      by_cases none : list = []
      · subst none
        rfl
      · have read := items_compactItems none ih (by omega : _ ≤ fuel) (depth + 1) rest
        rcases startsVisibly_compactItems none plain with ⟨first, later, front, visible, open_⟩
        rw [front, List.map_cons, List.cons_append] at read ⊢
        rw [value_array depth fuel visible open_, read]
        rfl
  | @object list plain ih =>
      intro depth fuel rest enough _
      have shape : compact (.object list) = ['\x7b'] ++ compactFields list ++ ['\x7d'] := rfl
      rw [shape, length_enclosed] at enough
      rcases fuel with _ | fuel
      · omega
      rw [shape, map_enclosed]
      by_cases none : list = []
      · subst none
        rfl
      · have read := fields_compactFields none ih (by omega : _ ≤ fuel) (depth + 1) rest
        rcases compactFields_eq_cons none with ⟨later, front⟩
        rw [front, List.map_cons, List.cons_append] at read ⊢
        rw [value_object, read]
        rfl

end Values

end MotifVote.Json
