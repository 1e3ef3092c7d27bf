import MotifVote.Json.Draft
import MotifVote.Error

/-!
# Decoding records

A decoder takes a domain value from a draft, in text order, and stops at the first fault. A fault
is either one of form, or a refusal: the text is well-formed so far, but says something that is
refused.

A record is an object with the fields of the record in any order, or an array of its fields in their
own order, of which optional ones may be left out at the end. A field that occurs twice is a fault,
and so is a missing one that is not optional. Fields of other names are ignored; they need only
have the form of JSON.
-/

namespace MotifVote.Json

/-- Why nothing can be decoded. -/
inductive Fault where
  | malformed
  | refused (refusal : Refusal)
  deriving DecidableEq, Repr

/-- The refusal that a fault is, if it is one. -/
def Fault.refusal? : Fault → Option Refusal
  | .malformed => none
  | .refused refusal => some refusal

/-- A way to take a domain value from a draft. -/
abbrev Decoder (α : Type) := Draft → Except Fault α

/-- Values nest at most this deep. -/
def depthLimit : Nat := 127

mutual

/-- Whether a draft holds no fault of form. -/
def Draft.isIntact : Draft → Bool
  | .broken => false
  | .array _ items => itemsIntact items
  | .object _ fields => fieldsIntact fields
  | _ => true

/-- Whether no item holds a fault of form. -/
def itemsIntact : List Draft → Bool
  | [] => true
  | item :: items => item.isIntact && itemsIntact items

/-- Whether no field holds a fault of form. -/
def fieldsIntact : List (Option String × Draft) → Bool
  | [] => true
  | (_, field) :: fields => field.isIntact && fieldsIntact fields

end

mutual

/-- The JSON value that a draft holds, if it is one: every string is a text, every number is in
range, and nothing nests too deep. -/
def Draft.json? : Draft → Option Json
  | .broken => none
  | .null => some .null
  | .bool value => some (.bool value)
  | .number literal => literal.number?.map .number
  | .string value => value.map .string
  | .array depth items => if depth ≤ depthLimit then (itemsJson? items).map .array else none
  | .object depth fields => if depth ≤ depthLimit then (fieldsJson? fields).map .object else none

/-- The JSON values of some items. -/
def itemsJson? : List Draft → Option (List Json)
  | [] => some []
  | item :: items => do return (← item.json?) :: (← itemsJson? items)

/-- The JSON values of some fields. -/
def fieldsJson? : List (Option String × Draft) → Option (List (String × Json))
  | [] => some []
  | (name, field) :: fields => do return (← name, ← field.json?) :: (← fieldsJson? fields)

end

namespace Decoder

variable {α β : Type}

/-- The value of an option, whose absence is a fault of form. -/
def require : Option α → Except Fault α
  | some value => .ok value
  | none => .error .malformed

/-- Any JSON value. -/
def json : Decoder Json := fun draft => require draft.json?

/-- A text. -/
def text : Decoder String
  | .string value => require value
  | _ => .error .malformed

/-- A natural number of 64 bits. -/
def natural : Decoder UInt64
  | .number literal =>
    match literal.number? with
    | some (.integer value) =>
      if value ≥ 0 then .ok (UInt64.ofNat value.toNat) else .error .malformed
    | _ => .error .malformed
  | _ => .error .malformed

/-- A double; an integer is one as well. -/
def double : Decoder Float
  | .number literal =>
    match literal.number? with
    | some (.integer value) => .ok (Float.ofInt value)
    | some (.real value) => .ok value
    | none => .error .malformed
  | _ => .error .malformed

/-- A truth value. -/
def bool : Decoder Bool
  | .bool value => .ok value
  | _ => .error .malformed

/-- An array of values of one kind. -/
def list (item : Decoder α) : Decoder (List α)
  | .array depth items => if depth ≤ depthLimit then items.mapM item else .error .malformed
  | _ => .error .malformed

/-- An array of two values. -/
def pair (first : Decoder α) (second : Decoder β) : Decoder (α × β)
  | .array depth (left :: rest) => do
    if depth > depthLimit then throw .malformed
    let left ← first left
    match rest with
    | [] => throw .malformed
    | right :: rest =>
      let right ← second right
      if rest.isEmpty then return (left, right) else throw .malformed
  | _ => .error .malformed

/-- An object whose fields are named values of one kind; a repeated name means its last value. -/
def table (field : Decoder α) : Decoder (List (String × α))
  | .object depth fields => do
    if depth > depthLimit then throw .malformed
    let fields ← fields.mapM fun (name, draft) => do return (← require name, ← field draft)
    return mergeFields fields
  | _ => .error .malformed

end Decoder

/-- One field of a record that is built up in a value of type `σ`. -/
structure Field (σ : Type) where
  name : String
  optional : Bool
  isSet : σ → Bool
  read : Draft → σ → Except Fault σ

/-- A field that is kept in one place of the value built up. -/
def Field.of {σ α : Type} (name : String) (optional : Bool) (get : σ → Option α)
    (set : α → σ → σ) (decode : Decoder α) : Field σ where
  name
  optional
  isSet built := (get built).isSome
  read draft built := do return set (← decode draft) built

namespace Decoder

variable {σ α : Type}

/-- The value built up, after the next field of an object. -/
def readField (fields : List (Field σ)) (built : σ) (entry : Option String × Draft) :
    Except Fault σ := do
  let name ← require entry.1
  match fields.find? (·.name == name) with
  | some field => if field.isSet built then throw .malformed else field.read entry.2 built
  | none => if entry.2.isIntact then return built else throw .malformed

/-- The value built up, after the items of an array that stand for fields in their order. -/
def readInOrder : List (Field σ) → List Draft → σ → Except Fault σ
  | [], [], built => .ok built
  | [], _ :: _, _ => .error .malformed
  | field :: fields, [], built =>
    if field.optional then readInOrder fields [] built else .error .malformed
  | field :: fields, item :: items, built => do
    readInOrder fields items (← field.read item built)

/-- A record: `blank` has no field set, and `build` fails where a field is missing that must be
there. -/
def record (fields : List (Field σ)) (blank : σ) (build : σ → Option α) : Decoder α
  | .object depth entries => do
    if depth > depthLimit then throw .malformed
    require (build (← entries.foldlM (readField fields) blank))
  | .array depth items => do
    if depth > depthLimit then throw .malformed
    require (build (← readInOrder fields items blank))
  | _ => .error .malformed

/-- What a decoder finds in a whole source; what follows the value must be blank. -/
def run (decode : Decoder α) (source : List Text.Symbol) : Except Fault α := do
  let (draft, ends) := Json.draft source
  let value ← decode draft
  if ends then return value else throw .malformed

/-- What a decoder finds in a whole text. -/
def runText (decode : Decoder α) (text : String) : Except Fault α :=
  run decode (Text.symbolsOfText text)

end Decoder

end MotifVote.Json
