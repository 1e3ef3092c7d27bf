import MotifVote.Motif.Filter
import MotifVote.Json.Decode
import MotifVote.Json.Printer

/-!
# Labels

How a filter is written in JSON: as an object with the required value of each kind. It may also be
read from a list of entries, each with an attribute kind and a value. Values other than texts are
taken as their JSON text if they are numbers or truth values; no other value can be required.

An object in which a kind is repeated requires its last value; a list in which a kind is repeated is
refused.
-/

namespace MotifVote.Filter

open Json (Decoder Fault)

/-- The text that a JSON value requires of an attribute of some kind. -/
def requiredValue (kind : String) : Json → Except MotifFault String
  | .string value => .ok value
  | .number value => .ok (String.ofList value.written)
  | .bool value => .ok (if value then "true" else "false")
  | value => .error (.notScalar kind value.merged.text)

/-- The predicates of some kinds with their values. -/
def requirements (entries : List (String × Json)) : Except MotifFault (List Predicate) :=
  entries.mapM fun (kind, value) => do return ⟨kind, ← requiredValue kind value⟩

/-- The named parts of an entry, of which two count and must not be repeated. -/
def entryOfFields? (fields : List (String × Json)) : Option (String × Json) :=
  match fields.filter (·.1 == "attribute"), fields.filter (·.1 == "value") with
  | [(_, .string kind)], [(_, value)] => some (kind, value)
  | _, _ => none

/-- An entry of a list: an object, or an array of its two parts. -/
def entry? : Json → Option (String × Json)
  | .object fields => entryOfFields? fields
  | .array [.string kind, value] => some (kind, value)
  | _ => none

/-- The entries of a label: the fields of an object, each kind once, or the entries of a list. -/
def entries? : Json → Option (List (String × Json))
  | .object fields => some (Json.mergeFields fields)
  | .array items => items.mapM entry?
  | _ => none

/-- The filter that a label describes. The label is read as a whole before anything of it is
refused. -/
def ofLabel (label : Json) : Except Fault Filter := do
  let entries ← Decoder.require (entries? label)
  let predicates ← (requirements entries).mapError fun fault => .refused (.motif fault)
  (ofPredicates predicates).mapError fun fault => .refused (.motif fault)

/-- A filter is read from its label. -/
def decoder : Decoder Filter := fun draft => do ofLabel (← Decoder.json draft)

/-- A filter as a JSON object. -/
def toJson (filter : Filter) : Json :=
  .object (filter.predicates.map fun predicate => (predicate.kind, .string predicate.value))

end MotifVote.Filter
