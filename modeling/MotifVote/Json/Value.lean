/-!
# JSON values

A value as it is written: the fields of an object stand in text order, and a name may occur more
than once. Where a name must mean one thing, `Json.merged` keeps its last value in its first place.
-/

namespace MotifVote

/-- A JSON number: an integer of 64 bits, or a double. -/
inductive Number where
  | integer (value : Int)
  | real (value : Float)

/-- A JSON value. -/
inductive Json where
  | null
  | bool (value : Bool)
  | number (value : Number)
  | string (value : String)
  | array (items : List Json)
  | object (fields : List (String × Json))

namespace Json

/-- A list of named values with one more: a new name comes last, a known one gets the new value. -/
def putField {α : Type} (fields : List (String × α)) (name : String) (value : α) :
    List (String × α) :=
  if fields.any (·.1 == name) then
    fields.map fun field => if field.1 == name then (name, value) else field
  else fields ++ [(name, value)]

/-- Named values in which every name occurs once. -/
def mergeFields {α : Type} (fields : List (String × α)) : List (String × α) :=
  fields.foldl (fun merged field => putField merged field.1 field.2) []

mutual

/-- A value in which, at every level, each name occurs once. -/
def merged : Json → Json
  | .array items => .array (mergedItems items)
  | .object fields => .object (mergeFields (mergedFields fields))
  | other => other

/-- The items of an array, merged. -/
def mergedItems : List Json → List Json
  | [] => []
  | item :: items => item.merged :: mergedItems items

/-- The values of an object, merged. -/
def mergedFields : List (String × Json) → List (String × Json)
  | [] => []
  | (name, value) :: fields => (name, value.merged) :: mergedFields fields

end

end Json

end MotifVote
