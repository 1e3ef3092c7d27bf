/-!
# TOML values

A document is a table of named values. Tables remember how they came about, because that decides
what may still be added to them:

* one that a header opens may not be opened again, and only its own lines add to it;
* one that is implied by the header of a table further down may still be opened by a header, once;
* one that a dotted key implies takes more dotted keys, but no header opens it;
* one that is written in braces is closed.

A list of tables that headers in double brackets make is always extended at its last table.
-/

namespace MotifVote

/-- How a table came about. -/
inductive TableOrigin where
  | header
  | implied
  | dotted
  | braces
  deriving DecidableEq, Repr

/-- A TOML value. Dates and times are kept as they are written. -/
inductive Toml where
  | string (value : String)
  | integer (value : Int)
  | float (value : Float)
  | bool (value : Bool)
  | moment (text : String)
  | array (items : List Toml)
  | table (origin : TableOrigin) (fields : List (String × Toml))
  /-- The tables under a header in double brackets, the last one first. -/
  | tables (members : List (List (String × Toml)))

namespace Toml

/-- The named values of a table. -/
abbrev Fields := List (String × Toml)

/-- Fields with the value of a known name replaced, or with a new name at the end. -/
def putField (fields : Fields) (name : String) (value : Toml) : Fields :=
  if fields.any (·.1 == name) then
    fields.map fun field => if field.1 == name then (name, value) else field
  else fields ++ [(name, value)]

/-- Changes the table at the end of a path. Tables that are missing on the way are implied, by dots
or by a header. Dots do not lead into tables that a header opened, and nothing leads into closed
values. -/
def changeAt (dots : Bool) (change : TableOrigin → Fields → Option Fields) :
    List String → TableOrigin → Fields → Option Fields
  | [], origin, fields => change origin fields
  | name :: path, _, fields =>
    match fields.lookup name with
    | none => do
      let origin : TableOrigin := if dots then .dotted else .implied
      let inner ← changeAt dots change path origin []
      return putField fields name (.table origin inner)
    | some (.table .braces _) => none
    | some (.table origin inner) =>
      if dots && origin == .header then none
      else do
        let inner ← changeAt dots change path origin inner
        return putField fields name (.table origin inner)
    | some (.tables (last :: members)) => do
      let last ← changeAt dots change path .header last
      return putField fields name (.tables (last :: members))
    | some _ => none

/-- Gives a name of a table a value. Behind dots the table must be one that dots imply. -/
def addValue (behindDots : Bool) (name : String) (value : Toml) (origin : TableOrigin)
    (fields : Fields) : Option Fields :=
  if (origin == .dotted) != behindDots then none
  else if fields.any (·.1 == name) then none
  else some (fields ++ [(name, value)])

/-- Assigns a value to a dotted key of a table. -/
def assign (path : List String) (name : String) (value : Toml) (origin : TableOrigin)
    (fields : Fields) : Option Fields :=
  changeAt true (addValue (!path.isEmpty) name value) path origin fields

/-- Opens the table of a header in its parent. -/
def openTable (name : String) (_ : TableOrigin) (fields : Fields) : Option Fields :=
  match fields.lookup name with
  | none => some (fields ++ [(name, .table .header [])])
  | some (.table .implied inner) => some (putField fields name (.table .header inner))
  | some _ => none

/-- Opens one more table under a header in double brackets. -/
def openMember (name : String) (_ : TableOrigin) (fields : Fields) : Option Fields :=
  match fields.lookup name with
  | none => some (fields ++ [(name, .tables [[]])])
  | some (.tables members) => some (putField fields name (.tables ([] :: members)))
  | some _ => none

end Toml

end MotifVote
