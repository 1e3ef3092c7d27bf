import MotifVote.Name.Distance
import MotifVote.Scalar
import MotifVote.Text.LowerCase

/-!
# Closest names

Loosely spelled names are resolved against a fixed vocabulary: the candidate most similar to the
name is taken, if it is similar enough, and of equally similar ones the first.
-/

namespace MotifVote.Name

variable (α : Type) [Scalar α]

/-- The similarity of two texts without regard to case: one less the edit distance in parts of the
longer text, and one for two empty texts. -/
def similarity (left right : String) : α :=
  let left := Text.lower left
  let right := Text.lower right
  let longest := max left.length right.length
  if longest = 0 then 1
  else 1 - ((editDistance left right : Nat) : α) / ((longest : Nat) : α)

/-- Names less similar than three fifths do not match. -/
def cutoff : α := ((3 : Nat) : α) / ((5 : Nat) : α)

/-- The better of the best candidate so far and the next one, with its score. -/
def closer (name : String) (best : Option (String × α)) (candidate : String) :
    Option (String × α) :=
  let score := similarity α name candidate
  if score < cutoff α then best
  else match best with
    | none => some (candidate, score)
    | some (_, top) => if score > top then some (candidate, score) else best

/-- The candidate closest to a name, if any is close enough. -/
def closest? (name : String) (candidates : List String) : Option String :=
  (candidates.foldl (closer α name) none).map (·.1)

end MotifVote.Name
