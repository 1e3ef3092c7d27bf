import MotifVote.Name.Closest
import MotifVote.Scalar.Double
import MotifVote.Error

/-!
# Names of splits and of strategies

The two vocabularies of the program, and how loosely spelled names are resolved against them.
-/

namespace MotifVote

/-- A part of a dataset. -/
inductive Split where
  | train
  | test
  | validate
  deriving DecidableEq, Repr

namespace Split

/-- The splits, in the order in which their names are tried. -/
def all : List Split := [.train, .test, .validate]

/-- The name of a split. -/
def name : Split → String
  | .train => "train"
  | .test => "test"
  | .validate => "validate"

/-- The split whose name is closest to the one given. -/
def ofName (given : String) : Except Refusal Split :=
  let closest := Name.closest? Float given (all.map name)
  match closest.bind fun found => all.find? (·.name == found) with
  | some split => .ok split
  | none => .error (.unknownSplit given)

end Split

/-- A way to combine the selections of motifs. -/
inductive Strategy where
  | disjunction
  | majorityVote
  | weightedVote
  deriving DecidableEq, Repr

namespace Strategy

/-- The strategies, in the order in which they are tried and run. -/
def all : List Strategy := [.disjunction, .majorityVote, .weightedVote]

/-- The name of a strategy. -/
def name : Strategy → String
  | .disjunction => "disjunction"
  | .majorityVote => "majority-vote"
  | .weightedVote => "weighted-vote"

/-- The strategy whose name is closest to the one given. -/
def ofName (given : String) : Except Error Strategy :=
  let closest := Name.closest? Float given (all.map name)
  match closest.bind fun found => all.find? (·.name == found) with
  | some strategy => .ok strategy
  | none => .error (.unknownEnsemble given)

end Strategy

end MotifVote
