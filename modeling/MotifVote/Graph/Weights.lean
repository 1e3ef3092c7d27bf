import MotifVote.Scalar
import MotifVote.Error
import Std.Data.TreeMap

/-!
# Edge weights

Weights bound how far a traversal goes. A label has the weight given for it; else the weight given
for its namespace, the part before the first colon; else the default weight. All weights are finite
and positive.
-/

namespace MotifVote

variable {α : Type} [Scalar α]

/-- Weights for labels and for namespaces of labels. -/
structure EdgeWeights (α : Type) where
  given : Std.TreeMap String α
  default : α

namespace EdgeWeights

/-- Refuses a weight that is not finite and positive. -/
def check (label : String) (weight : α) : Except SettingFault Unit :=
  if Scalar.isFinite weight && weight > 0 then .ok ()
  else .error (.weight label (Scalar.text weight))

/-- The table of some weights; the default weight is checked first, then the others in the order of
their labels. -/
def make (given : Std.TreeMap String α) (default : α) : Except SettingFault (EdgeWeights α) := do
  check "edge_weight_default" default
  given.toList.forM fun (label, weight) => check label weight
  return ⟨given, default⟩

/-- The part of a label before its first colon, if it has one. -/
def namespace? (label : String) : Option String :=
  if label.toList.contains ':' then some (String.ofList (label.toList.takeWhile (· != ':')))
  else none

/-- The weight of an edge with a label. -/
def weight (weights : EdgeWeights α) (label : String) : α :=
  match weights.given[label]? with
  | some weight => weight
  | none => ((namespace? label).bind fun name => weights.given[name]?).getD weights.default

end EdgeWeights

end MotifVote
