import MotifVote.Command.Arguments
import MotifVote.Learning

/-!
# Commands

What the program is asked to do, and how a command line says it. Options that all commands share
may stand in front of the name of the command and behind it; where both places give a value, the one
behind counts. A command line that is not of this form has no meaning.
-/

namespace MotifVote

/-- What the program is asked to do, with the paths of the files it works on. -/
inductive Command where
  /-- Store the graph document of a file. -/
  | ingest (file database : String)
  /-- Say what a store holds. -/
  | status (database : String)
  /-- Write the neighbourhoods of the positives of a store. -/
  | extract (input output : String) (distance : Option Float)
  /-- Evaluate motifs over the documents of a dataset. -/
  | evaluate (motifs dataset output : String)
  /-- Run active learning for some strategies; for all if none is given. -/
  | analyze (image dataset output : String) (strategies : List Strategy)
      (settings : LearningSettings Float)
  /-- Write the curve of a strategy. -/
  | curve (image dataset output : String) (strategy : Strategy)

/-- A command with what all commands share. -/
structure Invocation where
  /-- The path of the configuration, unless the default one is meant. -/
  config : Option String
  /-- Whether the outcome is reported in JSON. -/
  json : Bool
  command : Command

namespace Command

/-- A path is any text that is not empty. -/
def path? (text : String) : Option String := if text.isEmpty then none else some text

/-- A number is any numeral. -/
def number? (text : String) : Option Float := Decimal.parse? text.toList

/-- A count has at most 32 bits; it may have a sign. -/
def count? (text : String) : Option Nat :=
  let (negative, digits) :=
    match text.toList with
    | '-' :: digits => (true, digits)
    | '+' :: digits => (false, digits)
    | digits => (false, digits)
  let value := Decimal.digitsValue digits
  if digits.isEmpty || !digits.all Char.isDigit then none
  else if value ≥ UInt32.size || (negative && value > 0) then none
  else some value

/-- A strategy is named by any name that is close to its own. -/
def strategy? (text : String) : Option Strategy := (Strategy.ofName text).toOption

/-- The options that all commands share. -/
def sharedOptions : List OptionForm :=
  [⟨"verbose", some 'v', .switch⟩,
   ⟨"quiet", some 'q', .switch⟩,
   ⟨"config", some 'c', .single⟩,
   ⟨"json-mode", none, .switch⟩]

/-- How a command is written: its own options, and what the arguments mean. -/
structure Form where
  options : List OptionForm
  build : Arguments → Option Command

/-- The form of `ingest`. -/
def ingestForm : Form where
  options := [⟨"file", some 'f', .single⟩, ⟨"database", some 'D', .single⟩]
  build arguments :=
    match arguments.operands with
    | [] => do
      return .ingest (← ← arguments.optional "file" path?)
        (← ← arguments.optional "database" path?)
    | _ => none

/-- The form of `status`. -/
def statusForm : Form where
  options := [⟨"database", some 'D', .single⟩]
  build arguments :=
    match arguments.operands with
    | [] => do return .status (← ← arguments.optional "database" path?)
    | _ => none

/-- The form of `extract-neighborhoods`. -/
def extractForm : Form where
  options := [⟨"distance", some 'd', .single⟩]
  build arguments :=
    match arguments.operands with
    | [input, output] => do
      return .extract (← path? input) (← path? output) (← arguments.optional "distance" number?)
    | _ => none

/-- The form of `evaluate`. -/
def evaluateForm : Form where
  options := [⟨"output", some 'o', .single⟩]
  build arguments :=
    match arguments.operands with
    | [motifs, dataset] => do
      return .evaluate (← path? motifs) (← path? dataset)
        (← arguments.withDefault "output" path? "image.jsonl")
    | _ => none

/-- The settings of a run that arguments give. -/
def settings? (arguments : Arguments) : Option (LearningSettings Float) := do
  return {
    steps := ← arguments.withDefault "steps" count? LearningSettings.defaultSteps
    thresholds := ← arguments.lists "thresholds" number?
    beta := ← arguments.withDefault "beta" number? 1.0
    update := {
      learningRate := ← arguments.optional "learning-rate" number?
      decay := ← arguments.withDefault "decay" number? 1.0
      step := 0
      scale := ← arguments.withDefault "scale" number? 1.0 } }

/-- The form of `analyze`. -/
def analyzeForm : Form where
  options :=
    [⟨"ensemble", some 'e', .repeated⟩,
     ⟨"steps", some 's', .single⟩,
     ⟨"thresholds", some 't', .repeated⟩,
     ⟨"beta", some 'b', .single⟩,
     ⟨"learning-rate", none, .single⟩,
     ⟨"decay", none, .single⟩,
     ⟨"scale", none, .single⟩]
  build arguments :=
    match arguments.operands with
    | [image, dataset, output] => do
      return .analyze (← path? image) (← path? dataset) (← path? output)
        (← arguments.lists "ensemble" strategy?) (← settings? arguments)
    | _ => none

/-- The form of `curve`. -/
def curveForm : Form where
  options := [⟨"ensemble", some 'e', .single⟩]
  build arguments :=
    match arguments.operands with
    | [image, dataset, output] => do
      return .curve (← path? image) (← path? dataset) (← path? output)
        (← arguments.withDefault "ensemble" strategy? .majorityVote)
    | _ => none

/-- The forms of all commands by their names. -/
def forms : List (String × Form) :=
  [("ingest", ingestForm),
   ("status", statusForm),
   ("extract-neighborhoods", extractForm),
   ("evaluate", evaluateForm),
   ("analyze", analyzeForm),
   ("curve", curveForm)]

end Command

/-- What a command line asks for, if it has a meaning. -/
def Invocation.ofWords? (words : List String) : Option Invocation := do
  let shared := Command.sharedOptions
  let (before, rest) ← Arguments.scan shared true words
  let name :: rest := rest | none
  let form ← Command.forms.lookup name
  let (arguments, _) ← Arguments.scan (shared ++ form.options) false rest
  guard (before.isWellUsed shared && arguments.isWellUsed (shared ++ form.options))
  let early ← before.optional "config" Command.path?
  let late ← arguments.optional "config" Command.path?
  return {
    config := late <|> early
    json := before.has "json-mode" || arguments.has "json-mode"
    command := ← form.build arguments }

end MotifVote
