import MotifVote.Command.Run

/-!
# The program

Runs the command line it is called with on the files of the machine.
-/

namespace MotifVote

/-- The result of an operation on the files of the machine. -/
def caught {α : Type} (operation : IO α) : IO (Except String α) := do
  match ← operation.toBaseIO with
  | .ok value => return .ok value
  | .error reason => return .error (toString reason)

instance : Disk IO where
  read path := caught (IO.FS.readBinFile path)
  write path content := caught (IO.FS.writeBinFile path content)
  makeDirectories path := caught (IO.FS.createDirAll path)

/-- How the program is called. -/
def usage : String :=
  "usage: motif-vote [-v] [-q] [-c CONFIG] [--json-mode] COMMAND ...\n" ++
  "commands:\n" ++
  "  ingest -f FILE -D DATABASE\n" ++
  "  status -D DATABASE\n" ++
  "  extract-neighborhoods INPUT OUTPUT [-d DISTANCE]\n" ++
  "  evaluate MOTIFS DATA [-o OUTPUT]\n" ++
  "  analyze IMAGE DATA OUTPUT [-e ENSEMBLES] [-s STEPS] [-t THRESHOLDS] [-b BETA]\n" ++
  "          [--learning-rate RATE] [--decay DECAY] [--scale SCALE]\n" ++
  "  curve IMAGE DATA OUTPUT [-e ENSEMBLE]\n"

/-- Prints what the command says, or what is wrong. -/
def runWords (words : List String) : IO UInt32 := do
  match Invocation.ofWords? words with
  | none =>
    IO.eprint usage
    return 2
  | some invocation =>
    match ← invocation.run.run with
    | .ok text =>
      IO.print text
      return 0
    | .error error =>
      IO.eprintln ("Error: " ++ error.message)
      return 1

end MotifVote

/-- Runs the command line. -/
def main (words : List String) : IO UInt32 := MotifVote.runWords words
