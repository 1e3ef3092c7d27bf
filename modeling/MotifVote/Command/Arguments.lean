/-!
# Arguments

How the words of a command line are taken apart: options with their values, and operands. A long
option follows two dashes, and its value follows an equals sign or is the next word. Short options
follow one dash, several of them together; the value of the last one follows at once, behind an
equals sign, or is the next word. A word that starts with a dash is the value of an option only
behind an equals sign or at once behind the letter; a single dash is a word like any other. Behind
two dashes alone all words are operands.
-/

namespace MotifVote

/-- How many values an option has. -/
inductive OptionKind where
  /-- None: the option is there or not. -/
  | switch
  | single
  /-- One for each use. -/
  | repeated
  deriving DecidableEq, Repr

/-- An option of a command line. -/
structure OptionForm where
  name : String
  letter : Option Char
  kind : OptionKind
  deriving Repr

/-- What has been found on a command line: options with their values, where a switch has the empty
one, and operands. -/
structure Arguments where
  options : List (String × String)
  operands : List String
  deriving Repr

namespace Arguments

/-- What a single word is. -/
inductive Word where
  | operand
  /-- Behind this word there are operands only. -/
  | endOfOptions
  | options (found : List (String × String))
  /-- Options, and one more that takes the next word as its value. -/
  | optionsUpTo (found : List (String × String)) (name : String)
  | unknown

/-- A word of short options, one of them in front of the others. -/
def Word.withOption (option : String × String) : Word → Word
  | .options found => .options (option :: found)
  | .optionsUpTo found name => .optionsUpTo (option :: found) name
  | word => word

/-- A long option, behind its dashes. -/
def longWord (forms : List OptionForm) (chars : List Char) : Word :=
  let name := String.ofList (chars.takeWhile (· != '='))
  let value :=
    match chars.dropWhile (· != '=') with
    | [] => none
    | _ :: value => some (String.ofList value)
  match forms.find? (·.name == name) with
  | none => .unknown
  | some form =>
    match form.kind, value with
    | .switch, none => .options [(name, "")]
    | .switch, some _ => .unknown
    | _, some value => .options [(name, value)]
    | _, none => .optionsUpTo [] name

/-- Short options, behind their dash. -/
def shortWord (forms : List OptionForm) : List Char → Word
  | [] => .options []
  | letter :: rest =>
    match forms.find? (·.letter == some letter) with
    | none => .unknown
    | some form =>
      match form.kind, rest with
      | .switch, rest => (shortWord forms rest).withOption (form.name, "")
      | _, [] => .optionsUpTo [] form.name
      | _, '=' :: value => .options [(form.name, String.ofList value)]
      | _, value => .options [(form.name, String.ofList value)]

/-- What a word is. -/
def wordOf (forms : List OptionForm) (text : String) : Word :=
  match text.toList with
  | ['-', '-'] => .endOfOptions
  | '-' :: '-' :: rest => longWord forms rest
  | '-' :: letter :: rest => shortWord forms (letter :: rest)
  | _ => .operand

/-- Whether a word is an operand or can be the value of the option before it. -/
def isPlain (text : String) : Bool :=
  match text.toList with
  | '-' :: _ :: _ => false
  | _ => true

/-- Arguments with more options in front. -/
def withOptions (options : List (String × String)) (arguments : Arguments) : Arguments :=
  { arguments with options := options ++ arguments.options }

/-- Takes words apart. Up to a command, the first operand ends the search and stays among the words
that are left; otherwise all words are taken. -/
def scan (forms : List OptionForm) (upToCommand : Bool) :
    List String → Option (Arguments × List String)
  | [] => some (⟨[], []⟩, [])
  | text :: rest =>
    match wordOf forms text, rest with
    | .operand, rest =>
      if upToCommand then some (⟨[], []⟩, text :: rest)
      else (scan forms upToCommand rest).map fun (arguments, left) =>
        ({ arguments with operands := text :: arguments.operands }, left)
    | .endOfOptions, rest => if upToCommand then none else some (⟨[], rest⟩, [])
    | .options found, rest =>
      (scan forms upToCommand rest).map fun (arguments, left) =>
        (arguments.withOptions found, left)
    | .optionsUpTo found name, value :: rest =>
      if isPlain value then
        (scan forms upToCommand rest).map fun (arguments, left) =>
          (arguments.withOptions (found ++ [(name, value)]), left)
      else none
    | .optionsUpTo _ _, [] => none
    | .unknown, _ => none

/-- The values of an option, in the order of its uses. -/
def values (arguments : Arguments) (name : String) : List String :=
  (arguments.options.filter (·.1 == name)).map (·.2)

/-- Whether an option is used. -/
def has (arguments : Arguments) (name : String) : Bool := !(arguments.values name).isEmpty

/-- Whether only options that may be repeated are. -/
def isWellUsed (forms : List OptionForm) (arguments : Arguments) : Bool :=
  forms.all fun form => form.kind == .repeated || (arguments.values form.name).length ≤ 1

/-- The value of an option, if it is used; `read` must accept it. -/
def optional {α : Type} (arguments : Arguments) (name : String) (read : String → Option α) :
    Option (Option α) :=
  match (arguments.values name).head? with
  | none => some none
  | some value => (read value).map some

/-- The value of an option that has a default. -/
def withDefault {α : Type} (arguments : Arguments) (name : String) (read : String → Option α)
    (default : α) : Option α :=
  (arguments.optional name read).map (·.getD default)

/-- The values between the commas of all uses of an option. -/
def lists {α : Type} (arguments : Arguments) (name : String) (read : String → Option α) :
    Option (List α) :=
  ((arguments.values name).flatMap (·.splitOn ",")).mapM read

end Arguments

end MotifVote
