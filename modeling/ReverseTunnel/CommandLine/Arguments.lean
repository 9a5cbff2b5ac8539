import ReverseTunnel.Text.Quoted
import ReverseTunnel.Text.Split

/-!
# Arguments of a command line

A command line is a row of arguments: options, which have names and may have values, and
operands. Options and operands may stand in any order. Arguments are read from the left, each
is checked when it is complete, and the first that does not fit ends the reading.
-/

namespace ReverseTunnel.CommandLine

open Text

/-- An option. -/
structure Opt where
  /-- Its name, behind two hyphens. -/
  name : String
  /-- The letter that may be used instead, behind one hyphen. -/
  letter : Option Char := none
  /-- Whether a value follows. -/
  takesValue : Bool := true
  /-- Whether it may be given more than once. -/
  repeats : Bool := false
  /-- Whether a value is allowed. -/
  allows : String → Bool := fun _ => true

/-- An operand. All operands must be given. -/
structure Operand where
  name : String
  /-- Whether a value is allowed. -/
  allows : String → Bool := fun _ => true

/-- What a row of arguments may hold. -/
structure Form where
  options : List Opt
  operands : List Operand := []

/-- How a command line does not fit. -/
inductive Misuse where
  | unknownArgument (argument : String)
  | missingValue (name : String)
  | needlessValue (name : String)
  | invalidValue (name value : String)
  | repeatedOption (name : String)
  | conflict (name other : String)
  | missingOperand (name : String)
  | unknownCommand (name : String)
  | missingCommand
  deriving DecidableEq, Repr

/-- The wording of the misuse. -/
def Misuse.message : Misuse → String
  | .unknownArgument argument => "unexpected argument " ++ quoted argument
  | .missingValue name => "a value is required for --" ++ name
  | .needlessValue name => "--" ++ name ++ " takes no value"
  | .invalidValue name value => "invalid value " ++ quoted value ++ " for " ++ name
  | .repeatedOption name => "--" ++ name ++ " cannot be used more than once"
  | .conflict name other => "--" ++ name ++ " cannot be used with --" ++ other
  | .missingOperand name => "missing argument <" ++ name ++ ">"
  | .unknownCommand name => "unknown command " ++ quoted name
  | .missingCommand => "a command is required"

/-- Why reading ends before the end. -/
inductive Stop where
  /-- Help is asked for. -/
  | help
  | misuse (misuse : Misuse)
  deriving DecidableEq, Repr

/-- What was given: options by name, and operands in order. -/
structure Given where
  options : List (String × String) := []
  operands : List String := []
  deriving DecidableEq, Repr

namespace Given

/-- Whether an option was given. -/
def has (g : Given) (name : String) : Bool := g.options.any (·.1 == name)

/-- The value of an option. -/
def value? (g : Given) (name : String) : Option String := g.options.lookup name

/-- All values of an option, in order. -/
def values (g : Given) (name : String) : List String :=
  (g.options.filter (·.1 == name)).map (·.2)

end Given

/-! ### Options -/

/-- An argument that is an option: it begins with a hyphen and has more than that. -/
def isOption (argument : String) : Bool :=
  match argument.toList with
  | '-' :: _ :: _ => true
  | _ => false

/-- The value of an option: its own one, or else the next argument, unless that is an option.
With it come the arguments behind. -/
def takeValue (opt : Opt) (own : Option String) (rest : List String) :
    Except Stop (String × List String) :=
  match own, rest with
  | some value, _ => .ok (value, rest)
  | none, value :: behind =>
    if isOption value then .error (.misuse (.missingValue opt.name)) else .ok (value, behind)
  | none, [] => .error (.misuse (.missingValue opt.name))

/-- Notes an option with its value, if it may be given here. -/
def note (given : Given) (opt : Opt) (value : String) : Except Stop Given :=
  if !opt.repeats && given.has opt.name then .error (.misuse (.repeatedOption opt.name))
  else if opt.takesValue && !opt.allows value then
    .error (.misuse (.invalidValue opt.name value))
  else .ok { given with options := given.options ++ [(opt.name, value)] }

/-- Reads an option that was found, with the value that came with it. -/
def readFound (given : Given) (opt : Opt) (own : Option String) (rest : List String) :
    Except Stop (Given × List String) := do
  if opt.takesValue then
    let (value, rest) ← takeValue opt own rest
    return (← note given opt value, rest)
  else if own.isSome then .error (.misuse (.needlessValue opt.name))
  else return (← note given opt "", rest)

/-- Reads an option behind two hyphens. A value may follow its name and an equals sign. -/
def readNamed (options : List Opt) (given : Given) (argument : List Char)
    (rest : List String) : Except Stop (Given × List String) :=
  let name := String.ofList (argument.takeWhile (· != '='))
  let own := (splitFirst '=' argument).map fun (_, value) => String.ofList value
  if name == "help" && own.isNone then .error .help
  else
    match options.find? (·.name == name) with
    | some opt => readFound given opt own rest
    | none => .error (.misuse (.unknownArgument (String.ofList ('-' :: '-' :: argument))))

/-- Reads an option behind one hyphen. A value may follow its letter, with an equals sign or
without. -/
def readLettered (options : List Opt) (given : Given) (letter : Char) (tail : List Char)
    (rest : List String) : Except Stop (Given × List String) :=
  if letter == 'h' then .error .help
  else
    match options.find? (·.letter == some letter) with
    | some opt =>
      let own := match tail with
        | [] => none
        | '=' :: value => some (String.ofList value)
        | value => some (String.ofList value)
      readFound given opt own rest
    | none => .error (.misuse (.unknownArgument (String.ofList ('-' :: letter :: tail))))

/-- Reads one option. -/
def readOption (options : List Opt) (given : Given) (argument : String) (rest : List String) :
    Except Stop (Given × List String) :=
  match argument.toList with
  | '-' :: '-' :: name => readNamed options given name rest
  | '-' :: letter :: tail => readLettered options given letter tail rest
  | _ => .error (.misuse (.unknownArgument argument))

/-! ### Rows of arguments -/

/-- Reads one operand, if another one is expected. -/
def readOperand (form : Form) (given : Given) (argument : String) : Except Stop Given :=
  match form.operands[given.operands.length]? with
  | none => .error (.misuse (.unknownArgument argument))
  | some operand =>
    if operand.allows argument then
      .ok { given with operands := given.operands ++ [argument] }
    else .error (.misuse (.invalidValue operand.name argument))

/-- Reads arguments up to their end, or up to an operand where none is expected. Behind two
hyphens alone every argument is an operand. `fuel` is at least the number of arguments. -/
def readRow (form : Form) : Nat → Given → List String → Except Stop (Given × List String)
  | 0, given, rest => .ok (given, rest)
  | _, given, [] => .ok (given, [])
  | fuel + 1, given, argument :: rest => do
    if argument == "--" then
      return (← rest.foldlM (readOperand form) given, [])
    else if isOption argument then
      let (given, rest) ← readOption form.options given argument rest
      readRow form fuel given rest
    else if form.operands.isEmpty then .ok (given, argument :: rest)
    else readRow form fuel (← readOperand form given argument) rest

/-- The first operand that is missing. -/
def missing? (form : Form) (given : Given) : Option Misuse :=
  (form.operands[given.operands.length]?).map fun operand => .missingOperand operand.name

/-- Reads a whole row of arguments. -/
def Form.read (form : Form) (arguments : List String) : Except Stop Given := do
  let (given, rest) ← readRow form arguments.length {} arguments
  match rest, missing? form given with
  | argument :: _, _ => .error (.misuse (.unknownArgument argument))
  | [], some misuse => .error (.misuse misuse)
  | [], none => .ok given

end ReverseTunnel.CommandLine
