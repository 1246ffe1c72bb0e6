import LuaStubs.Command.Generate
import LuaStubs.Summary.Format
import LuaStubs.Text.Search

/-!
# Command line arguments

`Request.ofArguments` reads the arguments of the program. Options may stand
before and behind the name of a command and between its operands; what follows
`--` is operands only. Arguments are read from left to right, and the first that
cannot be used, or that asks for help or for the version, decides.
-/

namespace LuaStubs.Command

/-- A shell for which there is a completion script. -/
inductive Shell where
  | bash
  | elvish
  | fish
  | powershell
  | zsh
  deriving DecidableEq, Repr

/-- The name of a shell. -/
def Shell.name : Shell → String
  | .bash => "bash"
  | .elvish => "elvish"
  | .fish => "fish"
  | .powershell => "powershell"
  | .zsh => "zsh"

/-- The shells. -/
def Shell.all : List Shell := [.bash, .elvish, .fish, .powershell, .zsh]

/-- What the program is asked to do. -/
inductive Action where
  | generate (inputs : Inputs) (options : Options)
  | completions (shell : Shell)
  deriving DecidableEq, Repr

/-- What the arguments of the program ask for. -/
structure Request where
  action : Action
  /-- The name of the format of the summary. -/
  format : String
  verbose : Bool
  deriving DecidableEq, Repr

/-- Why arguments are no request. -/
inductive Stop where
  | help
  | version
  /-- The arguments cannot be used. -/
  | misuse
  deriving DecidableEq, Repr

/-! ## Options -/

/-- An option of the command line. -/
inductive Switch where
  | help
  | version
  | verbose
  | format
  | output
  | manifest
  | templateDirectory
  deriving DecidableEq, Repr

namespace Switch

/-- The name of an option, as it follows two dashes. -/
def name : Switch → String
  | help => "help"
  | version => "version"
  | verbose => "verbose"
  | format => "format"
  | output => "output"
  | manifest => "manifest"
  | templateDirectory => "template-dir"

/-- The letter of an option, as it follows one dash. -/
def letter? : Switch → Option Char
  | help => some 'h'
  | version => some 'V'
  | verbose => some 'v'
  | output => some 'o'
  | _ => none

/-- Whether an option has a value. -/
def hasValue : Switch → Bool
  | help => false
  | version => false
  | verbose => false
  | _ => true

/-- Whether the value of an option may be empty. Paths may not. -/
def mayBeEmpty : Switch → Bool
  | format => true
  | _ => false

end Switch

/-! ## Arguments of one command -/

/-- What may be given with a command: its options, and how many operands it has. -/
structure Form where
  switches : List Switch
  operands : Nat

/-- What has been given with a command. -/
structure Given where
  switches : List Switch := []
  values : List (Switch × String) := []
  operands : List String := []
  deriving Inhabited

namespace Given

/-- Takes in an option without a value. -/
def addSwitch (g : Given) (s : Switch) : Except Stop Given :=
  match s with
  | .help => .error .help
  | .version => .error .version
  | s => if s ∈ g.switches then .error .misuse else .ok { g with switches := s :: g.switches }

/-- Takes in an option with its value. It may be given once. -/
def addValue (g : Given) (s : Switch) (value : String) : Except Stop Given :=
  if (g.values.lookup s).isSome ∨ (value.isEmpty ∧ !s.mayBeEmpty) then .error .misuse
  else .ok { g with values := (s, value) :: g.values }

/-- Takes in an operand. -/
def addOperand (form : Form) (g : Given) (operand : String) : Except Stop Given :=
  if operand.isEmpty ∨ form.operands ≤ g.operands.length then .error .misuse
  else .ok { g with operands := g.operands ++ [operand] }

end Given

/-- Whether an argument is an option or the end of all options. A single dash is neither. -/
def isOption (argument : String) : Bool :=
  match argument.toList with
  | '-' :: _ :: _ => true
  | _ => false

/-- The name of an option and the value behind an equals sign, if there is one. -/
def splitValue (s : List Char) : String × Option String :=
  match Text.splitAt? ['='] s with
  | some (name, value) => (String.ofList name, some (String.ofList value))
  | none => (String.ofList s, none)

/-- What an option is followed by: nothing more, or a value in the next argument. -/
inductive Need where
  | nothing (g : Given)
  | value (g : Given) (s : Switch)

/-- Reads an option by its name. -/
def readNamed (form : Form) (g : Given) (s : List Char) : Except Stop Need :=
  let (name, value) := splitValue s
  match form.switches.find? fun s => s.name == name, value with
  | none, _ => .error .misuse
  | some s, none => if s.hasValue then .ok (.value g s) else (g.addSwitch s).map .nothing
  | some s, some value => if s.hasValue then (g.addValue s value).map .nothing else .error .misuse

/-- Reads options by their letters. One that has a value is the last, and the value may follow it,
with or without an equals sign. -/
def readLetters (form : Form) (g : Given) : List Char → Except Stop Need
  | [] => .ok (.nothing g)
  | c :: cs =>
    match form.switches.find? fun s => s.letter? == some c with
    | none => .error .misuse
    | some s =>
      if s.hasValue then
        match cs with
        | [] => .ok (.value g s)
        | '=' :: value => (g.addValue s (String.ofList value)).map .nothing
        | value => (g.addValue s (String.ofList value)).map .nothing
      else
        match g.addSwitch s with
        | .ok g => readLetters form g cs
        | .error e => .error e

/-- Reads an argument that is an option. -/
def readOption (form : Form) (g : Given) (argument : String) : Except Stop Need :=
  match argument.toList with
  | '-' :: '-' :: name => readNamed form g name
  | '-' :: letters => readLetters form g letters
  | _ => .error .misuse

/-- Reads the arguments of a command. -/
def readArguments (form : Form) (g : Given) : List String → Except Stop Given
  | [] => .ok g
  | argument :: rest =>
    if argument = "--" then rest.foldlM (Given.addOperand form) g
    else if isOption argument then
      match readOption form g argument, rest with
      | .error e, _ => .error e
      | .ok (.nothing g), rest => readArguments form g rest
      | .ok (.value _ _), [] => .error .misuse
      | .ok (.value g s), value :: rest =>
        if isOption value then .error .misuse
        else
          match g.addValue s value with
          | .ok g => readArguments form g rest
          | .error e => .error e
    else
      match g.addOperand form argument with
      | .ok g => readArguments form g rest
      | .error e => .error e

/-! ## Arguments of the program -/

/-- The options that may stand before and behind the name of a command. -/
def commonSwitches : List Switch := [.help, .verbose, .format]

/-- What may stand before the name of a command. -/
def programForm : Form := ⟨.version :: commonSwitches, 0⟩

/-- What may be given with a generation command. -/
def generationForm (operands : Nat) : Form :=
  ⟨[.output, .manifest, .templateDirectory] ++ commonSwitches, operands⟩

/-- What may be given with the command that prints a completion script. -/
def completionsForm : Form := ⟨commonSwitches, 1⟩

/-- The names of the commands. -/
def commandNames : List String := ["realtime", "rest", "completions", "help"]

/-- The format of a summary where none is asked for. -/
def defaultFormat : String := Format.default.name

/-- The request of what has been given before and behind the name of a command. What stands behind
it counts more. -/
def request (before behind : Given) (action : Action) : Request where
  action
  format :=
    ((behind.values.lookup .format) <|> (before.values.lookup .format)).getD defaultFormat
  verbose := .verbose ∈ before.switches ++ behind.switches

/-- The options of a generation command. The manifest may come from the environment. -/
def generationOptions (manifest : Option String) (g : Given) : Except Stop Options :=
  let options : Options :=
    { output := g.values.lookup .output
      manifest := (g.values.lookup .manifest) <|> manifest
      templates := g.values.lookup .templateDirectory }
  if options.manifest = some "" then .error .misuse else .ok options

/-- Reads the arguments of a generation command with the given number of operands. -/
def readGeneration (before : Given) (manifest : Option String) (operands : Nat)
    (inputs? : List String → Option Inputs) (arguments : List String) : Except Stop Request := do
  let given ← readArguments (generationForm operands) {} arguments
  match inputs? given.operands with
  | none => .error .misuse
  | some inputs =>
    return request before given (.generate inputs (← generationOptions manifest given))

/-- Reads the arguments of the command that prints a completion script. -/
def readCompletions (before : Given) (arguments : List String) : Except Stop Request := do
  let given ← readArguments completionsForm {} arguments
  match given.operands with
  | [shell] =>
    match Shell.all.find? fun s => s.name == shell with
    | some s => return request before given (.completions s)
    | none => .error .misuse
  | _ => .error .misuse

/-- Reads the name of a command and the arguments behind it. -/
def readCommand (before : Given) (manifest : Option String) (name : String)
    (arguments : List String) : Except Stop Request :=
  match name with
  | "realtime" =>
    readGeneration before manifest 2
      (fun | [realtime, api] => some (.realtime realtime api) | _ => none) arguments
  | "rest" =>
    readGeneration before manifest 1 (fun | [document] => some (.rest document) | _ => none)
      arguments
  | "completions" => readCompletions before arguments
  | "help" =>
    match arguments with
    | [] => .error .help
    | [command] => .error (if command ∈ commandNames then .help else .misuse)
    | _ => .error .misuse
  | _ => .error .misuse

/-- Reads the options before the name of a command, and then the command. -/
def readProgram (manifest : Option String) (before : Given) : List String → Except Stop Request
  | [] => .error .misuse
  | argument :: rest =>
    if isOption argument then
      match readOption programForm before argument, rest with
      | .error e, _ => .error e
      | .ok (.nothing g), rest => readProgram manifest g rest
      | .ok (.value _ _), [] => .error .misuse
      | .ok (.value g s), value :: rest =>
        if isOption value then .error .misuse
        else
          match g.addValue s value with
          | .ok g => readProgram manifest g rest
          | .error e => .error e
    else readCommand before manifest argument rest

/-- The request of the arguments of the program. `manifest` is the manifest that the environment
names. -/
def Request.ofArguments (manifest : Option String) (arguments : List String) :
    Except Stop Request :=
  readProgram manifest {} arguments

end LuaStubs.Command
