import LuaStubs.Command.Arguments

/-!
# Running the program

`run` takes the arguments of the program and what it needs of the environment,
and gives all that it prints with its exit code.
-/

namespace LuaStubs.Command

/-- What the program leaves behind when it ends. -/
structure Ending where
  exitCode : ExitCode
  /-- What has been printed. -/
  stdout : String := ""
  /-- What is still to be said of the run. -/
  stderr : String := ""
  deriving DecidableEq, Repr

/-- The version of the program. -/
def versionText : String := "stubgen 0.1.0\n"

/-- How to use the program. -/
def helpText : String :=
  String.join [
    "Lua client stub generator\n",
    "\n",
    "Usage: stubgen [OPTIONS] <COMMAND>\n",
    "\n",
    "Commands:\n",
    "  realtime <REALTIME> <API>  Generate the realtime socket module\n",
    "  rest <SWAGGER>             Generate the REST client module\n",
    "  completions <SHELL>        Generate shell completions\n",
    "  help [COMMAND]             Print this message\n",
    "\n",
    "Options of realtime and rest:\n",
    "  -o, --output <OUTPUT>              Output file (default: stdout)\n",
    "      --manifest <MANIFEST>          Manifest in place of the built-in lists\n",
    "      --template-dir <TEMPLATE_DIR>  Directory with template overrides\n",
    "\n",
    "Options:\n",
    "  -v, --verbose          Enable verbose logging\n",
    "      --format <FORMAT>  Run summary format: json, text or pretty\n",
    "  -h, --help             Print help\n",
    "  -V, --version          Print version\n"]

/-- What is said where the arguments cannot be used. -/
def misuseText : String :=
  "error: invalid arguments\n\nFor more information, try '--help'.\n"

/-- The script that completes the names of commands in a shell. -/
def completionScript (shell : Shell) : String :=
  let names := String.intercalate " " commandNames
  match shell with
  | .bash => "complete -W \"" ++ names ++ "\" stubgen\n"
  | .elvish =>
    "set edit:completion:arg-completer[stubgen] = \x7b|@words| put " ++ names ++ " \x7d\n"
  | .fish => "complete -c stubgen -f -a \"" ++ names ++ "\"\n"
  | .powershell =>
    "Register-ArgumentCompleter -Native -CommandName stubgen -ScriptBlock \x7b \"" ++ names ++
      "\".Split() \x7d\n"
  | .zsh => "compdef \"compadd " ++ names ++ "\" stubgen\n"

/-- The ending of arguments that are no request. -/
def Stop.ending : Stop → Ending
  | .help => { exitCode := .success, stdout := helpText }
  | .version => { exitCode := .success, stdout := versionText }
  | .misuse => { exitCode := .invalidInput, stderr := misuseText }

/-- The ending of a command, with the summary in a format. -/
def Outcome.ending (format : Format) (color : Bool) (outcome : Outcome) : Ending :=
  match outcome with
  | .finished summary printed =>
    { exitCode := outcome.exitCode
      stdout := printed
      stderr := format.write color summary.toJson ++ "\n" }
  | .rejected cause => { exitCode := outcome.exitCode, stderr := cause.message ++ "\n" }
  | .failed stage cause =>
    { exitCode := outcome.exitCode
      stderr := "Error: " ++ stage.message ++ "\n\nCaused by:\n    " ++ cause.message ++ "\n" }

/-- The ending of a run that cannot start. -/
def errorEnding (e : Error) : Ending :=
  { exitCode := .failure, stderr := "Error: " ++ e.message ++ "\n" }

variable {m : Type → Type} [Monad m] [Files.Access m]

/-- Prints what an ending has, if nothing has been printed yet. -/
def Ending.printed (e : Ending) : m Ending := do
  let _ ← (Files.Access.print e.stdout : m _)
  return e

/-- Does what a request asks for. -/
def Request.perform (color : Bool) (r : Request) (τ : Type := List Template.Node)
    [Template.Engine τ] : m Ending := do
  match Format.ofName r.format with
  | .error e => return errorEnding e
  | .ok format =>
    match r.action with
    | .completions shell => Ending.printed { exitCode := .success, stdout := completionScript shell }
    | .generate inputs options => return (← generate inputs options τ).ending format color

/-- Runs the program. `manifest` is the manifest that the environment names. -/
def run (color : Bool) (manifest : Option String) (arguments : List String)
    (τ : Type := List Template.Node) [Template.Engine τ] : m Ending :=
  match Request.ofArguments manifest arguments with
  | .ok r => r.perform color τ
  | .error stop => stop.ending.printed

end LuaStubs.Command
