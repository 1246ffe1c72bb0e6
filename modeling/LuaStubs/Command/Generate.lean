import LuaStubs.Command.ExitCode
import LuaStubs.Generator
import LuaStubs.Manifest.Decode
import LuaStubs.Summary.Basic
import LuaStubs.Template.Override

/-!
# Generation commands

A command prepares a generator from its options, runs it and sums up the run.
`Outcome` has the three ways in which this ends: the module is written, the
manifest or an input document cannot be used, or something else fails.
-/

namespace LuaStubs.Command

/-- The options of a generation command. -/
structure Options where
  /-- The output file; without it the module goes to the standard output. -/
  output : Option String := none
  /-- The manifest that is used in place of the default. -/
  manifest : Option String := none
  /-- The directory with templates that replace built-in ones. -/
  templates : Option String := none
  deriving DecidableEq, Repr, Inhabited

/-- The part of a command in which it fails. -/
inductive Stage where
  | preparation
  | generation
  deriving DecidableEq, Repr

/-- What a command says about the stage in which it fails. -/
def Stage.message : Stage → String
  | .preparation => "failed to prepare generator"
  | .generation => "generation failed"

/-- How a command ends. -/
inductive Outcome where
  /-- The module is written. `printed` is what has been printed. -/
  | finished (summary : Summary) (printed : String)
  /-- The manifest or an input document cannot be used. -/
  | rejected (cause : Error)
  /-- Something else fails. -/
  | failed (stage : Stage) (cause : Error)
  deriving DecidableEq, Repr

/-- The exit code of a command. -/
def Outcome.exitCode : Outcome → ExitCode
  | finished .. => .success
  | rejected _ => .invalidInput
  | failed .. => .failure

variable {m : Type → Type} [Monad m] [Files.Access m]

/-- The generator for the options of a command. -/
def prepare (options : Options) (τ : Type := List Template.Node) [Template.Engine τ] :
    ExceptT Error m (Generator τ) := do
  let manifest ← match options.manifest with
    | some path => Manifest.load path
    | none => pure Manifest.default
  let templates ← match options.templates with
    | some directory => TemplateSet.ofDirectory directory τ
    | none => (TemplateSet.ofSources : Except Error (TemplateSet τ))
  Generator.ofManifest manifest templates

/-- Writes a module to the output file, or prints it if there is none. -/
def writeModule (options : Options) (content : String) : ExceptT Error m Unit :=
  match options.output with
  | some path => Files.writeOutput path content
  | none => Files.printOutput content

/-- What of a module is printed: all of it, unless there is an output file. -/
def printed (options : Options) (content : String) : String :=
  if options.output.isSome then "" else content

/-- Runs a command. -/
def generate (inputs : Inputs) (options : Options) (τ : Type := List Template.Node)
    [Template.Engine τ] : m Outcome := do
  match ← (prepare options τ).run with
  | .error e => return if e.isConfigError then .rejected e else .failed .preparation e
  | .ok generator =>
    match ← (generator.run inputs fun _ content => writeModule options content).run with
    | .error e => return if e.isInputError then .rejected e else .failed .generation e
    | .ok g =>
      return .finished (Summary.ofReport g.report options.output) (printed options g.content)

end LuaStubs.Command
