import LuaStubs.Entity
import LuaStubs.Files.Problem
import LuaStubs.Json.Fault

/-!
# Errors

An error is about one entity, which is then left out while all others are
generated, or it ends the run. `Error.message` words each cause.
-/

namespace LuaStubs

/-- What is wrong with an input document as a whole. -/
inductive DocumentProblem where
  | fault (fault : Json.Fault)
  | stated (text : String)
  deriving DecidableEq, Repr

/-- The wording of a problem with a document. -/
def DocumentProblem.message : DocumentProblem → String
  | fault f => f.message
  | stated text => text

/-- What is wrong with a manifest. The `kind` of an entry says which list it is in. -/
inductive ConfigProblem where
  | unreadable (path : String) (cause : Files.Problem)
  /-- The text is not in the form of a manifest. -/
  | unparsable
  /-- An entry has a blank name. -/
  | blankName (kind : EntityKind)
  /-- An entry has the name of an earlier one. -/
  | repeatedName (kind : EntityKind) (name : String)
  | blankSessionDefinition
  | stated (text : String)
  deriving DecidableEq, Repr

/-- The wording of a problem with a manifest. -/
def ConfigProblem.message : ConfigProblem → String
  | unreadable path cause => "failed to read manifest " ++ path ++ ": " ++ cause.message
  | unparsable => "failed to parse manifest"
  | blankName kind => kind.name ++ "s: entry with empty name"
  | repeatedName kind name => kind.name ++ "s: '" ++ name ++ "' listed more than once"
  | blankSessionDefinition => "rest.session_definition must not be empty"
  | stated text => text

/-- What is wrong with a template. -/
inductive TemplateProblem where
  /-- The template of that name does not exist, or needs something that the context lacks. -/
  | rendering (name : String)
  /-- The source for that name is no template. -/
  | registering (name : String)
  | unreadable (path : String) (cause : Files.Problem)
  | stated (text : String)
  deriving DecidableEq, Repr

/-- The wording of a problem with a template. -/
def TemplateProblem.message : TemplateProblem → String
  | rendering name => "Rendering '" ++ name ++ "' failed"
  | registering name => "Failed to register template '" ++ name ++ "'"
  | unreadable path cause => "Failed to read template override " ++ path ++ ": " ++ cause.message
  | stated text => text

/-- Why an entity is left out, or why a run ends. -/
inductive Error where
  | inputUnreadable (path : String)
  | invalidDocument (document : String) (problem : DocumentProblem)
  /-- The entity is not declared. -/
  | entityNotFound (kind : EntityKind) (name : String)
  /-- The entity is declared in a form that cannot be used. -/
  | malformedEntity (kind : EntityKind) (name reason : String)
  | template (problem : TemplateProblem)
  | config (problem : ConfigProblem)
  | outputFailed (path : String)
  | invalidArgument (text : String)
  deriving DecidableEq, Repr

namespace Error

/-- The wording of an error. -/
def message : Error → String
  | inputUnreadable path => "Unable to read input '" ++ path ++ "'"
  | invalidDocument document problem =>
    "Invalid document '" ++ document ++ "': " ++ problem.message
  | entityNotFound kind name => "Unable to find " ++ kind.name ++ " '" ++ name ++ "'"
  | malformedEntity kind name reason =>
    "Malformed " ++ kind.name ++ " '" ++ name ++ "': " ++ reason
  | template problem => "Template error: " ++ problem.message
  | config problem => "Configuration error: " ++ problem.message
  | outputFailed path => "Unable to write output '" ++ path ++ "'"
  | invalidArgument text => "Invalid argument: " ++ text

/-- The entity is not declared. -/
def isNotFound : Error → Bool
  | entityNotFound .. => true
  | _ => false

/-- The error is about one entity only. -/
def isEntityError : Error → Bool
  | entityNotFound .. => true
  | malformedEntity .. => true
  | _ => false

/-- The error ends the run. -/
def isFatal (e : Error) : Bool := !e.isEntityError

/-- The error is in the manifest. -/
def isConfigError : Error → Bool
  | config _ => true
  | _ => false

/-- The error is in a template. -/
def isTemplateError : Error → Bool
  | template _ => true
  | _ => false

/-- The error is in an input document. -/
def isInputError : Error → Bool
  | inputUnreadable _ => true
  | invalidDocument .. => true
  | _ => false

end Error

end LuaStubs
