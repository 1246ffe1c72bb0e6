import LuaStubs.Api.Document
import LuaStubs.Api.Endpoint
import LuaStubs.Api.Operation
import LuaStubs.Attempt
import LuaStubs.Json.Writer

/-!
# Resolving a document

Resolution turns the declarations of a document into endpoints and definitions.
References are followed one step, body parameters with an object schema are
flattened into one parameter a property, and the parameters of a path item are
shared by its operations. An operation that cannot be resolved, or a definition
that is no schema, is left out with a reason and does not affect the others.
-/

namespace LuaStubs.Api

/-- How REST names are chosen and sessions are recognised. -/
structure Settings where
  /-- Beginnings that operation ids lose, in snake case. -/
  namespaceLeads : List String := ["nakama_", "satori_"]
  /-- The definition that marks an endpoint as returning a session. -/
  sessionDefinition : String := "apiSession"
  /-- The part of an operation id that marks an authentication endpoint whose responses have no
  schema. -/
  authenticateToken : String := "authenticate"
  deriving DecidableEq, Repr, Inhabited

/-! ## References -/

/-- What a reference to a definition starts with. -/
def definitionsPath : String := "#/definitions/"

/-- The name of the definition that a reference points to. -/
def referenceName (reference : String) : String :=
  match Text.dropLead? definitionsPath.toList reference.toList with
  | some rest => String.ofList rest
  | none => reference

namespace Document

/-- The definition that a schema refers to, with its name, if there is one. -/
def referenced? (d : Document) (s : Schema) : Option (String × Schema) := do
  let reference ← s.reference
  let schema ← d.definition? (referenceName reference)
  pure (referenceName reference, schema)

/-- The category of a type that may be missing. -/
def kindCategory : Option String → Category
  | some kind => Category.ofWireType kind
  | none => .composite

/-- The category of the values of a schema. A reference to an enumeration stands for a string, and
any other one for a composite value. -/
def category (d : Document) (s : Schema) : Category :=
  match s.reference with
  | some _ =>
    match d.referenced? s with
    | some (_, target) => if target.enumeration.isEmpty then .composite else .string
    | none => .composite
  | none => kindCategory s.kind

/-- The definition that a schema refers to, itself or for its items. -/
def schemaRef? (d : Document) (s : Schema) : Option Identifier :=
  ((d.referenced? s) <|> (s.items.bind d.referenced?)).map fun r => Identifier.ofName r.1

/-! ## Parameters -/

/-- A declared parameter as one flat parameter. -/
def flatParameter (p : ParameterDecl) (location : Location) (category : Category) : Parameter :=
  { name := p.name
    argument := Lua.argumentName p.name category
    location
    category
    description := p.description.getD ""
    required := p.required
    flattenedFrom := none }

/-- The flat parameter of a property of a body parameter's schema. -/
def propertyParameter (d : Document) (p : ParameterDecl) (object : Schema) (name : String)
    (property : Schema) : Parameter :=
  { name
    argument := Lua.argumentName name (d.category property)
    location := .body
    category := d.category property
    description := (property.summary <|> p.description).getD ""
    required := if object.required.isEmpty then p.required else name ∈ object.required
    flattenedFrom := some p.name }

/-- Whether a schema is an object with properties to flatten. -/
def isFlattened (object : Schema) : Bool :=
  (object.kind == none || object.kind == some "object") && !object.properties.isEmpty

/-- The flat parameters of a body parameter. -/
def bodyParameters (d : Document) (p : ParameterDecl) : List Parameter :=
  match p.schema with
  | none => [flatParameter p .body (kindCategory p.kind)]
  | some schema =>
    let object := ((d.referenced? schema).map Prod.snd).getD schema
    if isFlattened object then
      object.properties.map fun (name, property) => d.propertyParameter p object name property
    else [flatParameter p .body (d.category schema)]

/-- The flat parameters of a declared parameter; none if it travels elsewhere, such as in a
header. -/
def flatten (d : Document) (p : ParameterDecl) : List Parameter :=
  match Location.ofName? p.location with
  | some .body => d.bodyParameters p
  | some location => [flatParameter p location (kindCategory p.kind)]
  | none => []

/-- The parameters that the path item of `path` declares for all its operations. -/
def sharedParameters (d : Document) (path : String) :
    Except Json.ShapeFault (List ParameterDecl) :=
  match (d.paths.get? path).bind (Entries.get? "parameters") with
  | some raw => Json.Decoder.list ParameterDecl.decode raw
  | none => .ok []

/-- The shared parameters that an operation does not declare itself, then its own. -/
def mergeParameters (shared own : List ParameterDecl) : List ParameterDecl :=
  shared.filter (fun c => !own.any fun p => p.name == c.name && p.location == c.location) ++ own

/-! ## Responses -/

/-- The response declared under a key; none if the key is no status code. -/
def response? (d : Document) (key : String) (r : ResponseDecl) : Option Response :=
  (StatusCode.ofKey? key).map fun code =>
    { code
      description := r.description
      hasSchema := r.schema.isSome
      schemaRef := r.schema.bind d.schemaRef?
      category := (r.schema.map d.category).getD .composite }

/-! ## Endpoints -/

/-- Why an operation has no endpoint. -/
inductive EndpointFault where
  | shape (fault : Json.ShapeFault)
  /-- The operation has no id, or a blank one. -/
  | missingId
  deriving DecidableEq, Repr

/-- The wording of a fault. -/
def EndpointFault.message : EndpointFault → String
  | .shape fault => fault.message
  | .missingId => "missing operationId"

/-- The id of an operation, without its namespace; none if it is missing or blank. -/
def operationId? (settings : Settings) (o : Operation) : Option Identifier :=
  (o.id.filter fun id => !Text.isBlankText id.toList).map fun id =>
    (Identifier.ofName id).dropLeads settings.namespaceLeads

/-- The endpoint of an operation whose id and shared parameters are known. -/
def endpointOf (d : Document) (settings : Settings) (path : String) (method : Method)
    (o : Operation) (id : Identifier) (shared : List ParameterDecl) : Endpoint :=
  let responses := o.responses.filterMap fun (key, r) => d.response? key r
  let success := responses.filter fun r => r.code.isSuccess
  let session := Identifier.ofName settings.sessionDefinition
  let returnsSession := success.any fun r => r.schemaRef == some session
  { operationId := id
    method
    path
    summary := (o.summary <|> o.description).getD ""
    parameters := (mergeParameters shared o.parameters).flatMap d.flatten
    isAuthentication := returnsSession ||
      (!(success.any fun r => r.hasSchema) && id.contains (normalize settings.authenticateToken))
    returnsSession
    responses }

/-- The endpoint of the raw operation under a method of a path. -/
def endpoint (d : Document) (settings : Settings) (path : String) (method : Method)
    (raw : Json.Value) : Except EndpointFault Endpoint := do
  let o ← (Operation.decode raw).mapError .shape
  match operationId? settings o with
  | none => .error .missingId
  | some id =>
    let shared ← (d.sharedParameters path).mapError .shape
    .ok (d.endpointOf settings path method o id shared)

/-! ## Definitions -/

/-- The text of a value of an enumeration: a string as it is, and any other value as JSON. -/
def enumerationText : Json.Value → String
  | .string s => s
  | v => v.compact

/-- A property of a definition. -/
def property (d : Document) (name : String) (s : Schema) : Property :=
  { name
    argument := Lua.argumentName name (d.category s)
    category := d.category s
    description := s.summary.getD ""
    schemaRef := d.schemaRef? s }

/-- The definition of a name and a schema. -/
def definition (d : Document) (name : String) (s : Schema) : Definition :=
  { name := Identifier.ofName name
    rawName := name
    description := s.summary.getD ""
    properties := s.properties.map fun (key, p) => d.property key p
    enumeration := s.enumeration.map enumerationText }

/-! ## Whole documents -/

/-- The name of an operation in messages. -/
def operationName (method : Method) (path : String) : String := method.name ++ " " ++ path

/-- The endpoint of an operation, or the error about that operation. -/
def resolveEndpoint (d : Document) (settings : Settings) (path : String) (method : Method)
    (raw : Json.Value) : Except Error Endpoint :=
  (d.endpoint settings path method raw).mapError fun fault =>
    .malformedEntity .endpoint (operationName method path) fault.message

/-- The operations of the document in the order of declaration: paths with their methods and raw
values. Keys of a path item that are no methods declare nothing. -/
def operations (d : Document) : List (String × Method × Json.Value) :=
  d.paths.flatMap fun (path, item) =>
    item.filterMap fun (key, raw) => (Method.ofKey? key).map fun method => (path, method, raw)

/-- The endpoint of an operation, or the skip that stands for it. -/
def resolveOperation (d : Document) (settings : Settings)
    (operation : String × Method × Json.Value) : Except Error (Except Skip Endpoint) :=
  let (path, method, raw) := operation
  attempt .endpoint (operationName method path) (d.resolveEndpoint settings path method raw)

end Document

/-- What a document declares, and what of it is left out. -/
structure Resolved where
  endpoints : List Endpoint
  definitions : List Definition
  skipped : List Skip
  deriving DecidableEq, Repr, Inhabited

/-- Resolves all operations and definitions of a document. The skips of operations come before
those of definitions. -/
def Document.resolve (d : Document) (settings : Settings) : Except Error Resolved := do
  let attempts ← d.operations.mapM (d.resolveOperation settings)
  return {
    endpoints := successes attempts
    definitions := d.definitions.map fun (name, s) => d.definition name s
    skipped := failures attempts ++ d.rejected.map fun (name, fault) =>
      ⟨.definition, name, fault.message⟩ }

end LuaStubs.Api
