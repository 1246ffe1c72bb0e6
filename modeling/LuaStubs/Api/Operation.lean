import LuaStubs.Api.Schema

/-!
# Operations as they are declared

An operation has parameters and responses. The decoders read them off JSON
values; a parameter has to have a name and a location, all else has a default.
-/

namespace LuaStubs.Api

open Json (Decoder RecordField ShapeFault decodeRecord takeMembers takeItems)

/-- A parameter as it is declared. -/
structure ParameterDecl where
  name : String
  /-- Where the parameter travels, in the document's words. -/
  location : String
  description : Option String
  required : Bool
  /-- The name of the type, of a parameter outside the body. -/
  kind : Option String
  /-- The schema, of a parameter in the body. -/
  schema : Option Schema
  deriving Inhabited, Repr

/-- A parameter under construction. -/
structure ParameterDecl.Draft where
  name : Option String := none
  location : Option String := none
  description : Option String := none
  required : Bool := false
  kind : Option String := none
  schema : Option Schema := none

namespace ParameterDecl

/-- The fields of a parameter, in the order of its array form. -/
def fields : List (RecordField Draft) :=
  [.of "name" .text fun v d => { d with name := some v },
   .of "in" .text fun v d => { d with location := some v },
   .of "description" (.optional .text) fun v d => { d with description := v },
   .of "required" .boolean fun v d => { d with required := v },
   .of "type" (.optional .text) fun v d => { d with kind := v },
   .of "schema" Schema.decodeOptional fun v d => { d with schema := v }]

/-- The parameter of a draft that has a name and a location. `lacking` is the fault of a draft
without them, by the position and key of the field. -/
def Draft.finish (lacking : Nat → String → ShapeFault) (d : Draft) :
    Except ShapeFault ParameterDecl :=
  match d.name, d.location with
  | none, _ => .error (lacking 0 "name")
  | some _, none => .error (lacking 1 "in")
  | some name, some location =>
    .ok ⟨name, location, d.description, d.required, d.kind, d.schema⟩

/-- Reads a parameter. -/
def decode : Decoder ParameterDecl
  | .object members => do
    (← takeMembers fields members {}).finish fun _ key => .missingField key
  | .array items => do
    let d ← takeItems fields items {}
    let p ← d.finish fun position _ => .tooFewItems position "Parameter" fields.length
    if items.length ≤ fields.length then .ok p else .error (.tooManyItems items.length)
  | v => .error (v.mismatch (.record "Parameter"))

end ParameterDecl

/-- A response as it is declared. -/
structure ResponseDecl where
  description : String := ""
  /-- The schema of the body. -/
  schema : Option Schema := none
  deriving Inhabited, Repr

/-- Reads a response. -/
def ResponseDecl.decode : Decoder ResponseDecl :=
  decodeRecord "Response"
    [.of "description" .text fun v r => { r with description := v },
     .of "schema" Schema.decodeOptional fun v r => { r with schema := v }]
    {}

/-- An operation as it is declared. -/
structure Operation where
  id : Option String := none
  summary : Option String := none
  description : Option String := none
  parameters : List ParameterDecl := []
  /-- The responses by their keys, in the order of declaration. -/
  responses : Entries ResponseDecl := []
  deriving Inhabited, Repr

/-- Reads an operation. -/
def Operation.decode : Decoder Operation :=
  decodeRecord "Operation"
    [.of "operationId" (.optional .text) fun v o => { o with id := v },
     .of "summary" (.optional .text) fun v o => { o with summary := v },
     .of "description" (.optional .text) fun v o => { o with description := v },
     .of "parameters" (.list ParameterDecl.decode) fun v o => { o with parameters := v },
     .of "responses" (.entries ResponseDecl.decode) fun v o => { o with responses := v }]
    {}

end LuaStubs.Api
