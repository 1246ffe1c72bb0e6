import LuaStubs.Api.Endpoint
import LuaStubs.Json.Value
import LuaStubs.Lua.Comment
import LuaStubs.Lua.Literal
import LuaStubs.Text.Quoted

/-!
# Contexts of the REST templates

Everything that a REST template prints is worked out here. An endpoint's body is
either one value (`EndpointContext.bodyValue`) or a table of fields; a body
parameter that was not flattened is the value if it is the only one.
-/

namespace LuaStubs.Rest

open Api (Definition Endpoint Parameter Property)
open Json (Value)

/-! ## Arguments -/

/-- A parameter, as an argument of the function that calls its endpoint. -/
structure ArgumentContext where
  /-- The name on the wire. -/
  name : String
  /-- The name of the argument. -/
  argument : String
  luaType : String
  /-- The description as the rest of a comment line. -/
  description : String
  /-- The Lua expression that has to hold of the argument. -/
  assertion : String
  /-- What the assertion asks for, in words. -/
  expectation : String
  /-- The Lua pattern of the parameter's place in a path. -/
  placeholder : String
  deriving DecidableEq, Repr, Inhabited

namespace ArgumentContext

/-- The expression that holds if an argument is of a type, or nil where it is not required. -/
def typeAssertion (argument luaType : String) (required : Bool) : String :=
  argument ++ (if required then " ~= nil and" else " == nil or") ++
    " type(" ++ argument ++ ") == \"" ++ luaType ++ "\""

/-- The type of an argument in words. -/
def typeExpectation (luaType : String) (required : Bool) : String :=
  (if required then "of type '" else "'nil' or of type '") ++ luaType ++ "'"

/-- The place of a parameter in a path. -/
def pathPlace (name : String) : String := "\x7b" ++ name ++ "\x7d"

/-- The context of a parameter. -/
def ofParameter (p : Parameter) : ArgumentContext where
  name := p.name
  argument := p.argument
  luaType := p.category.luaType
  description := Lua.commentText p.description
  assertion := typeAssertion p.argument p.category.luaType p.required
  expectation := typeExpectation p.category.luaType p.required
  placeholder := Lua.escapePattern (pathPlace p.name)

/-- The context as a JSON value. -/
def toJson (c : ArgumentContext) : Value :=
  .object
    [("name", .string c.name),
     ("arg_name", .string c.argument),
     ("lua_type", .string c.luaType),
     ("description", .string c.description),
     ("assertion", .string c.assertion),
     ("expectation", .string c.expectation),
     ("placeholder", .string c.placeholder)]

end ArgumentContext

/-! ## Endpoints -/

/-- What the template of an endpoint prints. -/
structure EndpointContext where
  functionName : String
  /-- The summary as the rest of a comment line. -/
  summary : String
  method : String
  path : String
  /-- The argument list. -/
  signature : String
  /-- All arguments, in the order of the argument list. -/
  arguments : List ArgumentContext
  pathArguments : List ArgumentContext
  queryArguments : List ArgumentContext
  /-- The arguments that make up a table as the body. -/
  bodyFields : List ArgumentContext
  /-- The argument that is the body by itself. -/
  bodyValue : Option String
  isAuthentication : Bool
  returnsSession : Bool
  deriving DecidableEq, Repr, Inhabited

namespace EndpointContext

/-- The body parameter that is the body by itself: the only one, if it was not flattened. -/
def bodyParameter? (e : Endpoint) : Option Parameter :=
  match e.parametersIn .body with
  | [p] => if p.flattenedFrom.isNone then some p else none
  | _ => none

/-- The arguments of the function that calls an endpoint. -/
def argumentNames (e : Endpoint) : List String :=
  "client" :: e.orderedParameters.map Parameter.argument ++
    ["callback", "retry_policy", "cancellation_token"]

/-- The context of an endpoint. -/
def ofEndpoint (e : Endpoint) : EndpointContext where
  functionName := e.operationId.text
  summary := Lua.commentText e.summary
  method := e.method.name
  path := e.path
  signature := Text.commaSeparated (argumentNames e)
  arguments := e.orderedParameters.map .ofParameter
  pathArguments := (e.parametersIn .path).map .ofParameter
  queryArguments := (e.parametersIn .query).map .ofParameter
  bodyFields :=
    if (bodyParameter? e).isSome then [] else (e.parametersIn .body).map .ofParameter
  bodyValue := (bodyParameter? e).map Parameter.argument
  isAuthentication := e.isAuthentication
  returnsSession := e.returnsSession

/-- The context as a JSON value. -/
def toJson (c : EndpointContext) : Value :=
  let list (xs : List ArgumentContext) : Value := .array (xs.map ArgumentContext.toJson)
  .object
    [("function_name", .string c.functionName),
     ("summary", .string c.summary),
     ("method", .string c.method),
     ("path", .string c.path),
     ("signature", .string c.signature),
     ("params", list c.arguments),
     ("path_params", list c.pathArguments),
     ("query_params", list c.queryArguments),
     ("body_fields", list c.bodyFields),
     ("has_body_fields", .bool !c.bodyFields.isEmpty),
     ("body_value", .ofString? c.bodyValue),
     ("is_authentication_method", .bool c.isAuthentication),
     ("returns_session", .bool c.returnsSession)]

end EndpointContext

/-! ## Definitions -/

/-- A property, as an argument of the function that makes a value of its definition. -/
structure PropertyContext where
  /-- The key in the table. -/
  name : String
  /-- The name of the argument. -/
  argument : String
  luaType : String
  description : String
  deriving DecidableEq, Repr, Inhabited

namespace PropertyContext

/-- The context of a property. -/
def ofProperty (p : Property) : PropertyContext where
  name := p.name
  argument := p.argument
  luaType := p.category.luaType
  description := Lua.commentText p.description

/-- The context as a JSON value. -/
def toJson (c : PropertyContext) : Value :=
  .object
    [("name", .string c.name),
     ("arg_name", .string c.argument),
     ("lua_type", .string c.luaType),
     ("description", .string c.description)]

end PropertyContext

/-- What the template of a definition with properties prints. -/
structure DefinitionContext where
  functionName : String
  description : String
  /-- The argument list. -/
  signature : String
  properties : List PropertyContext
  deriving DecidableEq, Repr, Inhabited

namespace DefinitionContext

/-- The context of a definition. -/
def ofDefinition (d : Definition) : DefinitionContext where
  functionName := d.constructorName
  description := Lua.commentText d.description
  signature := Text.commaSeparated (d.properties.map Property.argument)
  properties := d.properties.map .ofProperty

/-- The context as a JSON value. -/
def toJson (c : DefinitionContext) : Value :=
  .object
    [("function_name", .string c.functionName),
     ("description", .string c.description),
     ("signature", .string c.signature),
     ("properties", .array (c.properties.map PropertyContext.toJson))]

end DefinitionContext

/-- A constant of an enumeration. -/
structure ConstantContext where
  /-- The name of the constant. -/
  name : String
  /-- The value, as the inside of a string. -/
  value : String
  deriving DecidableEq, Repr, Inhabited

namespace ConstantContext

/-- The part of a constant's name that its value gives: what is neither an ASCII letter nor an ASCII
digit becomes an underscore. -/
def nameEnd (value : String) : String :=
  String.ofList (value.toList.map fun c => if c.isAlphanum then c else '_')

/-- The constant for a value of the definition that is declared as `rawName`. -/
def ofValue (rawName value : String) : ConstantContext :=
  ⟨Lua.constantName rawName ++ "_" ++ nameEnd value, Lua.escapeString value⟩

/-- The context as a JSON value. -/
def toJson (c : ConstantContext) : Value :=
  .object [("constant", .string c.name), ("value", .string c.value)]

end ConstantContext

/-- What the template of an enumeration prints. -/
structure EnumerationContext where
  name : String
  description : String
  constants : List ConstantContext
  deriving DecidableEq, Repr, Inhabited

namespace EnumerationContext

/-- The context of a definition that is an enumeration. -/
def ofDefinition (d : Definition) : EnumerationContext where
  name := d.name.text
  description := Lua.commentText d.description
  constants := d.enumeration.map (.ofValue d.rawName)

/-- The context as a JSON value. -/
def toJson (c : EnumerationContext) : Value :=
  .object
    [("name", .string c.name),
     ("description", .string c.description),
     ("constants", .array (c.constants.map ConstantContext.toJson))]

end EnumerationContext

/-! ## The module -/

/-- What the template of the REST module prints. -/
structure ModuleContext where
  title : String
  version : String
  /-- The constants of the enumerations. -/
  enumerations : String
  /-- The functions that make values of definitions. -/
  constructors : String
  /-- The functions that call endpoints. -/
  endpoints : String
  deriving DecidableEq, Repr, Inhabited

/-- The context as a JSON value. -/
def ModuleContext.toJson (c : ModuleContext) : Value :=
  .object
    [("title", .string c.title),
     ("version", .string c.version),
     ("enums", .string c.enumerations),
     ("objects", .string c.constructors),
     ("endpoints", .string c.endpoints)]

end LuaStubs.Rest
