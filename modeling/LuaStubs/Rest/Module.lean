import LuaStubs.Api.Document
import LuaStubs.Rest.Context
import LuaStubs.Template.Set

/-!
# The REST module

The module has the constants of each enumeration, a function that makes a value
of each definition with properties, and one that calls each endpoint. A
definition with neither values nor properties adds nothing.
-/

namespace LuaStubs.Rest

open Api (Definition Endpoint Info)

variable {τ : Type} [Template.Engine τ]

/-- The function that calls an endpoint. -/
def renderEndpoint (templates : TemplateSet τ) (e : Endpoint) : Except Error String :=
  templates.render "rest/endpoint" (EndpointContext.ofEndpoint e).toJson

/-- The function that makes a value of a definition. -/
def renderDefinition (templates : TemplateSet τ) (d : Definition) : Except Error String :=
  templates.render "rest/definition" (DefinitionContext.ofDefinition d).toJson

/-- The constants of an enumeration. -/
def renderEnumeration (templates : TemplateSet τ) (d : Definition) : Except Error String :=
  templates.render "rest/enum" (EnumerationContext.ofDefinition d).toJson

/-- What a definition adds to the constants and to the constructors of the module. -/
def renderParts (templates : TemplateSet τ) (d : Definition) : Except Error (String × String) :=
  if d.hasEnumeration then (renderEnumeration templates d).map (·, "")
  else if d.hasProperties then (renderDefinition templates d).map ("", ·)
  else .ok ("", "")

/-- The module with the given endpoints and definitions. -/
def renderModule (templates : TemplateSet τ) (endpoints : List Endpoint)
    (definitions : List Definition) (info : Info) : Except Error String := do
  let parts ← definitions.mapM (renderParts templates)
  let callers ← endpoints.mapM (renderEndpoint templates)
  templates.render "rest/client" <| ModuleContext.toJson
    { title := info.title.getD ""
      version := info.version.getD ""
      enumerations := String.join (parts.map Prod.fst)
      constructors := String.join (parts.map Prod.snd)
      endpoints := String.join callers }

end LuaStubs.Rest
