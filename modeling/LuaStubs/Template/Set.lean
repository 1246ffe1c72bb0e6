import LuaStubs.Error
import LuaStubs.Template.Builtin.Source
import LuaStubs.Template.Reader

/-!
# Sets of templates

A set has templates by name, as an engine reads them. `Template.Engine` is what a
set needs of an engine: a source is read as a template, and a template is filled
in with a context. Any engine may stand here. The one for lists of nodes is an
instance; it has the part of the template language in which the built-in templates
are written.

`TemplateSet.ofSources` is the set to start from, with the sources of the built-in
templates; `TemplateSet.register` adds a template, or replaces the one of that
name, and `TemplateSet.render` fills one in.
-/

namespace LuaStubs

open Template (Node)

/-- A template engine, by what it reads templates as. -/
class Template.Engine (τ : Type) where
  /-- The template of a source that is to have a name, if the source can be read. -/
  parse? (name source : String) : Option τ
  /-- The text of a template filled in with a context, if that can be done. Other templates may be
  found by name. -/
  fill? (templates : Entries τ) (template : τ) (context : Json.Value) : Option String

/-- The engine for templates that are lists of nodes. -/
instance : Template.Engine (List Node) where
  parse? _ source := Template.parse? source
  fill? _ nodes context := (Template.renderAll ⟨context, []⟩ nodes).map String.ofList

theorem Template.Engine.parse?_nodes (name source : String) :
    (parse? name source : Option (List Node)) = Template.parse? source := rfl

theorem Template.Engine.fill?_nodes (templates : Entries (List Node)) (nodes : List Node)
    (context : Json.Value) :
    fill? templates nodes context = (Template.renderAll ⟨context, []⟩ nodes).map String.ofList := rfl

/-- Templates by name. -/
structure TemplateSet (τ : Type := List Node) where
  templates : Entries τ
  deriving Inhabited

namespace TemplateSet

/-- The built-in templates as lists of nodes. -/
def builtin : TemplateSet where
  templates :=
    [("realtime/socket", Template.Builtin.Realtime.socketModule),
     ("realtime/message", Template.Builtin.Realtime.message),
     ("realtime/event", Template.Builtin.Realtime.event),
     ("rest/client", Template.Builtin.Rest.clientModule),
     ("rest/endpoint", Template.Builtin.Rest.endpoint),
     ("rest/definition", Template.Builtin.Rest.definition),
     ("rest/enum", Template.Builtin.Rest.enumeration)]

/-- The names of the built-in templates. -/
def builtinNames : List String := Template.sources.map Prod.fst

variable {τ : Type} [Template.Engine τ]

/-- The set with the template of a source under a name. -/
def register (set : TemplateSet τ) (name source : String) : Except Error (TemplateSet τ) :=
  match Template.Engine.parse? name source with
  | some template => .ok ⟨set.templates.put name template⟩
  | none => .error (.template (.registering name))

/-- The set with the templates of sources under their names. -/
def registerAll (set : TemplateSet τ) (sources : List (String × List String)) :
    Except Error (TemplateSet τ) :=
  sources.foldlM (fun set source => set.register source.1 (Template.sourceText source.2)) set

/-- The templates that every stub is rendered with unless others are registered. -/
def ofSources : Except Error (TemplateSet τ) := registerAll ⟨[]⟩ Template.sources

/-- The text of a template filled in with a context. -/
def render (set : TemplateSet τ) (name : String) (context : Json.Value) : Except Error String :=
  match (set.templates.get? name).bind fun template =>
    Template.Engine.fill? set.templates template context with
  | some text => .ok text
  | none => .error (.template (.rendering name))

end TemplateSet

end LuaStubs
