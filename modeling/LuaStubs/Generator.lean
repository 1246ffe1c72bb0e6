import LuaStubs.Files.Access
import LuaStubs.Manifest.Basic
import LuaStubs.Realtime.Module
import LuaStubs.Report
import LuaStubs.Rest.Module

/-!
# Generators

A generator has a valid manifest and templates. `Generator.realtime` and
`Generator.rest` make a module and a report from the texts of input documents.
An entity that cannot be used is left out and reported; only a document that
cannot be read and a template that fails end a run. `Generator.run` reads the
documents from files and writes the module once it is complete.
-/

namespace LuaStubs

/-- A generated module with its report. -/
structure Generation where
  content : String
  report : Report
  deriving DecidableEq, Repr, Inhabited

/-- A module with what was generated and skipped for it; the rest of the report follows from
these. -/
def Generation.of (content : String) (surface : Surface) (generated : List Generated)
    (skipped : List Skip) : Generation :=
  let report : Report := { surface, generated, skipped, bytes := content.utf8ByteSize }
  ⟨content, report.detectCollisions⟩

/-- The paths of the input documents of a run. -/
inductive Inputs where
  | realtime (realtime api : String)
  | rest (document : String)
  deriving DecidableEq, Repr, Inhabited

/-- What modules are generated with. -/
structure Generator (τ : Type := List Template.Node) where
  manifest : Manifest
  templates : TemplateSet τ
  /-- Nothing is wrong with the manifest. -/
  valid : manifest.problem? = none

namespace Generator

variable {τ : Type}

/-- The generator with a manifest, if that is valid. -/
def ofManifest (manifest : Manifest) (templates : TemplateSet τ) : Except Error (Generator τ) :=
  match h : manifest.problem? with
  | none => .ok ⟨manifest, templates, h⟩
  | some problem => .error (.config problem)

/-! ## The realtime module -/

/-- The message of an entry, or the skip that stands for it. -/
def selectMessage (d : Proto.Document) (entry : MessageEntry) :
    Except Error (Except Skip Proto.Message) :=
  attempt .message entry.name <|
    (d.message entry.name).map fun m => { m with expectsResponse := entry.expectsResponse }

/-- The document that a source of events names. -/
def sourceDocument (realtime api : Proto.Document) : EventSource → Proto.Document
  | .realtime => realtime
  | .api => api

/-- The event of an entry, or the skip that stands for it. -/
def selectEvent (realtime api : Proto.Document) (entry : EventEntry) :
    Except Error (Except Skip Proto.Event) :=
  attempt .event entry.name ((sourceDocument realtime api entry.source).event entry.name)

variable [Template.Engine τ]

/-- The realtime module for the texts of the two protocol documents. -/
def realtime (g : Generator τ) (realtimeText apiText : String) : Except Error Generation := do
  let realtime := Proto.Document.ofText realtimeText
  let api := Proto.Document.ofText apiText
  let messages ← g.manifest.messages.mapM (selectMessage realtime)
  let events ← g.manifest.events.mapM (selectEvent realtime api)
  let content ← Realtime.renderModule g.templates (successes messages) (successes events)
  return .of content .realtime
    ((successes messages).map (fun m => ⟨.message, m.key.text⟩) ++
      (successes events).map fun e => ⟨.event, e.hook⟩)
    (failures messages ++ failures events)

/-! ## The REST module -/

/-- What definitions and endpoints add to a module, by their names. -/
def restGenerated (definitions : List Api.Definition) (endpoints : List Api.Endpoint) :
    List Generated :=
  definitions.filterMap (fun d => d.generatedName?.map fun name => ⟨.definition, name⟩) ++
    endpoints.map fun e => ⟨.endpoint, e.operationId.text⟩

/-- The REST module for the text of an API document, which messages call by the given name. -/
def restNamed (g : Generator τ) (document text : String) : Except Error Generation := do
  let d ← (Api.Document.ofText text).mapError fun fault => .invalidDocument document (.fault fault)
  let r ← d.resolve g.manifest.settings
  let content ← Rest.renderModule g.templates r.endpoints r.definitions d.info
  return .of content .rest (restGenerated r.definitions r.endpoints) r.skipped

/-- The REST module for the text of an API document. -/
def rest (g : Generator τ) (text : String) : Except Error Generation :=
  g.restNamed "api description" text

/-! ## Runs -/

variable {m : Type → Type} [Monad m]

/-- The module for input documents in files. -/
def generate [Files.Access m] (g : Generator τ) : Inputs → ExceptT Error m Generation
  | .realtime realtime api => do
    let realtimeText ← Files.readDocument realtime
    let apiText ← Files.readDocument api
    g.realtime realtimeText apiText
  | .rest document => do
    let text ← Files.readDocument document
    g.restNamed document text

/-- Generates a module and then writes it with `write`. -/
def run [Files.Access m] (g : Generator τ) (inputs : Inputs)
    (write : Surface → String → ExceptT Error m Unit) : ExceptT Error m Generation := do
  let generation ← g.generate inputs
  write generation.report.surface generation.content
  return generation

end Generator

end LuaStubs
