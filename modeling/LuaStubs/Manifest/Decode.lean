import LuaStubs.Files.Access
import LuaStubs.Manifest.Basic
import LuaStubs.Toml.Decode
import LuaStubs.Toml.Reader

/-!
# Manifests in TOML

A manifest has the keys `messages`, `events` and `rest`; what is not there has
its default. `Manifest.ofToml` reads and validates one. What is wrong with the
form of a text is not told apart. `Manifest.load` takes the text from a file.
-/

namespace LuaStubs

open Toml (fields? required? optional?)

/-- Reads a message. -/
def MessageEntry.decode? (v : Toml.Value) : Option MessageEntry := do
  let fields ← fields? ["name", "expects_response"] v
  some ⟨← required? "name" Toml.Value.text? fields,
    ← optional? "expects_response" true Toml.Value.boolean? fields⟩

/-- Reads a source: its name, or a table with nothing under its name alone. -/
def EventSource.decode? : Toml.Value → Option EventSource
  | .text s => ofName? s
  | .table [(key, v)] => if v.isEmpty then ofName? key else none
  | _ => none

/-- Reads an event. -/
def EventEntry.decode? (v : Toml.Value) : Option EventEntry := do
  let fields ← fields? ["name", "source"] v
  some ⟨← required? "name" Toml.Value.text? fields,
    ← optional? "source" .realtime EventSource.decode? fields⟩

/-- Reads the settings. -/
def Api.Settings.decode? (v : Toml.Value) : Option Api.Settings := do
  let initial : Api.Settings := {}
  let fields ← fields? ["namespace_prefixes", "session_definition", "authenticate_token"] v
  some ⟨← optional? "namespace_prefixes" initial.namespaceLeads
      (Toml.Value.list? Toml.Value.text?) fields,
    ← optional? "session_definition" initial.sessionDefinition Toml.Value.text? fields,
    ← optional? "authenticate_token" initial.authenticateToken Toml.Value.text? fields⟩

namespace Manifest

/-- Reads a manifest. -/
def decode? (entries : Entries Toml.Value) : Option Manifest := do
  let fields ← fields? ["messages", "events", "rest"] (.table entries)
  some ⟨← optional? "messages" defaultMessages (Toml.Value.list? MessageEntry.decode?) fields,
    ← optional? "events" defaultEvents (Toml.Value.list? EventEntry.decode?) fields,
    ← optional? "rest" {} Api.Settings.decode? fields⟩

/-- The valid manifest that a text holds. -/
def ofToml (text : String) : Except Error Manifest :=
  match (Toml.table? text).bind decode? with
  | some m => m.validate
  | none => .error (.config .unparsable)

/-- The valid manifest in a file. -/
def load {m : Type → Type} [Monad m] [Files.Access m] (path : String) :
    ExceptT Error m Manifest := do
  match ← (Files.Access.readText path : m _) with
  | .ok text => ofToml text
  | .error cause => throw (.config (.unreadable path cause))

end Manifest

end LuaStubs
