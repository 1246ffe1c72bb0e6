import LuaStubs.Json.Value
import LuaStubs.Proto.Document
import LuaStubs.Text.Quoted

/-!
# Contexts of the realtime templates

Everything that a realtime template prints is worked out here, so the templates
need no more than values, choices and loops. Each context is a structure, and
`toJson` gives the value that a template looks names up in.
-/

namespace LuaStubs.Realtime

open Json (Value)

/-- A field of a message, as an argument of the function that sends it. -/
structure FieldContext where
  /-- The name of the argument and of the key in the payload. -/
  name : String
  /-- The type that the function checks for. -/
  luaType : String
  deriving DecidableEq, Repr, Inhabited

/-- The context of a field. -/
def FieldContext.ofField (f : Proto.Field) : FieldContext := ⟨f.name, f.category.luaType⟩

/-- The context as a JSON value. -/
def FieldContext.toJson (c : FieldContext) : Value :=
  .object [("name", .string c.name), ("lua_type", .string c.luaType)]

/-- What the template of a message prints. -/
structure MessageContext where
  functionName : String
  /-- The key of the payload in the message that is sent. -/
  messageKey : String
  /-- The argument list. -/
  signature : String
  fields : List FieldContext
  /-- Whether the message carries an id for the server's answer. -/
  expectsResponse : Bool
  deriving DecidableEq, Repr, Inhabited

namespace MessageContext

/-- The arguments of the function that sends a message. -/
def arguments (m : Proto.Message) : List String :=
  "socket" :: m.fields.map Proto.Field.name ++ ["callback"]

/-- The context of a message. -/
def ofMessage (m : Proto.Message) : MessageContext where
  functionName := m.key.text
  messageKey := m.key.text
  signature := Text.commaSeparated (arguments m)
  fields := m.fields.map .ofField
  expectsResponse := m.expectsResponse

/-- The context as a JSON value. -/
def toJson (c : MessageContext) : Value :=
  .object
    [("function_name", .string c.functionName),
     ("message_key", .string c.messageKey),
     ("signature", .string c.signature),
     ("fields", .array (c.fields.map FieldContext.toJson)),
     ("expects_response", .bool c.expectsResponse)]

end MessageContext

/-- What the template of an event prints. -/
structure EventContext where
  functionName : String
  /-- The key of the handler. -/
  eventKey : String
  deriving DecidableEq, Repr, Inhabited

namespace EventContext

/-- The context of an event. -/
def ofEvent (e : Proto.Event) : EventContext := ⟨e.hook, e.key.text⟩

/-- The context as a JSON value. -/
def toJson (c : EventContext) : Value :=
  .object [("function_name", .string c.functionName), ("event_key", .string c.eventKey)]

end EventContext

/-- What the template of the realtime module prints. -/
structure ModuleContext where
  /-- The functions that send messages. -/
  messages : String
  /-- The names of the functions that set handlers. -/
  eventIndex : List String
  /-- The functions that set handlers. -/
  events : String
  deriving DecidableEq, Repr, Inhabited

/-- The context as a JSON value. -/
def ModuleContext.toJson (c : ModuleContext) : Value :=
  .object
    [("messages", .string c.messages),
     ("event_index", .ofStrings c.eventIndex),
     ("events", .string c.events)]

end LuaStubs.Realtime
