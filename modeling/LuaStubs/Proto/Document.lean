import LuaStubs.Error
import LuaStubs.Identifier
import LuaStubs.Proto.Block
import LuaStubs.Proto.Comment
import LuaStubs.Proto.Field

/-!
# Protocol documents

A protocol document is protocol text without its comments. `Document.message`
and `Document.event` look an entity up by the name of its block.
-/

namespace LuaStubs.Proto

/-- A message that a client can send. -/
structure Message where
  /-- The declared name. -/
  id : String
  /-- The name in snake case. -/
  key : Identifier
  fields : List Field
  /-- Whether the server answers. -/
  expectsResponse : Bool
  deriving DecidableEq, Repr, Inhabited

/-- The message with a name and fields that is not answered. -/
def Message.ofFields (id : String) (fields : List Field) : Message :=
  ⟨id, Identifier.ofName id, fields, false⟩

/-- A message that the server pushes. -/
structure Event where
  id : String
  key : Identifier
  deriving DecidableEq, Repr, Inhabited

/-- The event with a name. -/
def Event.ofName (id : String) : Event := ⟨id, Identifier.ofName id⟩

/-- The name of the function that sets the handler of an event. -/
def Event.hook (e : Event) : String := "on_" ++ e.key.text

/-- A protocol document without comments. -/
structure Document where
  text : List Char
  deriving DecidableEq, Repr, Inhabited

namespace Document

/-- The document of a source text. -/
def ofText (source : String) : Document := ⟨dropComments source.toList⟩

/-- The text behind the header of the first top-level block of a name. -/
def afterHeader? (d : Document) (name : String) : Option (List Char) :=
  Proto.afterHeader? name.toList true d.text

/-- Whether there is a top-level block of a name. -/
def contains (d : Document) (name : String) : Bool := (d.afterHeader? name).isSome

/-- The inside of the first top-level block of a name. -/
def block (d : Document) (kind : EntityKind) (name : String) : Except Error (List Char) :=
  match d.afterHeader? name with
  | none => .error (.entityNotFound kind name)
  | some rest =>
    match Text.splitAt? blockEnd rest with
    | none => .error (.malformedEntity kind name "block has no closing brace at line start")
    | some (body, _) => .ok body

/-- The fields that the inside of a block declares for its own message. -/
def bodyFields (body : List Char) : List Field := fields (collapseMaps (dropNested body))

/-- The message of a name. -/
def message (d : Document) (name : String) : Except Error Message := do
  return .ofFields name (bodyFields (← d.block .message name))

/-- The event of a name. -/
def event (d : Document) (name : String) : Except Error Event := do
  let _ ← d.block .event name
  return .ofName name

end Document

end LuaStubs.Proto
