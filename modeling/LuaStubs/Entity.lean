/-!
# Surfaces and the entities on them

A client has two surfaces: the realtime socket and the REST API. Messages and
events are entities of the first, endpoints and definitions of the second.
-/

namespace LuaStubs

/-- The two halves of a generated client. -/
inductive Surface where
  | realtime
  | rest
  deriving DecidableEq, Repr, Inhabited

/-- The name of a surface. -/
def Surface.name : Surface → String
  | .realtime => "realtime"
  | .rest => "rest"

/-- What a piece of generated code, or a skip, is about. -/
inductive EntityKind where
  /-- A message the client sends over the socket. -/
  | message
  /-- A message the server pushes over the socket. -/
  | event
  /-- An operation of the REST API. -/
  | endpoint
  /-- A reusable schema of the REST API. -/
  | definition
  deriving DecidableEq, Repr, Inhabited

/-- The name of an entity kind. -/
def EntityKind.name : EntityKind → String
  | .message => "message"
  | .event => "event"
  | .endpoint => "endpoint"
  | .definition => "definition"

end LuaStubs
