import LuaStubs.Api.Resolution
import LuaStubs.Error

/-!
# Manifests

A manifest lists the messages and events to generate, in the order of the
output, and has the settings of the REST module. `Manifest.default` lists those
of the realtime protocol. `Manifest.problem?` finds the first entry, in the order
of the manifest, whose name is blank or has been listed before.
-/

namespace LuaStubs

/-- A message to generate. -/
structure MessageEntry where
  /-- The name in the protocol document. -/
  name : String
  /-- Whether the server answers. -/
  expectsResponse : Bool := true
  deriving DecidableEq, Repr, Inhabited

/-- The protocol document that declares an event. -/
inductive EventSource where
  | realtime
  | api
  deriving DecidableEq, Repr, Inhabited

namespace EventSource

/-- The name of a source. -/
def name : EventSource → String
  | realtime => "realtime"
  | api => "api"

/-- The source of a name. -/
def ofName? : String → Option EventSource
  | "realtime" => some realtime
  | "api" => some api
  | _ => none

end EventSource

/-- An event to generate. -/
structure EventEntry where
  /-- The name in the protocol document. -/
  name : String
  source : EventSource := .realtime
  deriving DecidableEq, Repr, Inhabited

/-- What to generate. -/
structure Manifest where
  messages : List MessageEntry
  events : List EventEntry
  settings : Api.Settings := {}
  deriving DecidableEq, Repr

namespace Manifest

/-! ## The default -/

/-- The messages of the realtime protocol. Those that are not answered are marked. -/
def defaultMessages : List MessageEntry :=
  [⟨"ChannelJoin", true⟩, ⟨"ChannelLeave", false⟩, ⟨"ChannelMessageSend", true⟩,
   ⟨"ChannelMessageRemove", true⟩, ⟨"ChannelMessageUpdate", true⟩, ⟨"MatchDataSend", false⟩,
   ⟨"MatchCreate", true⟩, ⟨"MatchJoin", true⟩, ⟨"MatchLeave", false⟩, ⟨"MatchmakerAdd", true⟩,
   ⟨"MatchmakerRemove", false⟩, ⟨"PartyCreate", true⟩, ⟨"PartyJoin", false⟩,
   ⟨"PartyLeave", false⟩, ⟨"PartyPromote", false⟩, ⟨"PartyAccept", false⟩,
   ⟨"PartyRemove", false⟩, ⟨"PartyClose", false⟩, ⟨"PartyJoinRequestList", true⟩,
   ⟨"PartyMatchmakerAdd", true⟩, ⟨"PartyMatchmakerRemove", false⟩, ⟨"PartyDataSend", false⟩,
   ⟨"StatusFollow", true⟩, ⟨"StatusUnfollow", false⟩, ⟨"StatusUpdate", false⟩]

/-- The events of the realtime protocol, and the one that the API protocol declares. -/
def defaultEvents : List EventEntry :=
  [⟨"ChannelPresenceEvent", .realtime⟩, ⟨"MatchPresenceEvent", .realtime⟩,
   ⟨"MatchData", .realtime⟩, ⟨"Match", .realtime⟩, ⟨"MatchmakerMatched", .realtime⟩,
   ⟨"Notifications", .realtime⟩, ⟨"PartyPresenceEvent", .realtime⟩, ⟨"Party", .realtime⟩,
   ⟨"PartyData", .realtime⟩, ⟨"PartyJoinRequest", .realtime⟩, ⟨"PartyLeader", .realtime⟩,
   ⟨"StatusPresenceEvent", .realtime⟩, ⟨"Status", .realtime⟩, ⟨"StreamData", .realtime⟩,
   ⟨"Error", .realtime⟩, ⟨"ChannelMessage", .api⟩]

/-- The manifest that is used unless another one is given. -/
protected def default : Manifest := ⟨defaultMessages, defaultEvents, {}⟩

instance : Inhabited Manifest := ⟨Manifest.default⟩

/-! ## Validation -/

/-- What is wrong with the first bad name of a list, `seen` being the names before it. A blank name
is called blank also where it is repeated. -/
def nameProblem? (kind : EntityKind) : (seen : List String) → List String → Option ConfigProblem
  | _, [] => none
  | seen, name :: names =>
    if Text.isBlankText name.toList then some (.blankName kind)
    else if name ∈ seen then some (.repeatedName kind name)
    else nameProblem? kind (name :: seen) names

/-- What is wrong with the settings. -/
def settingsProblem? (s : Api.Settings) : Option ConfigProblem :=
  if Text.isBlankText s.sessionDefinition.toList then some .blankSessionDefinition else none

/-- The first thing that is wrong with a manifest. -/
def problem? (m : Manifest) : Option ConfigProblem :=
  nameProblem? .message [] (m.messages.map MessageEntry.name) <|>
    nameProblem? .event [] (m.events.map EventEntry.name) <|> settingsProblem? m.settings

/-- The manifest, if nothing is wrong with it. -/
def validate (m : Manifest) : Except Error Manifest :=
  match m.problem? with
  | some problem => .error (.config problem)
  | none => .ok m

end Manifest

end LuaStubs
