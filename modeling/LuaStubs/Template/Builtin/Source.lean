import LuaStubs.Template.Builtin.Realtime
import LuaStubs.Template.Builtin.Rest

/-!
# Sources of the built-in templates

The built-in templates as they are written, line by line. An engine reads them
before it fills in any of them.
-/

namespace LuaStubs.Template

/-- The source of the realtime module. -/
def socketSource : List String := Builtin.Realtime.socketStart ++ [
  "\x7b\x7bmessages\x7d\x7d",
  "",
  "--",
  "-- events",
  "--",
  "\x7b\x7b#each event_index\x7d\x7d",
  "-- \x7b\x7bthis\x7d\x7d",
  "\x7b\x7b/each\x7d\x7d",
  "\x7b\x7bevents\x7d\x7d"] ++ Builtin.Realtime.socketEnd.tail

/-- The source of a message. -/
def messageSource : List String := [
  "",
  "--- \x7b\x7bfunction_name\x7d\x7d",
  "-- @param socket Realtime socket.",
  "\x7b\x7b#each fields\x7d\x7d",
  "-- @param \x7b\x7bname\x7d\x7d (\x7b\x7blua_type\x7d\x7d)",
  "\x7b\x7b/each\x7d\x7d",
  "-- @param callback Optional function called with the result.",
  "-- @return The result when called without a callback.",
  "function M.\x7b\x7bfunction_name\x7d\x7d(\x7b\x7bsignature\x7d\x7d)",
  "\tassert(socket)",
  "\x7b\x7b#each fields\x7d\x7d",
  "\tassert(\x7b\x7bname\x7d\x7d == nil or _G.type(\x7b\x7bname\x7d\x7d) == '\x7b\x7blua_type\x7d\x7d')",
  "\x7b\x7b/each\x7d\x7d",
  "\x7b\x7b#if expects_response\x7d\x7d",
  "\tsocket.cid = socket.cid + 1",
  "\x7b\x7b/if\x7d\x7d",
  "\tlocal message = \x7b",
  "\x7b\x7b#if expects_response\x7d\x7d",
  "\t\tcid = tostring(socket.cid),",
  "\x7b\x7b/if\x7d\x7d",
  "\t\t\x7b\x7bmessage_key\x7d\x7d = \x7b",
  "\x7b\x7b#each fields\x7d\x7d",
  "\t\t\t\x7b\x7bname\x7d\x7d = \x7b\x7bname\x7d\x7d,",
  "\x7b\x7b/each\x7d\x7d",
  "\t\t\x7d",
  "\t\x7d",
  "\treturn socket_send(socket, message, callback)",
  "end"]

/-- The source of an event. -/
def eventSource : List String := [
  "",
  "--- \x7b\x7bfunction_name\x7d\x7d",
  "-- @param socket Realtime socket.",
  "-- @param fn Handler called with the event message. Replaces any earlier handler.",
  "function M.\x7b\x7bfunction_name\x7d\x7d(socket, fn)",
  "\tassert(socket, \"You must provide a socket\")",
  "\tassert(fn, \"You must provide a function\")",
  "\tsocket.events.\x7b\x7bevent_key\x7d\x7d = fn",
  "end"]

/-- The source of the REST module. -/
def clientSource : List String :=
  ["--[[", "\x7b\x7btitle\x7d\x7d \x7b\x7bversion\x7d\x7d"] ++ Builtin.Rest.clientStart.tail ++ [
  "\x7b\x7benums\x7d\x7d",
  "",
  "--",
  "-- Objects",
  "--",
  "\x7b\x7bobjects\x7d\x7d",
  "",
  "--",
  "-- Endpoints",
  "--",
  "\x7b\x7bendpoints\x7d\x7d",
  "",
  "return M"]

/-- The source of an endpoint. -/
def endpointSource : List String := [
  "",
  "--- \x7b\x7bfunction_name\x7d\x7d",
  "-- \x7b\x7bsummary\x7d\x7d",
  "-- @param client Client.",
  "\x7b\x7b#each params\x7d\x7d",
  "-- @param \x7b\x7barg_name\x7d\x7d (\x7b\x7blua_type\x7d\x7d) \x7b\x7bdescription\x7d\x7d",
  "\x7b\x7b/each\x7d\x7d",
  "-- @param callback (function) Optional callback function.",
  "-- A coroutine is used and the result is returned if no callback function is provided.",
  "-- @param retry_policy (function) Optional retry policy used for this call only.",
  "-- @param cancellation_token (table) Optional cancellation token for this call.",
  "-- @return The result.",
  "function M.\x7b\x7bfunction_name\x7d\x7d(\x7b\x7bsignature\x7d\x7d)",
  "\tassert(client, \"You must provide a client\")",
  "\x7b\x7b#each params\x7d\x7d",
  "\tassert(\x7b\x7bassertion\x7d\x7d, \"Argument '\x7b\x7barg_name\x7d\x7d' must be \x7b\x7bexpectation\x7d\x7d\")",
  "\x7b\x7b/each\x7d\x7d",
  "\x7b\x7b#if is_authentication_method\x7d\x7d",
  "\t-- send the supplied credentials, not a stale session token",
  "\tclient.config.bearer_token = nil",
  "\x7b\x7b/if\x7d\x7d",
  "",
  "\tlocal url_path = \"\x7b\x7bpath\x7d\x7d\"",
  "\x7b\x7b#each path_params\x7d\x7d",
  "\turl_path = url_path:gsub(\"\x7b\x7bplaceholder\x7d\x7d\", function() return uri_encode(\x7b\x7barg_name\x7d\x7d) end)",
  "\x7b\x7b/each\x7d\x7d",
  "",
  "\tlocal query_params = \x7b\x7d",
  "\x7b\x7b#each query_params\x7d\x7d",
  "\tquery_params[\"\x7b\x7bname\x7d\x7d\"] = \x7b\x7barg_name\x7d\x7d",
  "\x7b\x7b/each\x7d\x7d",
  "",
  "\tlocal post_data = nil",
  "\x7b\x7b#if has_body_fields\x7d\x7d",
  "\tpost_data = json.encode(\x7b",
  "\x7b\x7b#each body_fields\x7d\x7d",
  "\t\t[\"\x7b\x7bname\x7d\x7d\"] = \x7b\x7barg_name\x7d\x7d,",
  "\x7b\x7b/each\x7d\x7d",
  "\t\x7d)",
  "\x7b\x7b/if\x7d\x7d",
  "\x7b\x7b#if body_value\x7d\x7d",
  "\tpost_data = json.encode(\x7b\x7bbody_value\x7d\x7d)",
  "\x7b\x7b/if\x7d\x7d",
  "",
  "\treturn http(client, callback, url_path, query_params, \"\x7b\x7bmethod\x7d\x7d\", post_data, retry_policy, cancellation_token, function(result)",
  "\x7b\x7b#if is_authentication_method\x7d\x7d",
  "\t\tif not result.error then",
  "\t\t\tstore_session(client, result)",
  "\t\tend",
  "\x7b\x7b/if\x7d\x7d",
  "\x7b\x7b#if returns_session\x7d\x7d",
  "\t\tif not result.error and api_session then",
  "\t\t\tresult = api_session.create(result)",
  "\t\tend",
  "\x7b\x7b/if\x7d\x7d",
  "\t\treturn result",
  "\tend)",
  "end"]

/-- The source of a definition with properties. -/
def definitionSource : List String := [
  "",
  "--- \x7b\x7bfunction_name\x7d\x7d",
  "-- \x7b\x7bdescription\x7d\x7d",
  "\x7b\x7b#each properties\x7d\x7d",
  "-- @param \x7b\x7barg_name\x7d\x7d (\x7b\x7blua_type\x7d\x7d) \x7b\x7bdescription\x7d\x7d",
  "\x7b\x7b/each\x7d\x7d",
  "function M.\x7b\x7bfunction_name\x7d\x7d(\x7b\x7bsignature\x7d\x7d)",
  "\treturn \x7b",
  "\x7b\x7b#each properties\x7d\x7d",
  "\t\t[\"\x7b\x7bname\x7d\x7d\"] = \x7b\x7barg_name\x7d\x7d,",
  "\x7b\x7b/each\x7d\x7d",
  "\t\x7d",
  "end"]

/-- The source of an enumeration. -/
def enumerationSource : List String := [
  "",
  "--- \x7b\x7bname\x7d\x7d",
  "-- \x7b\x7bdescription\x7d\x7d",
  "\x7b\x7b#each constants\x7d\x7d",
  "M.\x7b\x7bconstant\x7d\x7d = \"\x7b\x7bvalue\x7d\x7d\"",
  "\x7b\x7b/each\x7d\x7d"]

/-- The text of a source. -/
def sourceText (xs : List String) : String := String.ofList (Builtin.linesText xs)

/-- The sources of the built-in templates by name. -/
def sources : List (String × List String) :=
  [("realtime/socket", socketSource),
   ("realtime/message", messageSource),
   ("realtime/event", eventSource),
   ("rest/client", clientSource),
   ("rest/endpoint", endpointSource),
   ("rest/definition", definitionSource),
   ("rest/enum", enumerationSource)]

end LuaStubs.Template
