import LuaStubs.Template.Builtin.Part

/-!
# Templates of the realtime module

`socketModule` is the module around its messages and events, `message` the
function that sends a message, and `event` the function that sets the handler of
an event.
-/

namespace LuaStubs.Template.Builtin.Realtime

/-- The lines of the realtime module before its messages: what a socket is, and the functions for its
connection. -/
def socketStart : List String := [
  "--[[",
  "Realtime socket client.",
  "",
  "Generated by stubgen. Do not edit by hand.",
  "]]",
  "",
  "local M = \x7b\x7d",
  "",
  "local b64 = require \"nakama.util.b64\"",
  "local async = require \"nakama.util.async\"",
  "local log = require \"nakama.util.log\"",
  "",
  "local function on_socket_message(socket, message)",
  "\tif message.match_data and message.match_data.data then",
  "\t\tmessage.match_data.data = b64.decode(message.match_data.data)",
  "\tend",
  "\tif message.party_data and message.party_data.data then",
  "\t\tmessage.party_data.data = b64.decode(message.party_data.data)",
  "\tend",
  "\tif message.cid then",
  "\t\tlocal callback = socket.requests[message.cid]",
  "\t\tsocket.requests[message.cid] = nil",
  "\t\tif callback then",
  "\t\t\tcallback(message)",
  "\t\tend",
  "\tend",
  "\tfor event_id, _ in pairs(message) do",
  "\t\tif socket.events[event_id] then",
  "\t\t\tsocket.events[event_id](message)",
  "\t\t\treturn",
  "\t\tend",
  "\tend",
  "\tlog(\"Unhandled message\")",
  "end",
  "",
  "local function socket_send(socket, message, callback)",
  "\tif message.match_data_send and message.match_data_send.data then",
  "\t\tmessage.match_data_send.data = b64.encode(message.match_data_send.data)",
  "\tend",
  "\tif message.party_data_send and message.party_data_send.data then",
  "\t\tmessage.party_data_send.data = b64.encode(message.party_data_send.data)",
  "\tend",
  "\tif callback then",
  "\t\tif message.cid then",
  "\t\t\tsocket.requests[message.cid] = callback",
  "\t\t\tsocket.engine.socket_send(socket, message)",
  "\t\telse",
  "\t\t\tsocket.engine.socket_send(socket, message)",
  "\t\t\tcallback(\x7b\x7d)",
  "\t\tend",
  "\telse",
  "\t\treturn async(function(done)",
  "\t\t\tif message.cid then",
  "\t\t\t\tsocket.requests[message.cid] = done",
  "\t\t\t\tsocket.engine.socket_send(socket, message)",
  "\t\t\telse",
  "\t\t\t\tsocket.engine.socket_send(socket, message)",
  "\t\t\t\tdone(\x7b\x7d)",
  "\t\t\tend",
  "\t\tend)",
  "\tend",
  "end",
  "",
  "--- Create a realtime socket for a client.",
  "-- @param client Client created by the REST module.",
  "-- @return The socket instance.",
  "function M.create(client)",
  "\tlocal socket = client.engine.socket_create(client.config, on_socket_message)",
  "\tassert(socket, \"No socket created\")",
  "\tassert(type(socket) == \"table\", \"The created instance must be a table\")",
  "\tsocket.client = client",
  "\tsocket.engine = client.engine",
  "",
  "\t-- pending requests keyed on correlation id",
  "\tsocket.cid = 0",
  "\tsocket.requests = \x7b\x7d",
  "",
  "\t-- one handler per event",
  "\tsocket.events = \x7b\x7d",
  "",
  "\tfor name, fn in pairs(M) do",
  "\t\tif name ~= \"create\" and type(fn) == \"function\" then",
  "\t\t\tsocket[name] = function(...) return fn(socket, ...) end",
  "\t\tend",
  "\tend",
  "\treturn socket",
  "end",
  "",
  "--- Connect the socket to the server.",
  "-- @param socket Socket from create().",
  "-- @param callback Optional function called with the result.",
  "-- @return The result when called without a callback.",
  "function M.connect(socket, callback)",
  "\tassert(socket, \"You must provide a socket\")",
  "\tif callback then",
  "\t\tsocket.engine.socket_connect(socket, callback)",
  "\telse",
  "\t\treturn async(function(done)",
  "\t\t\tsocket.engine.socket_connect(socket, done)",
  "\t\tend)",
  "\tend",
  "end",
  "",
  "--- Send a raw message.",
  "-- @param socket Socket from create().",
  "-- @param message Message table.",
  "-- @param callback Optional function called with the result.",
  "-- @return The result when called without a callback.",
  "function M.send(socket, message, callback)",
  "\tassert(socket, \"You must provide a socket\")",
  "\tassert(message, \"You must provide a message\")",
  "\treturn socket_send(socket, message, callback)",
  "end",
  "",
  "--- Register the disconnect handler.",
  "-- @param socket Socket from create().",
  "-- @param fn Handler function.",
  "function M.on_disconnect(socket, fn)",
  "\tassert(socket, \"You must provide a socket\")",
  "\tsocket.on_disconnect = fn",
  "end",
  "",
  "--",
  "-- messages",
  "--"]

/-- The lines of the realtime module after its events: the constants of channels and errors. -/
def socketEnd : List String := [
  "",
  "",
  "--",
  "-- channel types",
  "--",
  "M.CHANNELTYPE_UNSPECIFIED = 0",
  "M.CHANNELTYPE_ROOM = 1",
  "M.CHANNELTYPE_DIRECT_MESSAGE = 2",
  "M.CHANNELTYPE_GROUP = 3",
  "",
  "--",
  "-- realtime error codes",
  "--",
  "M.ERROR_RUNTIME_EXCEPTION = 0",
  "M.ERROR_UNRECOGNIZED_PAYLOAD = 1",
  "M.ERROR_MISSING_PAYLOAD = 2",
  "M.ERROR_BAD_INPUT = 3",
  "M.ERROR_MATCH_NOT_FOUND = 4",
  "M.ERROR_MATCH_JOIN_REJECTED = 5",
  "M.ERROR_RUNTIME_FUNCTION_NOT_FOUND = 6",
  "M.ERROR_RUNTIME_FUNCTION_EXCEPTION = 7",
  "",
  "return M"]

/-- The realtime module. -/
def socketModule : List Node := [
  lines socketStart,
  value "messages", text "\n\n--\n-- events\n--\n",
  each "event_index" [
    text "-- ", item, text "\n"],
  value "events",
  lines socketEnd]

/-- The function that sends a message. -/
def message : List Node := [
  text "\n--- ", value "function_name", text "\n-- @param socket Realtime socket.\n",
  each "fields" [
    text "-- @param ", value "name", text " (", value "lua_type", text ")\n"],
  lines [
    "-- @param callback Optional function called with the result.",
    "-- @return The result when called without a callback."],
  text "function M.", value "function_name", text "(", value "signature",
  text ")\n\tassert(socket)\n",
  each "fields" [
    text "\tassert(", value "name", text " == nil or _G.type(", value "name", text ") == '",
    value "lua_type", text "')\n"],
  whenTrue "expects_response" [
    text "\tsocket.cid = socket.cid + 1\n"],
  text "\tlocal message = \x7b\n",
  whenTrue "expects_response" [
    text "\t\tcid = tostring(socket.cid),\n"],
  text "\t\t", value "message_key", text " = \x7b\n",
  each "fields" [
    text "\t\t\t", value "name", text " = ", value "name", text ",\n"],
  lines [
    "\t\t\x7d",
    "\t\x7d",
    "\treturn socket_send(socket, message, callback)",
    "end"]]

/-- The function that sets the handler of an event. -/
def event : List Node := [
  text "\n--- ", value "function_name",
  lines [
    "",
    "-- @param socket Realtime socket.",
    "-- @param fn Handler called with the event message. Replaces any earlier handler."],
  text "function M.", value "function_name", text "(",
  lines [
    "socket, fn)",
    "\tassert(socket, \"You must provide a socket\")",
    "\tassert(fn, \"You must provide a function\")"],
  text "\tsocket.events.", value "event_key", text " = fn\nend\n"]

end LuaStubs.Template.Builtin.Realtime
