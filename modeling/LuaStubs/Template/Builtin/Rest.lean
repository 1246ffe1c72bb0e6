import LuaStubs.Template.Builtin.Part

/-!
# Templates of the REST module

`clientModule` is the module around its constants, constructors and callers. The
other templates are for one of these each.
-/

namespace LuaStubs.Template.Builtin.Rest

/-- The lines of the REST module after its title: the functions that all callers share. -/
def clientStart : List String := [
  "",
  "",
  "Generated by stubgen. Do not edit by hand.",
  "]]",
  "",
  "local log = require \"nakama.util.log\"",
  "local async = require \"nakama.util.async\"",
  "local json = require \"nakama.util.json\"",
  "local api_session = require \"nakama.session\"",
  "",
  "local M = \x7b\x7d",
  "",
  "-- cancellation tokens keyed on the coroutine they belong to",
  "local cancellation_tokens = \x7b\x7d",
  "",
  "--- Cancel a cancellation token.",
  "-- @param token Token from cancellation_token().",
  "function M.cancel(token)",
  "\tassert(token)",
  "\ttoken.cancelled = true",
  "end",
  "",
  "--- Create a cancellation token.",
  "-- Pass it to sync() or to any API call to cancel it, or a sequence of them.",
  "-- @return The token.",
  "function M.cancellation_token()",
  "\tlocal token = \x7b",
  "\t\tcancelled = false",
  "\t\x7d",
  "\tfunction token.cancel()",
  "\t\ttoken.cancelled = true",
  "\tend",
  "\treturn token",
  "end",
  "",
  "--- Run a function inside a coroutine.",
  "-- @param fn The function to run.",
  "-- @param cancellation_token Optional cancellation token for the calls fn makes.",
  "function M.sync(fn, cancellation_token)",
  "\tassert(fn)",
  "\tlocal co = nil",
  "\tco = coroutine.create(function()",
  "\t\tcancellation_tokens[co] = cancellation_token",
  "\t\tfn()",
  "\t\tcancellation_tokens[co] = nil",
  "\tend)",
  "\tlocal ok, err = coroutine.resume(co)",
  "\tif not ok then",
  "\t\tlog(err)",
  "\t\tcancellation_tokens[co] = nil",
  "\tend",
  "end",
  "",
  "local function uri_encode_char(c)",
  "\treturn string.format(\"%%%02X\", string.byte(c))",
  "end",
  "",
  "local function uri_encode(str)",
  "\tif str then",
  "\t\tstr = tostring(str)",
  "\t\tstr = str:gsub(\"([^%w%-%.%_%~])\", uri_encode_char)",
  "\tend",
  "\treturn str",
  "end",
  "",
  "local function store_session(client, result)",
  "\tif result.token then",
  "\t\tclient.config.bearer_token = result.token",
  "\tend",
  "\tif result.refresh_token then",
  "\t\tclient.config.refresh_token = result.refresh_token",
  "\tend",
  "end",
  "",
  "local function http(client, callback, url_path, query_params, method, post_data, retry_policy, cancellation_token, handler_fn)",
  "\tif callback then",
  "\t\tlog(url_path, \"with callback\")",
  "\t\tclient.engine.http(client.config, url_path, query_params, method, post_data, retry_policy, cancellation_token, function(result)",
  "\t\t\tif not cancellation_token or not cancellation_token.cancelled then",
  "\t\t\t\tcallback(handler_fn(result))",
  "\t\t\tend",
  "\t\tend)",
  "\telse",
  "\t\tlog(url_path, \"with coroutine\")",
  "\t\tlocal co = coroutine.running()",
  "\t\tassert(co, \"You must be running this from within a coroutine\")",
  "\t\tcancellation_token = cancellation_tokens[co]",
  "\t\tif cancellation_token and cancellation_token.cancelled then",
  "\t\t\tcancellation_tokens[co] = nil",
  "\t\t\treturn",
  "\t\tend",
  "\t\treturn async(function(done)",
  "\t\t\tclient.engine.http(client.config, url_path, query_params, method, post_data, retry_policy, cancellation_token, function(result)",
  "\t\t\t\tif cancellation_token and cancellation_token.cancelled then",
  "\t\t\t\t\tcancellation_tokens[co] = nil",
  "\t\t\t\t\treturn",
  "\t\t\t\tend",
  "\t\t\t\tdone(handler_fn(result))",
  "\t\t\tend)",
  "\t\tend)",
  "\tend",
  "end",
  "",
  "--",
  "-- Enums",
  "--"]

/-- The REST module. -/
def clientModule : List Node := [
  text "--[[\n", value "title", text " ", value "version",
  lines clientStart,
  value "enums", text "\n\n--\n-- Objects\n--\n", value "objects",
  text "\n\n--\n-- Endpoints\n--\n", value "endpoints", text "\n\nreturn M\n"]

/-- The function that calls an endpoint. -/
def endpoint : List Node := [
  text "\n--- ", value "function_name", text "\n-- ", value "summary",
  text "\n-- @param client Client.\n",
  each "params" [
    text "-- @param ", value "arg_name", text " (", value "lua_type", text ") ",
    value "description", text "\n"],
  lines [
    "-- @param callback (function) Optional callback function.",
    "-- A coroutine is used and the result is returned if no callback function is provided.",
    "-- @param retry_policy (function) Optional retry policy used for this call only.",
    "-- @param cancellation_token (table) Optional cancellation token for this call.",
    "-- @return The result."],
  text "function M.", value "function_name", text "(", value "signature",
  text ")\n\tassert(client, \"You must provide a client\")\n",
  each "params" [
    text "\tassert(", value "assertion", text ", \"Argument '", value "arg_name",
    text "' must be ", value "expectation", text "\")\n"],
  whenTrue "is_authentication_method" [
    lines [
      "\t-- send the supplied credentials, not a stale session token",
      "\tclient.config.bearer_token = nil"]],
  text "\n\tlocal url_path = \"", value "path", text "\"\n",
  each "path_params" [
    text "\turl_path = url_path:gsub(\"", value "placeholder",
    text "\", function() return uri_encode(", value "arg_name", text ") end)\n"],
  text "\n\tlocal query_params = \x7b\x7d\n",
  each "query_params" [
    text "\tquery_params[\"", value "name", text "\"] = ", value "arg_name", text "\n"],
  text "\n\tlocal post_data = nil\n",
  whenTrue "has_body_fields" [
    text "\tpost_data = json.encode(\x7b\n",
    each "body_fields" [
      text "\t\t[\"", value "name", text "\"] = ", value "arg_name", text ",\n"],
    text "\t\x7d)\n"],
  whenTrue "body_value" [
    text "\tpost_data = json.encode(", value "body_value", text ")\n"],
  text "\n\treturn http(client, callback, url_path, query_params, \"", value "method",
  text "\", post_data, retry_policy, cancellation_token, function(result)\n",
  whenTrue "is_authentication_method" [
    lines [
      "\t\tif not result.error then",
      "\t\t\tstore_session(client, result)",
      "\t\tend"]],
  whenTrue "returns_session" [
    lines [
      "\t\tif not result.error and api_session then",
      "\t\t\tresult = api_session.create(result)",
      "\t\tend"]],
  text "\t\treturn result\n\tend)\nend\n"]

/-- The function that makes a value of a definition. -/
def definition : List Node := [
  text "\n--- ", value "function_name", text "\n-- ", value "description", text "\n",
  each "properties" [
    text "-- @param ", value "arg_name", text " (", value "lua_type", text ") ",
    value "description", text "\n"],
  text "function M.", value "function_name", text "(", value "signature",
  text ")\n\treturn \x7b\n",
  each "properties" [
    text "\t\t[\"", value "name", text "\"] = ", value "arg_name", text ",\n"],
  text "\t\x7d\nend\n"]

/-- The constants of an enumeration. -/
def enumeration : List Node := [
  text "\n--- ", value "name", text "\n-- ", value "description", text "\n",
  each "constants" [
    text "M.", value "constant", text " = \"", value "value", text "\"\n"]]

end LuaStubs.Template.Builtin.Rest
