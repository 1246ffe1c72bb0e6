import LuaStubs.Proofs.Rest.Bodies
import LuaStubs.Proofs.Template.Text

/-!
# The text of a caller

The function that calls an endpoint, statement by statement (`callerStatements`).
With the built-in templates its text is its comment, its first line and the texts of
its statements (`renderEndpoint_statements`). The token of an earlier session is
cleared before the call, and what the call returns is stored before it is wrapped.
The body is encoded once if there is one, as a table or as a value.
-/

namespace LuaStubs.Rest

open Api (Endpoint Parameter)
open Template (linesString pieceString)

/-! ## Statements -/

/-- A statement of the function that takes the result of a call. -/
inductive HandlerStatement where
  | storeSession
  | wrapSession
  | returnResult
  deriving DecidableEq

/-- A statement of a caller. -/
inductive CallerStatement where
  | checkClient
  /-- An argument is of a type, or may be nil too if it is not required. -/
  | checkArgument (argument luaType : String) (required : Bool)
  | clearToken
  | startPath (path : String)
  /-- The place of a parameter in the path gets the value of an argument. -/
  | fillPlace (name argument : String)
  | startQuery
  | addToQuery (name argument : String)
  | startBody
  /-- The body is a table, with the value of each argument under a name. -/
  | encodeTable (entries : List (String × String))
  /-- The body is the value of an argument. -/
  | encodeValue (argument : String)
  | call (method : String) (handler : List HandlerStatement)
  deriving DecidableEq

def HandlerStatement.text : HandlerStatement → String
  | storeSession => linesString [
      "\t\tif not result.error then",
      "\t\t\tstore_session(client, result)",
      "\t\tend"]
  | wrapSession => linesString [
      "\t\tif not result.error and api_session then",
      "\t\t\tresult = api_session.create(result)",
      "\t\tend"]
  | returnResult => "\t\treturn result\n"

def CallerStatement.text : CallerStatement → String
  | checkClient => "\tassert(client, \"You must provide a client\")\n"
  | checkArgument argument luaType required => String.join [
      "\tassert(", argument, if required then " ~= nil and" else " == nil or", " type(", argument, ") == \"", luaType,
      "\"", ", \"Argument '", argument, "' must be ", if required then "of type '" else "'nil' or of type '", luaType,
      "'", "\")\n"]
  | clearToken => linesString [
      "\t-- send the supplied credentials, not a stale session token",
      "\tclient.config.bearer_token = nil"]
  | startPath path => String.join ["\n\tlocal url_path = \"", path, "\"\n"]
  | fillPlace name argument => String.join [
      "\turl_path = url_path:gsub(\"", Lua.escapePattern ("\x7b" ++ name ++ "\x7d"),
      "\", function() return uri_encode(", argument, ") end)\n"]
  | startQuery => "\n\tlocal query_params = \x7b\x7d\n"
  | addToQuery name argument => String.join ["\tquery_params[\"", name, "\"] = ", argument, "\n"]
  | startBody => "\n\tlocal post_data = nil\n"
  | encodeTable entries => String.join ["\tpost_data = json.encode(\x7b\n", tableText entries, "\t\x7d)\n"]
  | encodeValue argument => String.join ["\tpost_data = json.encode(", argument, ")\n"]
  | call method handler => String.join (
      ["\n\treturn http(client, callback, url_path, query_params, \"", method,
        "\", post_data, retry_policy, cancellation_token, function(result)\n"] ++
      handler.map HandlerStatement.text ++ ["\tend)\n"])

/-- Whether a statement encodes the body. -/
def CallerStatement.encodes : CallerStatement → Bool
  | encodeTable _ | encodeValue _ => true
  | _ => false

/-- The statements that encode the body: none without a parameter in it, the value of the only one if that is
not the property of another one, and else a table of them all. -/
def bodyStatements (e : Endpoint) : List CallerStatement :=
  match e.parametersIn .body with
  | [] => []
  | [p] => if p.flattenedFrom = none then [.encodeValue p.argument] else [.encodeTable [(p.name, p.argument)]]
  | ps => [.encodeTable (ps.map fun p => (p.name, p.argument))]

/-- The statements that take the result of the call. -/
def handlerStatements (e : Endpoint) : List HandlerStatement :=
  (if e.isAuthentication then [.storeSession] else []) ++ (if e.returnsSession then [.wrapSession] else []) ++
    [.returnResult]

/-- The statements of a caller, in their order. -/
def callerStatements (e : Endpoint) : List CallerStatement := List.flatten [
  [.checkClient],
  e.orderedParameters.map fun p => .checkArgument p.argument p.category.luaType p.required,
  if e.isAuthentication then [.clearToken] else [],
  [.startPath e.path],
  (e.parametersIn .path).map fun p => .fillPlace p.name p.argument,
  [.startQuery],
  (e.parametersIn .query).map fun p => .addToQuery p.name p.argument,
  [.startBody],
  bodyStatements e,
  [.call e.method.name (handlerStatements e)]]

/-- The comment over a caller: its name, the summary and its parameters. -/
def callerComment (e : Endpoint) : String :=
  "\n--- " ++ e.operationId.text ++ "\n-- " ++ Lua.commentText e.summary ++ "\n-- @param client Client.\n" ++
    String.join (e.orderedParameters.map fun p =>
      "-- @param " ++ p.argument ++ " (" ++ p.category.luaType ++ ") " ++ Lua.commentText p.description ++ "\n") ++
    linesString [
      "-- @param callback (function) Optional callback function.",
      "-- A coroutine is used and the result is returned if no callback function is provided.",
      "-- @param retry_policy (function) Optional retry policy used for this call only.",
      "-- @param cancellation_token (table) Optional cancellation token for this call.",
      "-- @return The result."]

/-- The first line of a caller. -/
def callerLine (e : Endpoint) : String :=
  "function M." ++ e.operationId.text ++ "(" ++
    Text.commaSeparated (["client"] ++ e.orderedParameters.map Parameter.argument ++
      ["callback", "retry_policy", "cancellation_token"]) ++ ")\n"

/-! ## Texts -/

theorem pieceString_bodyTablePieces (fields : List ArgumentContext) :
    pieceString (bodyTablePieces fields) =
      (CallerStatement.encodeTable (fields.map fun a => (a.name, a.argument))).text := by
  simp only [bodyTablePieces, List.flatten_cons, List.flatten_nil, Template.pieceString_append,
    Template.pieceString_flatMap, Template.pieceString_cons, Template.pieceString_nil, Template.Piece.string,
    CallerStatement.text, tableText, List.map_map, Function.comp_def, String.join_cons, String.join_nil,
    String.append_empty, String.append_assoc]

theorem bodyStatements_of_some {e : Endpoint} {p : Parameter} (h : EndpointContext.bodyParameter? e = some p) :
    bodyStatements e = [.encodeValue p.argument] := by
  obtain ⟨hone, hfrom⟩ := EndpointContext.bodyParameter?_eq_some_iff.1 h
  simp [bodyStatements, hone, hfrom]

theorem bodyStatements_of_none {e : Endpoint} (h : EndpointContext.bodyParameter? e = none) :
    bodyStatements e = if e.parametersIn .body = [] then []
      else [.encodeTable ((e.parametersIn .body).map fun p => (p.name, p.argument))] := by
  rw [bodyStatements]
  split
  · next hnone => rw [if_pos hnone]
  · next p hone =>
    have hfrom : p.flattenedFrom ≠ none := fun hfrom => by
      rw [EndpointContext.bodyParameter?_eq_some_iff.2 ⟨hone, hfrom⟩] at h
      cases h
    rw [if_neg hfrom, hone]
    rfl
  · next hnone _ => rw [if_neg hnone]

/-- What the template prints for a body that is one argument. The name of the argument must not be empty. -/
theorem pieceString_bodyValue {e : Endpoint} {p : Parameter} (h : EndpointContext.bodyParameter? e = some p)
    (hargument : p.argument ≠ "") :
    pieceString (((EndpointContext.ofEndpoint e).bodyValue.filter (· ≠ "")).toList.flatMap fun argument =>
      [.text "\tpost_data = json.encode(", .text argument, .text ")\n"]) =
      (CallerStatement.encodeValue p.argument).text := by
  have hvalue : (EndpointContext.ofEndpoint e).bodyValue = some p.argument := by
    rw [EndpointContext.ofEndpoint, h]
    rfl
  have hfilter : (some p.argument).filter (· ≠ "") = some p.argument := by
    rw [Option.filter_some, if_pos (decide_eq_true hargument)]
  rw [hvalue, hfilter]
  simp [CallerStatement.text, Template.Piece.string]

/-- What the template prints for the body, before the rest of the text. -/
theorem pieceString_body {e : Endpoint} (h : ∀ p ∈ e.parameters, p.argument ≠ "") (rest : String) :
    pieceString (if !(EndpointContext.ofEndpoint e).bodyFields.isEmpty then
        bodyTablePieces (EndpointContext.ofEndpoint e).bodyFields else []) ++
      (pieceString (((EndpointContext.ofEndpoint e).bodyValue.filter (· ≠ "")).toList.flatMap fun argument =>
        [.text "\tpost_data = json.encode(", .text argument, .text ")\n"]) ++ rest) =
      String.join ((bodyStatements e).map CallerStatement.text) ++ rest := by
  cases hvalue : EndpointContext.bodyParameter? e with
  | some p =>
    have hone := (EndpointContext.bodyParameter?_eq_some_iff.1 hvalue).1
    have hmem : p ∈ e.parametersIn .body := hone ▸ List.mem_singleton_self p
    have hfields : (EndpointContext.ofEndpoint e).bodyFields = [] := by
      simp [EndpointContext.ofEndpoint, hvalue]
    rw [pieceString_bodyValue hvalue (h p (List.mem_filter.1 hmem).1), hfields, bodyStatements_of_some hvalue]
    simp
  | none =>
    have hbody : (EndpointContext.ofEndpoint e).bodyValue = none := by
      rw [EndpointContext.ofEndpoint, hvalue]
      rfl
    have hfields : (EndpointContext.ofEndpoint e).bodyFields =
        (e.parametersIn .body).map ArgumentContext.ofParameter := by
      simp [EndpointContext.ofEndpoint, hvalue]
    rw [hbody, hfields, bodyStatements_of_none hvalue]
    by_cases hnone : e.parametersIn .body = []
    · simp [hnone]
    · simp [hnone, pieceString_bodyTablePieces, Function.comp_def, ArgumentContext.ofParameter]

theorem pieceString_callerPieces {e : Endpoint} (h : ∀ p ∈ e.parameters, p.argument ≠ "") :
    pieceString (callerPieces (.ofEndpoint e)) =
      callerComment e ++ callerLine e ++ String.join ((callerStatements e).map CallerStatement.text) ++ "end\n" := by
  -- The template has the end of the first line and the first statement in one text, and so at the end.
  have hfirst : ")\n\tassert(client, \"You must provide a client\")\n" =
      ")\n" ++ "\tassert(client, \"You must provide a client\")\n" := rfl
  have hlast : "\t\treturn result\n\tend)\nend\n" = "\t\treturn result\n" ++ ("\tend)\n" ++ "end\n") := rfl
  unfold callerComment callerLine callerStatements handlerStatements
  simp only [callerPieces, List.flatten_cons, List.flatten_nil, Template.pieceString_append, pieceString_body h]
  simp only [EndpointContext.ofEndpoint, EndpointContext.argumentNames, List.flatMap_map,
    Template.pieceString_flatMap, Template.pieceString_cons, Template.pieceString_nil, Template.Piece.string, hfirst,
    hlast, ArgumentContext.ofParameter, ArgumentContext.typeAssertion, ArgumentContext.typeExpectation,
    ArgumentContext.pathPlace]
  by_cases hauthentication : e.isAuthentication = true <;> by_cases hsession : e.returnsSession = true <;>
  simp only [hauthentication, hsession, Bool.false_eq_true, if_true, if_false, Template.pieceString_nil,
    Template.pieceString_cons, Template.Piece.string, CallerStatement.text, HandlerStatement.text, List.map_append,
    List.map_cons, List.map_nil, List.map_map, List.cons_append, List.nil_append, Function.comp_def,
    String.join_append, String.join_cons, String.join_nil, String.append_assoc,
    String.append_empty, String.empty_append]

/-! ## Encoding the body -/

theorem filter_encodes_callerStatements (e : Endpoint) :
    (callerStatements e).filter CallerStatement.encodes = bodyStatements e := by
  have hbody : (bodyStatements e).filter CallerStatement.encodes = bodyStatements e := by
    rw [List.filter_eq_self, bodyStatements]
    grind [CallerStatement.encodes]
  have htoken : (if e.isAuthentication then [CallerStatement.clearToken] else []).filter
      CallerStatement.encodes = [] := by
    split <;> rfl
  simp [callerStatements, List.filter_append, List.filter_map, Function.comp_def, CallerStatement.encodes, hbody,
    htoken]

theorem countP_encodes (e : Endpoint) :
    (callerStatements e).countP CallerStatement.encodes = if e.parametersIn .body = [] then 0 else 1 := by
  rw [List.countP_eq_length_filter, filter_encodes_callerStatements, bodyStatements]
  grind

/-- The text of a caller is its comment, with a line for each parameter, its first line and its statements. Of
these, one encodes the body if there is a parameter in it, and else none does. -/
theorem renderEndpoint_statements {e : Endpoint} (h : ∀ p ∈ e.parameters, p.argument ≠ "") :
    renderEndpoint .builtin e = .ok (callerComment e ++ callerLine e ++
      String.join ((callerStatements e).map CallerStatement.text) ++ "end\n") ∧
    (callerStatements e).countP CallerStatement.encodes = (if e.parametersIn .body = [] then 0 else 1) := by
  refine ⟨?_, countP_encodes e⟩
  rw [renderEndpoint_builtin, Template.ofList_printPieces, pieceString_callerPieces h]

/-- An endpoint with a parameter in the path and one that is the body. -/
def linkEndpoint : Endpoint where
  operationId := .ofName "Link"
  method := .post
  path := "/u/\x7bid\x7d"
  summary := "Link."
  parameters := [
    { name := "id", argument := "id", location := .path, required := true, category := .string, description := "",
      flattenedFrom := none },
    { name := "body", argument := "body", location := .body, required := false, category := .composite,
      description := "", flattenedFrom := none }]
  isAuthentication := true
  returnsSession := true
  responses := []

theorem renderEndpoint_linkEndpoint :
    (∀ p ∈ linkEndpoint.parameters, p.argument ≠ "") ∧
    renderEndpoint .builtin linkEndpoint = .ok (callerComment linkEndpoint ++ callerLine linkEndpoint ++
      String.join ((callerStatements linkEndpoint).map CallerStatement.text) ++ "end\n") ∧
    callerStatements linkEndpoint = [
      .checkClient, .checkArgument "id" "string" true, .checkArgument "body" "table" false, .clearToken,
      .startPath "/u/\x7bid\x7d", .fillPlace "id" "id", .startQuery, .startBody, .encodeValue "body",
      .call "POST" [.storeSession, .wrapSession, .returnResult]] :=
  have hnonempty : ∀ p ∈ linkEndpoint.parameters, p.argument ≠ "" := by decide
  ⟨hnonempty, (renderEndpoint_statements hnonempty).1, by decide +kernel⟩

end LuaStubs.Rest
