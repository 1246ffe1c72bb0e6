import LuaStubs.Proofs.Attempt
import LuaStubs.Proofs.Template.Occurrence
import LuaStubs.Proofs.Template.Rendering
import LuaStubs.Rest.Module

/-!
# The text of the REST module

With the built-in templates the REST module is always rendered. Its text is that
of `modulePieces`: the skeleton of the module, with the constants of the
enumerations, the constructors of the other definitions and the functions of the
endpoints in it (`renderModule_builtin`). Under *Occurrences* stands where the
names, descriptions and literals are among the pieces.
-/

namespace LuaStubs.Rest

open Api (Definition Endpoint Info)
open Template (Piece Renders printPieces printPieces_cons printPieces_append)
open Template.Builtin.Rest (clientStart)

/-! ## Pieces -/

/-- The statement that encodes a table as the body. -/
def bodyTablePieces (fields : List ArgumentContext) : List Piece := List.flatten [
  [.text "\tpost_data = json.encode(\x7b\n"],
  fields.flatMap fun a => [.text "\t\t[\"", .text a.name, .text "\"] = ", .text a.argument, .text ",\n"],
  [.text "\t\x7d)\n"]]

/-- The function that calls an endpoint. -/
def callerPieces (c : EndpointContext) : List Piece := List.flatten [
  [.text "\n--- ", .text c.functionName, .text "\n-- ", .text c.summary, .text "\n-- @param client Client.\n"],
  c.arguments.flatMap fun a =>
    [.text "-- @param ", .text a.argument, .text " (", .text a.luaType, .text ") ", .text a.description,
     .text "\n"],
  [.lines [
    "-- @param callback (function) Optional callback function.",
    "-- A coroutine is used and the result is returned if no callback function is provided.",
    "-- @param retry_policy (function) Optional retry policy used for this call only.",
    "-- @param cancellation_token (table) Optional cancellation token for this call.",
    "-- @return The result."]],
  [.function c.functionName, .text c.signature, .text ")\n\tassert(client, \"You must provide a client\")\n"],
  c.arguments.flatMap fun a =>
    [.text "\tassert(", .text a.assertion, .text ", \"Argument '", .text a.argument, .text "' must be ",
     .text a.expectation, .text "\")\n"],
  if c.isAuthentication then
    [.lines [
      "\t-- send the supplied credentials, not a stale session token",
      "\tclient.config.bearer_token = nil"]]
  else [],
  [.text "\n\tlocal url_path = \"", .text c.path, .text "\"\n"],
  c.pathArguments.flatMap fun a =>
    [.text "\turl_path = url_path:gsub(\"", .text a.placeholder, .text "\", function() return uri_encode(",
     .text a.argument, .text ") end)\n"],
  [.text "\n\tlocal query_params = \x7b\x7d\n"],
  c.queryArguments.flatMap fun a =>
    [.text "\tquery_params[\"", .text a.name, .text "\"] = ", .text a.argument, .text "\n"],
  [.text "\n\tlocal post_data = nil\n"],
  if !c.bodyFields.isEmpty then bodyTablePieces c.bodyFields else [],
  (c.bodyValue.filter (· ≠ "")).toList.flatMap fun argument =>
    [.text "\tpost_data = json.encode(", .text argument, .text ")\n"],
  [.text "\n\treturn http(client, callback, url_path, query_params, \"", .text c.method,
   .text "\", post_data, retry_policy, cancellation_token, function(result)\n"],
  if c.isAuthentication then
    [.lines [
      "\t\tif not result.error then",
      "\t\t\tstore_session(client, result)",
      "\t\tend"]]
  else [],
  if c.returnsSession then
    [.lines [
      "\t\tif not result.error and api_session then",
      "\t\t\tresult = api_session.create(result)",
      "\t\tend"]]
  else [],
  [.text "\t\treturn result\n\tend)\nend\n"]]

/-- The function that makes a value of a definition. -/
def constructorPieces (c : DefinitionContext) : List Piece := List.flatten [
  [.text "\n--- ", .text c.functionName, .text "\n-- ", .text c.description, .text "\n"],
  c.properties.flatMap fun p =>
    [.text "-- @param ", .text p.argument, .text " (", .text p.luaType, .text ") ", .text p.description,
     .text "\n"],
  [.function c.functionName, .text c.signature, .text ")\n\treturn \x7b\n"],
  c.properties.flatMap fun p =>
    [.text "\t\t[\"", .text p.name, .text "\"] = ", .text p.argument, .text ",\n"],
  [.text "\t\x7d\nend\n"]]

/-- The constants of an enumeration. -/
def enumerationPieces (c : EnumerationContext) : List Piece := List.flatten [
  [.text "\n--- ", .text c.name, .text "\n-- ", .text c.description, .text "\n"],
  c.constants.flatMap fun k => [.constant k.name k.value]]

/-- The definitions that have a constructor. -/
def isConstructed (d : Definition) : Bool := !d.hasEnumeration && d.hasProperties

/-- The REST module. -/
def modulePieces (endpoints : List Endpoint) (definitions : List Definition) (info : Info) : List Piece :=
  List.flatten [
    [.text "--[[\n", .text (info.title.getD ""), .text " ", .text (info.version.getD ""), .lines clientStart],
    (definitions.filter Definition.hasEnumeration).flatMap fun d => enumerationPieces (.ofDefinition d),
    [.text "\n\n--\n-- Objects\n--\n"],
    (definitions.filter isConstructed).flatMap fun d => constructorPieces (.ofDefinition d),
    [.text "\n\n--\n-- Endpoints\n--\n"],
    endpoints.flatMap fun e => callerPieces (.ofEndpoint e),
    [.text "\n\nreturn M\n"]]

/-! ## Templates -/

theorem renders_definition (c : DefinitionContext) :
    Renders ⟨c.toJson, []⟩ Template.Builtin.Rest.definition (constructorPieces c) := by
  simp only [constructorPieces, List.flatten_cons, List.flatten_nil, List.cons_append, List.nil_append]
  refine .text _ (.value (.text _ (.value (.text _ ?_))))
  refine .each c.properties PropertyContext.toJson (fun p vars => ?_) ?_
  · exact .text _ (.value (.text _ (.value (.text _ (.value (.text _ .nil))))))
  refine .function (.value (.text _ ?_))
  refine .each c.properties PropertyContext.toJson (fun p vars => ?_) (.text _ .nil)
  exact .text _ (.value (.text _ (.value (.text _ .nil))))

theorem renders_enumeration (c : EnumerationContext) :
    Renders ⟨c.toJson, []⟩ Template.Builtin.Rest.enumeration (enumerationPieces c) := by
  simp only [enumerationPieces, List.flatten_cons, List.flatten_nil, List.cons_append, List.nil_append]
  refine .text _ (.value (.text _ (.value (.text _ ?_))))
  exact .each c.constants ConstantContext.toJson (fun k vars => .constant .nil) .nil

theorem renders_endpoint (c : EndpointContext) :
    Renders ⟨c.toJson, []⟩ Template.Builtin.Rest.endpoint (callerPieces c) := by
  simp only [callerPieces, bodyTablePieces, List.flatten_cons, List.flatten_nil, List.cons_append, List.nil_append]
  refine .text _ (.value (.text _ (.value (.text _ ?_))))
  refine .each c.arguments ArgumentContext.toJson (fun a vars => ?_) (.lines _ ?_)
  · exact .text _ (.value (.text _ (.value (.text _ (.value (.text _ .nil))))))
  refine .function (.value (.text _ ?_))
  refine .each c.arguments ArgumentContext.toJson (fun a vars => ?_) ?_
  · exact .text _ (.value (.text _ (.value (.text _ (.value (.text _ .nil))))))
  refine .whenTrue (.lines _ .nil) (.text _ (.value (.text _ ?_)))
  refine .each c.pathArguments ArgumentContext.toJson (fun a vars => ?_) (.text _ ?_)
  · exact .text _ (.value (.text _ (.value (.text _ .nil))))
  refine .each c.queryArguments ArgumentContext.toJson (fun a vars => ?_) (.text _ ?_)
  · exact .text _ (.value (.text _ (.value (.text _ .nil))))
  refine .whenTrue (.text _ (.each c.bodyFields ArgumentContext.toJson (fun a vars => ?_) (.text _ .nil))) ?_
  · exact .text _ (.value (.text _ (.value (.text _ .nil))))
  refine .whenText (fun x hx => .text _ (.value (.text _ .nil) ?_)) (.text _ (.value (.text _ ?_)))
  · simp [List.lookup_cons, hx, Json.Value.ofString?]
  refine .whenTrue (.lines _ .nil) (.whenTrue (.lines _ .nil) (.text _ .nil))

/-! ## The module -/

theorem renderEndpoint_builtin (e : Endpoint) :
    renderEndpoint .builtin e = .ok (String.ofList (printPieces (callerPieces (.ofEndpoint e)))) :=
  Template.render_of_renders rfl (renders_endpoint _)

theorem renderDefinition_builtin (d : Definition) :
    renderDefinition .builtin d = .ok (String.ofList (printPieces (constructorPieces (.ofDefinition d)))) :=
  Template.render_of_renders rfl (renders_definition _)

theorem renderEnumeration_builtin (d : Definition) :
    renderEnumeration .builtin d = .ok (String.ofList (printPieces (enumerationPieces (.ofDefinition d)))) :=
  Template.render_of_renders rfl (renders_enumeration _)

/-- What a definition adds: constants, or a constructor, or nothing. -/
theorem renderParts_builtin (d : Definition) :
    renderParts .builtin d = .ok
      (if d.hasEnumeration then String.ofList (printPieces (enumerationPieces (.ofDefinition d))) else "",
       if isConstructed d then String.ofList (printPieces (constructorPieces (.ofDefinition d))) else "") := by
  rw [renderParts, renderEnumeration_builtin, renderDefinition_builtin, isConstructed]
  cases d.hasEnumeration <;> cases d.hasProperties <;> rfl

theorem renders_module (c : ModuleContext) :
    Renders ⟨c.toJson, []⟩ Template.Builtin.Rest.clientModule
      [.text "--[[\n", .text c.title, .text " ", .text c.version, .lines clientStart, .text c.enumerations,
       .text "\n\n--\n-- Objects\n--\n", .text c.constructors, .text "\n\n--\n-- Endpoints\n--\n",
       .text c.endpoints, .text "\n\nreturn M\n"] := by
  refine .text _ (.value (.text _ (.value (.lines _ (.value (.text _ (.value (.text _ ?_))))))))
  exact .value (.text _ .nil)

/-- The module is rendered for all endpoints and definitions. -/
theorem renderModule_builtin (endpoints : List Endpoint) (definitions : List Definition) (info : Info) :
    renderModule .builtin endpoints definitions info =
      .ok (String.ofList (printPieces (modulePieces endpoints definitions info))) := by
  rw [renderModule, mapM_eq_ok renderParts_builtin, mapM_eq_ok renderEndpoint_builtin]
  dsimp only [bind, Except.bind]
  refine (Template.render_of_renders rfl (renders_module _)).trans (congrArg (Except.ok ∘ String.ofList) ?_)
  simp only [modulePieces, List.flatten_cons, List.flatten_nil, List.cons_append, List.nil_append, List.map_map,
    Function.comp_def, printPieces_cons, printPieces_append, Template.chars_join, Template.chars_join_filter]

/-! ## Occurrences -/

section Occurrences

variable {endpoints : List Endpoint} {definitions : List Definition} {info : Info} {ps : List Piece}

theorem infix_of_endpoint {e : Endpoint} (he : e ∈ endpoints) (h : ps <:+: callerPieces (.ofEndpoint e)) :
    ps <:+: modulePieces endpoints definitions info :=
  Template.infix_flatten (.tail _ (.tail _ (.tail _ (.tail _ (.tail _ (.head _)))))) (Template.infix_flatMap he h)

theorem infix_of_constructed {d : Definition} (hd : d ∈ definitions) (hc : isConstructed d = true)
    (h : ps <:+: constructorPieces (.ofDefinition d)) : ps <:+: modulePieces endpoints definitions info :=
  Template.infix_flatten (.tail _ (.tail _ (.tail _ (.head _))))
    (Template.infix_flatMap (List.mem_filter.2 ⟨hd, hc⟩) h)

theorem infix_of_enumeration {d : Definition} (hd : d ∈ definitions) (he : d.hasEnumeration = true)
    (h : ps <:+: enumerationPieces (.ofDefinition d)) : ps <:+: modulePieces endpoints definitions info :=
  Template.infix_flatten (.tail _ (.head _)) (Template.infix_flatMap (List.mem_filter.2 ⟨hd, he⟩) h)

/-! Functions start with their names. -/

theorem infix_callerPieces_function (c : EndpointContext) : [.function c.functionName] <:+: callerPieces c :=
  Template.infix_flatten (.tail _ (.tail _ (.tail _ (.head _)))) ⟨[], _, rfl⟩

theorem infix_constructorPieces_function (c : DefinitionContext) :
    [.function c.functionName] <:+: constructorPieces c :=
  Template.infix_flatten (.tail _ (.tail _ (.head _))) ⟨[], _, rfl⟩

/-! The descriptions are in comments. -/

theorem infix_callerPieces_summary (c : EndpointContext) :
    [.text "\n-- ", .text c.summary, .text "\n-- @param client Client.\n"] <:+: callerPieces c :=
  Template.infix_flatten (.head _) ⟨[_, _], [], rfl⟩

theorem infix_callerPieces_argument {c : EndpointContext} {a : ArgumentContext} (ha : a ∈ c.arguments) :
    [.text "-- @param ", .text a.argument, .text " (", .text a.luaType, .text ") ", .text a.description,
      .text "\n"] <:+: callerPieces c :=
  Template.infix_flatten (.tail _ (.head _)) (Template.infix_flatMap ha (List.infix_refl _))

theorem infix_constructorPieces_description (c : DefinitionContext) :
    [.text "\n-- ", .text c.description, .text "\n"] <:+: constructorPieces c :=
  Template.infix_flatten (.head _) ⟨[_, _], [], rfl⟩

theorem infix_constructorPieces_argument {c : DefinitionContext} {p : PropertyContext} (hp : p ∈ c.properties) :
    [.text "-- @param ", .text p.argument, .text " (", .text p.luaType, .text ") ", .text p.description,
      .text "\n"] <:+: constructorPieces c :=
  Template.infix_flatten (.tail _ (.head _)) (Template.infix_flatMap hp (List.infix_refl _))

theorem infix_enumerationPieces_description (c : EnumerationContext) :
    [.text "\n-- ", .text c.description, .text "\n"] <:+: enumerationPieces c :=
  Template.infix_flatten (.head _) ⟨[_, _], [], rfl⟩

/-! Other texts are in literals. -/

theorem infix_callerPieces_path (c : EndpointContext) :
    [.text "\n\tlocal url_path = \"", .text c.path, .text "\"\n"] <:+: callerPieces c :=
  Template.infix_flatten (.tail _ (.tail _ (.tail _ (.tail _ (.tail _ (.tail _ (.head _))))))) (List.infix_refl _)

theorem infix_callerPieces_query {c : EndpointContext} {a : ArgumentContext} (ha : a ∈ c.queryArguments) :
    [.text "\tquery_params[\"", .text a.name, .text "\"] = "] <:+: callerPieces c :=
  Template.infix_flatten
    (.tail _ (.tail _ (.tail _ (.tail _ (.tail _ (.tail _ (.tail _ (.tail _ (.tail _ (.head _))))))))))
    (Template.infix_flatMap ha ⟨[], _, rfl⟩)

theorem infix_callerPieces_bodyTable {c : EndpointContext} (h : c.bodyFields ≠ []) :
    bodyTablePieces c.bodyFields <:+: callerPieces c := by
  have hfields : (!c.bodyFields.isEmpty) = true := by
    rw [Bool.not_eq_true', List.isEmpty_eq_false_iff]
    exact h
  refine Template.infix_flatten
    (.tail _ (.tail _ (.tail _ (.tail _ (.tail _ (.tail _ (.tail _ (.tail _ (.tail _ (.tail _ (.tail _
      (.head _)))))))))))) ?_
  rw [if_pos hfields]

theorem infix_callerPieces_body {c : EndpointContext} {a : ArgumentContext} (ha : a ∈ c.bodyFields) :
    [.text "\t\t[\"", .text a.name, .text "\"] = "] <:+: callerPieces c := by
  refine List.IsInfix.trans ?_ (infix_callerPieces_bodyTable (List.ne_nil_of_mem ha))
  exact Template.infix_flatten (.tail _ (.head _)) (Template.infix_flatMap ha ⟨[], _, rfl⟩)

theorem infix_constructorPieces_key {c : DefinitionContext} {p : PropertyContext} (hp : p ∈ c.properties) :
    [.text "\t\t[\"", .text p.name, .text "\"] = "] <:+: constructorPieces c :=
  Template.infix_flatten (.tail _ (.tail _ (.tail _ (.head _)))) (Template.infix_flatMap hp ⟨[], _, rfl⟩)

/-- The constant of a value, between quotes. -/
theorem infix_of_constant (endpoints : List Endpoint) (info : Info) {d : Definition} {value : String}
    (hd : d ∈ definitions) (hv : value ∈ d.enumeration) :
    [.constant (ConstantContext.ofValue d.rawName value).name (Lua.escapeString value)] <:+:
      modulePieces endpoints definitions info := by
  have henum : d.hasEnumeration = true := by
    rw [Definition.hasEnumeration, Bool.not_eq_true', List.isEmpty_eq_false_iff]
    exact List.ne_nil_of_mem hv
  have hk : ConstantContext.ofValue d.rawName value ∈ (EnumerationContext.ofDefinition d).constants :=
    List.mem_map_of_mem hv
  exact infix_of_enumeration hd henum
    (Template.infix_flatten (.tail _ (.head _)) (Template.infix_flatMap hk (List.infix_refl _)))

end Occurrences

/-! ## Assignments -/

/-- The functions of the skeleton. -/
def skeletonNames : List String := ["cancel", "cancellation_token", "sync"]

theorem assignedBy_skeleton : Template.assignedBy clientStart = skeletonNames := by
  unfold clientStart
  repeat rw [Template.assignedBy_cons]
  simp [Template.assignedName?, Template.functionStart, Template.constantStart, Text.dropLead?, Template.assignedBy,
    skeletonNames]

theorem assigned_bodyTablePieces (fields : List ArgumentContext) :
    Template.assigned (bodyTablePieces fields) = [] := by
  simp only [bodyTablePieces, List.flatten_cons, List.flatten_nil, Template.assigned_append, Template.assigned_cons,
    Template.assigned_nil, Piece.assigned]
  rw [Template.assigned_flatMap_eq_nil fun _ => rfl]
  rfl

theorem assigned_callerPieces (c : EndpointContext) : Template.assigned (callerPieces c) = [c.functionName] := by
  simp only [callerPieces, List.flatten_cons, List.flatten_nil, Template.assigned_append, Template.assigned_cons,
    Template.assigned_nil, Piece.assigned]
  rw [Template.assigned_flatMap_eq_nil fun _ => rfl, Template.assigned_flatMap_eq_nil fun _ => rfl,
    Template.assigned_ite_eq_nil, Template.assigned_flatMap_eq_nil fun _ => rfl,
    Template.assigned_flatMap_eq_nil fun _ => rfl, Template.assigned_ite_eq_nil (assigned_bodyTablePieces _),
    Template.assigned_flatMap_eq_nil fun _ => rfl, Template.assigned_ite_eq_nil, Template.assigned_ite_eq_nil]
  · repeat rw [Template.assignedBy_cons_of_ne]
    rfl
  all_goals
    simp only [Template.assigned_cons, Template.assigned_nil, Piece.assigned]
    repeat rw [Template.assignedBy_cons_of_ne]
    rfl

theorem assigned_constructorPieces (c : DefinitionContext) :
    Template.assigned (constructorPieces c) = [c.functionName] := by
  simp only [constructorPieces, List.flatten_cons, List.flatten_nil, Template.assigned_append, Template.assigned_cons,
    Template.assigned_nil, Piece.assigned]
  rw [Template.assigned_flatMap_eq_nil (fun _ => rfl), Template.assigned_flatMap_eq_nil (fun _ => rfl)]
  rfl

theorem assigned_enumerationPieces (c : EnumerationContext) :
    Template.assigned (enumerationPieces c) = c.constants.map ConstantContext.name := by
  simp only [enumerationPieces, List.flatten_cons, List.flatten_nil, Template.assigned_append, Template.assigned_cons,
    Template.assigned_nil, Piece.assigned, Template.assigned_flatMap, List.nil_append, List.append_nil]
  exact List.map_eq_flatMap.symm

/-- The names of constants, one for each value of each enumeration. -/
def constantNames (definitions : List Definition) : List String :=
  (definitions.filter Definition.hasEnumeration).flatMap fun d =>
    d.enumeration.map fun v => (ConstantContext.ofValue d.rawName v).name

/-- The names of constructors. -/
def constructorNames (definitions : List Definition) : List String :=
  (definitions.filter isConstructed).map Definition.constructorName

/-- The module assigns the names of its skeleton, its constants, its constructors and its callers. -/
theorem assigned_modulePieces (endpoints : List Endpoint) (definitions : List Definition) (info : Info) :
    Template.assigned (modulePieces endpoints definitions info) =
      skeletonNames ++ (constantNames definitions ++ (constructorNames definitions ++
        endpoints.map fun e => e.operationId.text)) := by
  have hconstants : Template.assigned ((definitions.filter Definition.hasEnumeration).flatMap fun d =>
      enumerationPieces (.ofDefinition d)) = constantNames definitions := by
    simp only [Template.assigned_flatMap, assigned_enumerationPieces, constantNames, EnumerationContext.ofDefinition,
      List.map_map]
    rfl
  have hconstructors : Template.assigned ((definitions.filter isConstructed).flatMap fun d =>
      constructorPieces (.ofDefinition d)) = constructorNames definitions := by
    simp only [Template.assigned_flatMap, assigned_constructorPieces]
    exact List.map_eq_flatMap.symm
  have hcallers : Template.assigned (endpoints.flatMap fun e => callerPieces (.ofEndpoint e)) =
      endpoints.map fun e => e.operationId.text := by
    simp only [Template.assigned_flatMap, assigned_callerPieces]
    exact List.map_eq_flatMap.symm
  simp only [modulePieces, List.flatten_cons, List.flatten_nil, Template.assigned_append, Template.assigned_cons,
    Template.assigned_nil, Piece.assigned, hconstants, hconstructors, hcallers, assignedBy_skeleton,
    List.nil_append, List.append_nil]

end LuaStubs.Rest
