import LuaStubs.Proofs.Attempt
import LuaStubs.Proofs.Template.Occurrence
import LuaStubs.Proofs.Template.Rendering
import LuaStubs.Realtime.Module

/-!
# The text of the realtime module

With the built-in templates the realtime module is always rendered. Its text is
that of `modulePieces`: the skeleton of the module, with the functions of the
messages and the events in it (`renderModule_builtin`). Under *Occurrences* stands
where the names are among the pieces.
-/

namespace LuaStubs.Realtime

open Template (Piece Renders printPieces printPieces_cons printPieces_append)
open Template.Builtin.Realtime (socketStart socketEnd)

/-! ## Pieces -/

/-- The function that sends a message. -/
def senderPieces (c : MessageContext) : List Piece := List.flatten [
  [.text "\n--- ", .text c.functionName, .text "\n-- @param socket Realtime socket.\n"],
  c.fields.flatMap fun f => [.text "-- @param ", .text f.name, .text " (", .text f.luaType, .text ")\n"],
  [.lines [
    "-- @param callback Optional function called with the result.",
    "-- @return The result when called without a callback."]],
  [.function c.functionName, .text c.signature, .text ")\n\tassert(socket)\n"],
  c.fields.flatMap fun f =>
    [.text "\tassert(", .text f.name, .text " == nil or _G.type(", .text f.name, .text ") == '",
     .text f.luaType, .text "')\n"],
  if c.expectsResponse then [.text "\tsocket.cid = socket.cid + 1\n"] else [],
  [.text "\tlocal message = \x7b\n"],
  if c.expectsResponse then [.text "\t\tcid = tostring(socket.cid),\n"] else [],
  [.text "\t\t", .text c.messageKey, .text " = \x7b\n"],
  c.fields.flatMap fun f => [.text "\t\t\t", .text f.name, .text " = ", .text f.name, .text ",\n"],
  [.lines [
    "\t\t\x7d",
    "\t\x7d",
    "\treturn socket_send(socket, message, callback)",
    "end"]]]

/-- The function that sets the handler of an event. -/
def hookPieces (c : EventContext) : List Piece :=
  [.text "\n--- ", .text c.functionName,
   .lines [
    "",
    "-- @param socket Realtime socket.",
    "-- @param fn Handler called with the event message. Replaces any earlier handler."],
   .function c.functionName,
   .lines [
    "socket, fn)",
    "\tassert(socket, \"You must provide a socket\")",
    "\tassert(fn, \"You must provide a function\")"],
   .text "\tsocket.events.", .text c.eventKey, .text " = fn\nend\n"]

/-- The realtime module. -/
def modulePieces (messages : List Proto.Message) (events : List Proto.Event) : List Piece := List.flatten [
  [.lines socketStart],
  messages.flatMap fun m => senderPieces (.ofMessage m),
  [.text "\n\n--\n-- events\n--\n"],
  events.flatMap fun e => [.text "-- ", .text e.hook, .text "\n"],
  events.flatMap fun e => hookPieces (.ofEvent e),
  [.lines socketEnd]]

/-! ## Templates -/

theorem renders_message (c : MessageContext) :
    Renders ⟨c.toJson, []⟩ Template.Builtin.Realtime.message (senderPieces c) := by
  simp only [senderPieces, List.flatten_cons, List.flatten_nil, List.cons_append, List.nil_append]
  refine .text _ (.value (.text _ ?_))
  refine .each c.fields FieldContext.toJson (fun f vars => ?_) (.lines _ ?_)
  · exact .text _ (.value (.text _ (.value (.text _ .nil))))
  refine .function (.value (.text _ ?_))
  refine .each c.fields FieldContext.toJson (fun f vars => ?_) ?_
  · exact .text _ (.value (.text _ (.value (.text _ (.value (.text _ .nil))))))
  refine .whenTrue (.text _ .nil) (.text _ ?_)
  refine .whenTrue (.text _ .nil) (.text _ (.value (.text _ ?_)))
  refine .each c.fields FieldContext.toJson (fun f vars => ?_) (.lines _ .nil)
  exact .text _ (.value (.text _ (.value (.text _ .nil))))

theorem renders_event (c : EventContext) :
    Renders ⟨c.toJson, []⟩ Template.Builtin.Realtime.event (hookPieces c) :=
  .text _ (.value (.lines _ (.function (.lines _ (.text _ (.value (.text _ .nil)))))))

theorem renders_module (c : ModuleContext) :
    Renders ⟨c.toJson, []⟩ Template.Builtin.Realtime.socketModule
      (.lines socketStart :: .text c.messages :: .text "\n\n--\n-- events\n--\n" ::
        ((c.eventIndex.flatMap fun name => [.text "-- ", .text name, .text "\n"]) ++
          [.text c.events, .lines socketEnd])) := by
  refine .lines _ (.value (.text _ ?_))
  refine .each c.eventIndex .string (fun name vars => ?_) (.value (.lines _ .nil)) rfl
  exact .text _ (.item (.text _ .nil))

/-! ## The module -/

theorem renderMessage_builtin (m : Proto.Message) :
    renderMessage .builtin m = .ok (String.ofList (printPieces (senderPieces (.ofMessage m)))) :=
  Template.render_of_renders rfl (renders_message _)

theorem renderEvent_builtin (e : Proto.Event) :
    renderEvent .builtin e = .ok (String.ofList (printPieces (hookPieces (.ofEvent e)))) :=
  Template.render_of_renders rfl (renders_event _)

/-- The module is rendered for all messages and events. -/
theorem renderModule_builtin (messages : List Proto.Message) (events : List Proto.Event) :
    renderModule .builtin messages events = .ok (String.ofList (printPieces (modulePieces messages events))) := by
  rw [renderModule, mapM_eq_ok renderMessage_builtin, mapM_eq_ok renderEvent_builtin]
  refine (Template.render_of_renders rfl (renders_module _)).trans (congrArg (Except.ok ∘ String.ofList) ?_)
  simp only [modulePieces, List.flatten_cons, List.flatten_nil, List.cons_append, List.nil_append, List.flatMap_map,
    printPieces_cons, printPieces_append, Template.chars_join]

/-! ## Occurrences -/

section Occurrences

variable {messages : List Proto.Message} {events : List Proto.Event} {ps : List Piece}

theorem infix_of_message {m : Proto.Message} (hm : m ∈ messages) (h : ps <:+: senderPieces (.ofMessage m)) :
    ps <:+: modulePieces messages events :=
  Template.infix_flatten (.tail _ (.head _)) (Template.infix_flatMap hm h)

theorem infix_of_event {e : Proto.Event} (he : e ∈ events) (h : ps <:+: hookPieces (.ofEvent e)) :
    ps <:+: modulePieces messages events :=
  Template.infix_flatten (.tail _ (.tail _ (.tail _ (.tail _ (.head _))))) (Template.infix_flatMap he h)

theorem infix_senderPieces_function (c : MessageContext) : [.function c.functionName] <:+: senderPieces c :=
  Template.infix_flatten (.tail _ (.tail _ (.tail _ (.head _)))) ⟨[], _, rfl⟩

theorem infix_senderPieces_signature (c : MessageContext) : [.text c.signature] <:+: senderPieces c :=
  Template.infix_flatten (.tail _ (.tail _ (.tail _ (.head _)))) ⟨[_], _, rfl⟩

/-- The fields are parameters between the socket and the callback. -/
theorem infix_signature {m : Proto.Message} {f : Proto.Field} (hf : f ∈ m.fields) :
    (", " ++ f.name ++ ", ").toList <:+: (MessageContext.ofMessage m).signature.toList :=
  Template.infix_commaSeparated (List.mem_map_of_mem hf)

theorem infix_senderPieces_payload (c : MessageContext) :
    [.text "\t\t", .text c.messageKey, .text " = \x7b\n"] <:+: senderPieces c :=
  Template.infix_flatten (.tail _ (.tail _ (.tail _ (.tail _ (.tail _ (.tail _ (.tail _ (.tail _ (.head _)))))))))
    (List.infix_refl _)

theorem infix_senderPieces_field {c : MessageContext} {f : FieldContext} (hf : f ∈ c.fields) :
    [.text "\t\t\t", .text f.name, .text " = "] <:+: senderPieces c :=
  Template.infix_flatten
    (.tail _ (.tail _ (.tail _ (.tail _ (.tail _ (.tail _ (.tail _ (.tail _ (.tail _ (.head _))))))))))
    (Template.infix_flatMap hf ⟨[], _, rfl⟩)

theorem infix_hookPieces_function (c : EventContext) : [.function c.functionName] <:+: hookPieces c :=
  ⟨[.text "\n--- ", .text c.functionName, _], _, rfl⟩

theorem infix_hookPieces_handler (c : EventContext) :
    [.text "\tsocket.events.", .text c.eventKey, .text " = fn\nend\n"] <:+: hookPieces c :=
  ⟨[.text "\n--- ", .text c.functionName, _, _, _], [], rfl⟩

end Occurrences

/-! ## Assignments -/

/-- The functions and the constants of the skeleton. -/
def skeletonNames : List String :=
  ["create", "connect", "send", "on_disconnect",
   "CHANNELTYPE_UNSPECIFIED", "CHANNELTYPE_ROOM", "CHANNELTYPE_DIRECT_MESSAGE", "CHANNELTYPE_GROUP",
   "ERROR_RUNTIME_EXCEPTION", "ERROR_UNRECOGNIZED_PAYLOAD", "ERROR_MISSING_PAYLOAD", "ERROR_BAD_INPUT",
   "ERROR_MATCH_NOT_FOUND", "ERROR_MATCH_JOIN_REJECTED", "ERROR_RUNTIME_FUNCTION_NOT_FOUND",
   "ERROR_RUNTIME_FUNCTION_EXCEPTION"]

theorem assignedBy_skeleton :
    Template.assignedBy socketStart ++ Template.assignedBy socketEnd = skeletonNames := by
  unfold socketStart socketEnd
  repeat rw [Template.assignedBy_cons]
  simp [Template.assignedName?, Template.functionStart, Template.constantStart, Text.dropLead?, Template.assignedBy,
    skeletonNames]

theorem assigned_senderPieces (c : MessageContext) : Template.assigned (senderPieces c) = [c.functionName] := by
  simp only [senderPieces, List.flatten_cons, List.flatten_nil, Template.assigned_append, Template.assigned_cons,
    Template.assigned_nil, Piece.assigned]
  rw [Template.assigned_flatMap_eq_nil fun _ => rfl, Template.assigned_flatMap_eq_nil fun _ => rfl,
    Template.assigned_ite_eq_nil rfl, Template.assigned_ite_eq_nil rfl, Template.assigned_flatMap_eq_nil fun _ => rfl]
  repeat rw [Template.assignedBy_cons_of_ne]
  rfl

theorem assigned_hookPieces (c : EventContext) : Template.assigned (hookPieces c) = [c.functionName] := by
  simp only [hookPieces, Template.assigned_cons, Template.assigned_nil, Piece.assigned]
  -- The first line is blank.
  rw [Template.assignedBy_cons]
  repeat rw [Template.assignedBy_cons_of_ne]
  rfl

/-- The module assigns the names of its skeleton, its senders and its hooks. -/
theorem assigned_modulePieces (messages : List Proto.Message) (events : List Proto.Event) :
    (Template.assigned (modulePieces messages events)).Perm
      (skeletonNames ++ (messages.map (fun m => m.key.text) ++ events.map Proto.Event.hook)) := by
  have hsenders : Template.assigned (messages.flatMap fun m => senderPieces (.ofMessage m)) =
      messages.map fun m => m.key.text := by
    simp only [Template.assigned_flatMap, assigned_senderPieces]
    exact List.map_eq_flatMap.symm
  have hhooks : Template.assigned (events.flatMap fun e => hookPieces (.ofEvent e)) =
      events.map Proto.Event.hook := by
    simp only [Template.assigned_flatMap, assigned_hookPieces]
    exact List.map_eq_flatMap.symm
  have hindex : Template.assigned (events.flatMap fun e => [.text "-- ", .text e.hook, .text "\n"]) = [] :=
    Template.assigned_flatMap_eq_nil (fun _ => rfl) _
  simp only [modulePieces, List.flatten_cons, List.flatten_nil, Template.assigned_append, Template.assigned_cons,
    Template.assigned_nil, Piece.assigned, hsenders, hhooks, hindex, List.nil_append, List.append_nil,
    ← assignedBy_skeleton, List.append_assoc]
  refine List.Perm.append_left _ ?_
  rw [← List.append_assoc]
  exact List.perm_append_comm

end LuaStubs.Realtime
