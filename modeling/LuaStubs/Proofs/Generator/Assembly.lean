import LuaStubs.Proofs.Realtime.Pieces
import LuaStubs.Proofs.Rest.Pieces
import LuaStubs.Proofs.Template.Sources
import LuaStubs.Proofs.Template.Text

/-!
# The modules as texts

What the built-in templates are filled in to, as plain texts. The texts of a
context are put between fixed ones as they are, whatever they contain, and a
module is its fixed parts with the parts of all its entities between them
(`modules_spliced`).
-/

namespace LuaStubs.Rest

open Api (Definition Property)

/-- The text of the function that makes a value of a definition: a line of its comment and an entry of its
table for each property. -/
def constructorText (d : Definition) : String :=
  "\n--- create_" ++ d.name.text ++ "\n-- " ++ Lua.commentText d.description ++ "\n" ++
  String.join (d.properties.map fun p =>
    "-- @param " ++ p.argument ++ " (" ++ p.category.luaType ++ ") " ++ Lua.commentText p.description ++ "\n") ++
  "function M.create_" ++ d.name.text ++ "(" ++ Text.commaSeparated (d.properties.map Property.argument) ++
    ")\n\treturn \x7b\n" ++
  String.join (d.properties.map fun p => "\t\t[\"" ++ p.name ++ "\"] = " ++ p.argument ++ ",\n") ++
  "\t\x7d\nend\n"

/-- The text of the constants of an enumeration, one for each value. -/
def enumerationText (d : Definition) : String :=
  "\n--- " ++ d.name.text ++ "\n-- " ++ Lua.commentText d.description ++ "\n" ++
  String.join (d.enumeration.map fun value =>
    "M." ++ Lua.constantName d.rawName ++ "_" ++ ConstantContext.nameEnd value ++ " = \"" ++
      Lua.escapeString value ++ "\"\n")

theorem renderDefinition_eq_constructorText (d : Definition) :
    renderDefinition .builtin d = .ok (constructorText d) := by
  have hcomment : "\n--- create_" = "\n--- " ++ "create_" := rfl
  have hline : "function M.create_" = "function M." ++ "create_" := rfl
  rw [renderDefinition_builtin, Template.ofList_printPieces]
  unfold constructorText
  simp only [hcomment, hline, constructorPieces, DefinitionContext.ofDefinition, PropertyContext.ofProperty,
    Definition.constructorName, List.flatten_cons, List.flatten_nil, List.flatMap_map, Template.pieceString_append,
    Template.pieceString_flatMap, Template.pieceString_cons, Template.pieceString_nil, Template.Piece.string,
    String.append_assoc, String.append_empty]

theorem renderEnumeration_eq_enumerationText (d : Definition) :
    renderEnumeration .builtin d = .ok (enumerationText d) := by
  rw [renderEnumeration_builtin, Template.ofList_printPieces]
  unfold enumerationText
  simp [enumerationPieces, EnumerationContext.ofDefinition, ConstantContext.ofValue, List.flatMap_map,
    Template.pieceString_flatMap, Template.Piece.string, String.append_assoc]

end LuaStubs.Rest

namespace LuaStubs.Generator

open Api (Definition Endpoint Info)
open Template (linesString pieceString)
open Template.Builtin.Realtime (socketStart socketEnd)
open Template.Builtin.Rest (clientStart)

/-- The sources of the built-in templates can be registered, and with these templates nothing fails.
The parts of a module are the texts of their contexts between fixed texts, whatever a context
contains. A constructor has a line and an entry for each property, and an enumeration a constant for
each value. The module has the parts of all its entities, in their order, and its skeleton around
them. -/
theorem modules_spliced :
    (∃ set : TemplateSet, TemplateSet.ofSources = .ok set ∧
      ∀ name context, set.render name context = TemplateSet.builtin.render name context) ∧
    (∀ c : Realtime.MessageContext,
      TemplateSet.builtin.render "realtime/message" c.toJson = .ok (pieceString (Realtime.senderPieces c))) ∧
    (∀ c : Realtime.EventContext,
      TemplateSet.builtin.render "realtime/event" c.toJson = .ok (pieceString (Realtime.hookPieces c))) ∧
    (∀ c : Rest.EndpointContext,
      TemplateSet.builtin.render "rest/endpoint" c.toJson = .ok (pieceString (Rest.callerPieces c))) ∧
    (∀ c : Rest.DefinitionContext,
      TemplateSet.builtin.render "rest/definition" c.toJson = .ok (pieceString (Rest.constructorPieces c))) ∧
    (∀ c : Rest.EnumerationContext,
      TemplateSet.builtin.render "rest/enum" c.toJson = .ok (pieceString (Rest.enumerationPieces c))) ∧
    (∀ d : Definition, Rest.renderDefinition .builtin d = .ok (Rest.constructorText d) ∧
      Rest.renderEnumeration .builtin d = .ok (Rest.enumerationText d)) ∧
    (∀ (messages : List Proto.Message) (events : List Proto.Event), ∃ senders hooks,
      messages.mapM (Realtime.renderMessage .builtin) = .ok senders ∧
      events.mapM (Realtime.renderEvent .builtin) = .ok hooks ∧
      Realtime.renderModule .builtin messages events = .ok (
        linesString socketStart ++ String.join senders ++ "\n\n--\n-- events\n--\n" ++
        String.join (events.map fun e => "-- " ++ e.hook ++ "\n") ++ String.join hooks ++ linesString socketEnd)) ∧
    ∀ (endpoints : List Endpoint) (definitions : List Definition) (info : Info), ∃ enumerations constructors callers,
      (definitions.filter fun d => d.hasEnumeration).mapM (Rest.renderEnumeration .builtin) = .ok enumerations ∧
      (definitions.filter fun d => !d.hasEnumeration && d.hasProperties).mapM (Rest.renderDefinition .builtin) =
        .ok constructors ∧
      endpoints.mapM (Rest.renderEndpoint .builtin) = .ok callers ∧
      Rest.renderModule .builtin endpoints definitions info = .ok (
        "--[[\n" ++ info.title.getD "" ++ " " ++ info.version.getD "" ++ linesString clientStart ++
        String.join enumerations ++ "\n\n--\n-- Objects\n--\n" ++ String.join constructors ++
        "\n\n--\n-- Endpoints\n--\n" ++ String.join callers ++ "\n\nreturn M\n") := by
  refine ⟨TemplateSet.exists_ofSources, fun c => ?_, fun c => ?_, fun c => ?_, fun c => ?_, fun c => ?_, fun d => ?_,
    fun messages events => ?_, fun endpoints definitions info => ?_⟩
  · exact Template.render_pieceString rfl (Realtime.renders_message c)
  · exact Template.render_pieceString rfl (Realtime.renders_event c)
  · exact Template.render_pieceString rfl (Rest.renders_endpoint c)
  · exact Template.render_pieceString rfl (Rest.renders_definition c)
  · exact Template.render_pieceString rfl (Rest.renders_enumeration c)
  · exact ⟨Rest.renderDefinition_eq_constructorText d, Rest.renderEnumeration_eq_enumerationText d⟩
  · refine ⟨_, _, mapM_eq_ok Realtime.renderMessage_builtin messages,
      mapM_eq_ok Realtime.renderEvent_builtin events, ?_⟩
    rw [Realtime.renderModule_builtin]
    simp only [Template.ofList_printPieces, Realtime.modulePieces, List.flatten_cons, List.flatten_nil,
      Template.pieceString_append, Template.pieceString_nil, Template.pieceString_cons, Template.pieceString_flatMap,
      Template.Piece.string, String.append_assoc, String.append_empty]
  · have hconstructed : (fun d : Definition => !d.hasEnumeration && d.hasProperties) = Rest.isConstructed := rfl
    rw [hconstructed]
    refine ⟨_, _, _, mapM_eq_ok Rest.renderEnumeration_builtin _, mapM_eq_ok Rest.renderDefinition_builtin _,
      mapM_eq_ok Rest.renderEndpoint_builtin endpoints, ?_⟩
    rw [Rest.renderModule_builtin]
    simp only [Template.ofList_printPieces, Rest.modulePieces, List.flatten_cons, List.flatten_nil,
      Template.pieceString_append, Template.pieceString_nil, Template.pieceString_cons, Template.pieceString_flatMap,
      Template.Piece.string, String.append_assoc, String.append_empty]

/-- A value that looks like a part of a template is put in as it is. -/
example : TemplateSet.builtin.render "rest/enum"
    (Rest.EnumerationContext.toJson ⟨"mark", "", [⟨"M", "\x7b\x7ba\x7d\x7d"⟩]⟩) = .ok "\n--- mark\n-- \nM.M = \"\x7b\x7ba\x7d\x7d\"\n" := by
  decide +kernel

end LuaStubs.Generator
