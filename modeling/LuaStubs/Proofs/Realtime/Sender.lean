import LuaStubs.Proofs.Realtime.Pieces
import LuaStubs.Proofs.Template.Text

/-!
# The text of a sender

The function that sends a message, statement by statement (`senderStatements`). With
the built-in templates its text is its comment, its first line and the texts of its
statements (`renderMessage_statements`). The statements tell what becomes of the id
for the server's answer: a message that expects one has an id allocated and sent,
once, and no other message has.
-/

namespace LuaStubs.Realtime

open Template (linesString pieceString)

/-! ## Statements -/

/-- An entry of the table that a sender sends. -/
inductive MessageEntry where
  /-- The id that was allocated last. -/
  | id
  /-- A table, with the value of each argument under its own name. -/
  | payload (key : String) (arguments : List String)
  deriving DecidableEq

/-- A statement of a sender. -/
inductive SenderStatement where
  | checkSocket
  /-- An argument is nil or of a type. -/
  | checkArgument (argument luaType : String)
  | allocateId
  | makeMessage (entries : List MessageEntry)
  | send
  deriving DecidableEq

def MessageEntry.text : MessageEntry → String
  | id => "\t\tcid = tostring(socket.cid),\n"
  | payload key arguments => String.join (
      ["\t\t", key, " = \x7b\n"] ++ (arguments.map fun a => String.join ["\t\t\t", a, " = ", a, ",\n"]) ++
        ["\t\t\x7d\n"])

def SenderStatement.text : SenderStatement → String
  | checkSocket => "\tassert(socket)\n"
  | checkArgument argument luaType =>
    String.join ["\tassert(", argument, " == nil or _G.type(", argument, ") == '", luaType, "')\n"]
  | allocateId => "\tsocket.cid = socket.cid + 1\n"
  | makeMessage entries =>
    String.join (["\tlocal message = \x7b\n"] ++ entries.map MessageEntry.text ++ ["\t\x7d\n"])
  | send => "\treturn socket_send(socket, message, callback)\n"

/-- The entries of the messages that a statement makes. -/
def SenderStatement.entries : SenderStatement → List MessageEntry
  | makeMessage entries => entries
  | _ => []

/-- The type that the argument of a field has to have. -/
def fieldType (f : Proto.Field) : String :=
  if f.repeated then "table" else (Category.ofWireType f.wireType).luaType

/-- The entries of the table that is sent: the id first, if there is one, and then the payload. -/
def messageEntries (m : Proto.Message) : List MessageEntry :=
  (if m.expectsResponse then [.id] else []) ++ [.payload m.key.text (m.fields.map Proto.Field.name)]

/-- The statements of a sender, in their order. -/
def senderStatements (m : Proto.Message) : List SenderStatement :=
  [.checkSocket] ++ (m.fields.map fun f => .checkArgument f.name (fieldType f)) ++
    (if m.expectsResponse then [.allocateId] else []) ++ [.makeMessage (messageEntries m), .send]

/-- The comment over a sender: its name and its parameters. -/
def senderComment (m : Proto.Message) : String :=
  "\n--- " ++ m.key.text ++ "\n-- @param socket Realtime socket.\n" ++
    String.join (m.fields.map fun f => "-- @param " ++ f.name ++ " (" ++ fieldType f ++ ")\n") ++
    linesString [
      "-- @param callback Optional function called with the result.",
      "-- @return The result when called without a callback."]

/-- The first line of a sender. -/
def senderLine (m : Proto.Message) : String :=
  "function M." ++ m.key.text ++ "(" ++
    Text.commaSeparated (["socket"] ++ m.fields.map Proto.Field.name ++ ["callback"]) ++ ")\n"

/-! ## Texts -/

theorem luaType_category (f : Proto.Field) : f.category.luaType = fieldType f := by
  rw [Proto.Field.category, fieldType]
  split <;> rfl

theorem linesString_senderEnd :
    linesString ["\t\t\x7d", "\t\x7d", "\treturn socket_send(socket, message, callback)", "end"] =
      "\t\t\x7d\n" ++ "\t\x7d\n" ++ "\treturn socket_send(socket, message, callback)\n" ++ "end\n" := by
  simp only [linesString, List.map_cons, List.map_nil, String.join_cons, String.join_nil, String.reduceAppend]

theorem pieceString_senderPieces (m : Proto.Message) :
    pieceString (senderPieces (.ofMessage m)) =
      senderComment m ++ senderLine m ++ String.join ((senderStatements m).map SenderStatement.text) ++ "end\n" := by
  -- The template has the end of the first line and the first statement in one text.
  have hfirst : ")\n\tassert(socket)\n" = ")\n" ++ "\tassert(socket)\n" := rfl
  unfold senderComment senderLine senderStatements messageEntries
  simp only [senderPieces, MessageContext.ofMessage, MessageContext.arguments, FieldContext.ofField, List.flatten_cons,
    List.flatten_nil, List.flatMap_map, Template.pieceString_append, Template.pieceString_flatMap, luaType_category]
  by_cases hresponse : m.expectsResponse = true <;>
  simp only [hresponse, Bool.false_eq_true, if_true, if_false, Template.pieceString_nil, Template.pieceString_cons,
    Template.Piece.string, hfirst, linesString_senderEnd, SenderStatement.text, MessageEntry.text, List.map_append,
    List.map_cons, List.map_nil, List.map_map, List.cons_append, List.nil_append, Function.comp_def, String.join_append,
    String.join_cons, String.join_nil, String.append_assoc, String.append_empty, String.empty_append]

/-! ## Ids -/

theorem count_allocateId (m : Proto.Message) :
    (senderStatements m).count .allocateId = if m.expectsResponse then 1 else 0 := by
  have harguments : (m.fields.map fun f => SenderStatement.checkArgument f.name (fieldType f)).count
      .allocateId = 0 := by
    simp [List.count_eq_zero]
  rw [senderStatements, List.count_append, List.count_append, List.count_append, harguments]
  cases m.expectsResponse <;> rfl

theorem count_id (m : Proto.Message) :
    ((senderStatements m).flatMap SenderStatement.entries).count .id = if m.expectsResponse then 1 else 0 := by
  have harguments : (m.fields.map fun f => SenderStatement.checkArgument f.name (fieldType f)).flatMap
      SenderStatement.entries = [] := by
    simp [SenderStatement.entries]
  rw [senderStatements, List.flatMap_append, List.flatMap_append, List.flatMap_append, harguments, messageEntries]
  cases m.expectsResponse <;> rfl

/-- The text of a sender is its comment, with a line for each field, its first line and its statements. They
check the socket and each field, in order, allocate an id if a response is expected, make the message, with
the id in front of the payload if there is one, and send it. So an id is allocated and sent once for a
message that expects a response, and never for another one. -/
theorem renderMessage_statements (m : Proto.Message) :
    renderMessage .builtin m = .ok (senderComment m ++ senderLine m ++
      String.join ((senderStatements m).map SenderStatement.text) ++ "end\n") ∧
    (senderStatements m).count .allocateId = (if m.expectsResponse then 1 else 0) ∧
    ((senderStatements m).flatMap SenderStatement.entries).count .id = (if m.expectsResponse then 1 else 0) := by
  refine ⟨?_, count_allocateId m, count_id m⟩
  rw [renderMessage_builtin, Template.ofList_printPieces, pieceString_senderPieces]

end LuaStubs.Realtime
