import LuaStubs.Json.Fault

/-!
# Decoding values

A decoder reads domain data off a JSON value, or says what has the wrong shape.
A record may be written as an object, whose unknown keys are ignored, or as the
array of its fields in order; the first fault in the order of the text counts.
-/

namespace LuaStubs.Json

/-- A way to read data of type `α` off a value. -/
abbrev Decoder (α : Type) := Value → Except ShapeFault α

/-- The fault of a value that is not what was wanted. -/
def Value.mismatch (v : Value) (wanted : Wanted) : ShapeFault := .mismatch v.found wanted

namespace Decoder

/-- A string. -/
def text : Decoder String
  | .string s => .ok s
  | v => .error (v.mismatch .text)

/-- True or false. -/
def boolean : Decoder Bool
  | .bool b => .ok b
  | v => .error (v.mismatch .boolean)

/-- Null, or what `d` reads. -/
def optional {α : Type} (d : Decoder α) : Decoder (Option α)
  | .null => .ok none
  | v => (d v).map some

/-- An array of what `d` reads. -/
def list {α : Type} (d : Decoder α) : Decoder (List α)
  | .array items => items.mapM d
  | v => .error (v.mismatch .sequence)

/-- An object of what `d` reads. -/
def entries {α : Type} (d : Decoder α) : Decoder (Entries α)
  | .object members => members.mapM fun m => (d m.2).map (m.1, ·)
  | v => .error (v.mismatch .map)

end Decoder

/-- A field of a record under construction: its key, and how its value is taken in. -/
abbrev RecordField (σ : Type) := String × (Value → σ → Except ShapeFault σ)

/-- A field that `d` reads and `set` puts into the record. -/
def RecordField.of {σ α : Type} (key : String) (d : Decoder α) (set : α → σ → σ) : RecordField σ :=
  (key, fun v acc => (d v).map (set · acc))

/-- Takes in the members of an object, in their order. -/
def takeMembers {σ : Type} (fields : List (RecordField σ)) :
    List (String × Value) → σ → Except ShapeFault σ
  | [], acc => .ok acc
  | (key, v) :: rest, acc =>
    match fields.lookup key with
    | some take => do takeMembers fields rest (← take v acc)
    | none => takeMembers fields rest acc

/-- Takes in the items of an array as the fields in their order. -/
def takeItems {σ : Type} : List (RecordField σ) → List Value → σ → Except ShapeFault σ
  | field :: fields, v :: rest, acc => do takeItems fields rest (← field.2 v acc)
  | _, _, acc => .ok acc

/-- Reads a record all of whose fields have a default, which `init` holds. -/
def decodeRecord {σ : Type} (name : String) (fields : List (RecordField σ)) (init : σ) : Decoder σ
  | .object members => takeMembers fields members init
  | .array items => do
    let acc ← takeItems fields items init
    if items.length ≤ fields.length then .ok acc else .error (.tooManyItems items.length)
  | v => .error (v.mismatch (.record name))

end LuaStubs.Json
