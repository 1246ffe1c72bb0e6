import LuaStubs.Json.Decode

/-!
# Schemas

A schema describes a value of the API. `Schema.decode` reads one off a JSON
value; nested schemas are read with it, so a fault anywhere inside rejects the
whole.
-/

namespace LuaStubs.Api

/-- A schema, as far as stubs depend on it. -/
structure Schema where
  /-- The reference to a definition. -/
  reference : Option String := none
  /-- The name of the type. -/
  kind : Option String := none
  title : Option String := none
  description : Option String := none
  /-- The properties of an object. -/
  properties : List (String × Schema) := []
  /-- The schema of the elements of an array. -/
  items : Option Schema := none
  /-- The values of an enumeration. -/
  enumeration : List Json.Value := []
  /-- The names of the properties that an object must have. -/
  required : List String := []
  deriving Inhabited, Repr

namespace Schema

/-- The title, or else the description. -/
def summary (s : Schema) : Option String := s.title <|> s.description

/-- The keys of a schema, in the order of its array form. -/
def keys : List String :=
  ["$ref", "type", "title", "description", "properties", "items", "enum", "required"]

/-- Takes in the value of one key. The two parts that hold schemas come as `nested`, the value read
as a schema, and `nestedEntries`, the value read as an object of schemas. -/
def take (key : String) (v : Json.Value) (nested : Unit → Except Json.ShapeFault (Option Schema))
    (nestedEntries : Unit → Except Json.ShapeFault (Entries Schema)) (s : Schema) :
    Except Json.ShapeFault Schema :=
  match key with
  | "$ref" => do return { s with reference := ← Json.Decoder.optional .text v }
  | "type" => do return { s with kind := ← Json.Decoder.optional .text v }
  | "title" => do return { s with title := ← Json.Decoder.optional .text v }
  | "description" => do return { s with description := ← Json.Decoder.optional .text v }
  | "properties" => do return { s with properties := ← nestedEntries () }
  | "items" => do return { s with items := ← nested () }
  | "enum" => do return { s with enumeration := ← Json.Decoder.list .ok v }
  | "required" => do return { s with required := ← Json.Decoder.list .text v }
  | _ => .ok s

mutual

/-- Reads a schema: an object, or an array of its fields in order. -/
def decode : Json.Value → Except Json.ShapeFault Schema
  | .object members => decodeMembers members {}
  | .array items => do
    let s ← decodeItems items keys {}
    if items.length ≤ keys.length then .ok s else .error (.tooManyItems items.length)
  | v => .error (v.mismatch (.record "Schema"))

/-- Reads a schema or null. -/
def decodeOptional : Json.Value → Except Json.ShapeFault (Option Schema)
  | .null => .ok none
  | .object members => (decodeMembers members {}).map some
  | .array items => do
    let s ← decodeItems items keys {}
    if items.length ≤ keys.length then .ok (some s) else .error (.tooManyItems items.length)
  | v => .error (v.mismatch (.record "Schema"))

/-- Reads an object of schemas. -/
def decodeEntries : Json.Value → Except Json.ShapeFault (Entries Schema)
  | .object members => decodeAll members
  | v => .error (v.mismatch .map)

/-- Reads each member of an object as a schema. -/
def decodeAll : List (String × Json.Value) → Except Json.ShapeFault (Entries Schema)
  | [] => .ok []
  | (key, v) :: rest => do
    let s ← decode v
    return (key, s) :: (← decodeAll rest)

/-- Takes in the members of a schema, in their order. -/
def decodeMembers : List (String × Json.Value) → Schema → Except Json.ShapeFault Schema
  | [], s => .ok s
  | (key, v) :: rest, s => do
    let s ← take key v (fun _ => decodeOptional v) (fun _ => decodeEntries v) s
    decodeMembers rest s

/-- Takes in the items of an array as the values of `keys`, in their order. -/
def decodeItems : List Json.Value → (keys : List String) → Schema → Except Json.ShapeFault Schema
  | v :: rest, key :: keys, s => do
    let s ← take key v (fun _ => decodeOptional v) (fun _ => decodeEntries v) s
    decodeItems rest keys s
  | _, _, s => .ok s

end

end Schema

end LuaStubs.Api
