import LuaStubs.Toml.Value

/-!
# Records in TOML

A record is written as a table that has no other keys than its fields, or as an
array of its fields in order, in which fields may be missing at the end and what
follows the last one is left alone.
-/

namespace LuaStubs.Toml

/-- The values of a record's fields by their keys. -/
def fields? (keys : List String) : Value → Option (Entries Value)
  | .table entries => if entries.all fun e => e.1 ∈ keys then some entries else none
  | .array items => some (keys.zip items)
  | _ => none

/-- The field of a key, if it is there and `decode` reads it. -/
def required? {α : Type} (key : String) (decode : Value → Option α) (fields : Entries Value) :
    Option α :=
  (fields.get? key).bind decode

/-- The field of a key as `decode` reads it, or `default` if it is not there. -/
def optional? {α : Type} (key : String) (default : α) (decode : Value → Option α)
    (fields : Entries Value) : Option α :=
  match fields.get? key with
  | some v => decode v
  | none => some default

namespace Value

/-- The text that a value is. -/
def text? : Value → Option String
  | .text s => some s
  | _ => none

/-- The boolean that a value is. -/
def boolean? : Value → Option Bool
  | .boolean b => some b
  | _ => none

/-- The list of what `decode` reads. -/
def list? {α : Type} (decode : Value → Option α) : Value → Option (List α)
  | .array items => items.mapM decode
  | _ => none

/-- Whether a value is an array or a table with nothing in it. -/
def isEmpty : Value → Bool
  | .array items => items.isEmpty
  | .table entries => entries.isEmpty
  | _ => false

end Value

end LuaStubs.Toml
