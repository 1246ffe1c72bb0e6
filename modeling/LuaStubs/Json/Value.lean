import LuaStubs.Entries
import LuaStubs.Json.Number

/-!
# JSON values

A value keeps the members of an object in the order of their declaration.
-/

namespace LuaStubs.Json

/-- A JSON value. -/
inductive Value where
  | null
  | bool (b : Bool)
  | number (n : Number)
  | string (s : String)
  | array (items : List Value)
  | object (members : List (String × Value))
  deriving Inhabited, Repr

namespace Value

/-- A natural as a value. -/
def ofNat (n : Nat) : Value := .number (.int n)

/-- A list of texts as a value. -/
def ofStrings (xs : List String) : Value := .array (xs.map .string)

/-- A text, or null where there is none. -/
def ofString? : Option String → Value
  | some s => .string s
  | none => .null

end Value

end LuaStubs.Json
