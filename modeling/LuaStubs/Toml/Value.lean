import LuaStubs.Entries

/-!
# TOML values

A table keeps its entries in the order of their declaration. Numbers and moments
(dates, times and both) are kept as they are written.
-/

namespace LuaStubs.Toml

/-- A TOML value. -/
inductive Value where
  | text (s : String)
  | boolean (b : Bool)
  | number (literal : String)
  | moment (literal : String)
  | array (items : List Value)
  | table (entries : List (String × Value))
  deriving Inhabited, Repr

end LuaStubs.Toml
