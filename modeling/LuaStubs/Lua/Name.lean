import LuaStubs.Category
import LuaStubs.Identifier

/-!
# Names in generated code

`argumentName` makes the name of a function argument out of any text, and
`constantName` the name of a constant.
-/

namespace LuaStubs.Lua

/-- The characters of an ASCII identifier. -/
def isNamePart (c : Char) : Bool := c.isAlphanum || c == separator

/-- An argument name without its type: what is left of `name` when only the characters of an ASCII
identifier are kept, in snake case. It is never empty and does not start with a digit. -/
def argumentBase (name : String) : List Char :=
  match normalizeFrom true false (name.toList.filter isNamePart) with
  | [] => ['a', 'r', 'g']
  | c :: cs => if c.isDigit then separator :: c :: cs else c :: cs

/-- The name of an argument. The Lua type at its end keeps it from hiding a global function such as
`type`, which generated code calls. -/
def argumentName (name : String) (category : Category) : String :=
  String.ofList (argumentBase name ++ separator :: category.luaType.toList)

/-- The upper-case form of a normalized name. -/
def constantName (name : String) : String :=
  String.ofList (Text.toUpper (normalizeFrom true false name.toList))

end LuaStubs.Lua
