/-!
# Escapes in Lua source

`escapeString` is for a text between double quotes, `escapePattern` for a text
that a Lua pattern is to match literally.
-/

namespace LuaStubs.Lua

/-- The characters with a meaning of their own in a Lua pattern. -/
def patternMagic : List Char := ['^', '$', '(', ')', '%', '.', '[', ']', '*', '+', '-', '?']

/-- A text as a pattern that matches it and nothing else: a percent sign goes before every magic
character. -/
def escapePattern (s : String) : String :=
  String.ofList (s.toList.flatMap fun c => if c ∈ patternMagic then ['%', c] else [c])

/-- A text as the inside of a double-quoted string: a backslash goes before every backslash and
double quote. -/
def escapeString (s : String) : String :=
  String.ofList (s.toList.flatMap fun c => if c = '\\' ∨ c = '"' then ['\\', c] else [c])

end LuaStubs.Lua
