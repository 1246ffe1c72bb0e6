import LuaStubs.Text.Blank

/-!
# Comment text

A description becomes part of a line comment. `commentText` drops the white
space at its end and starts each of its further lines as a comment line.
-/

namespace LuaStubs.Lua

/-- Each line break, whether one or two characters, becomes a line feed. -/
def joinLineBreaks : List Char → List Char
  | [] => []
  | '\r' :: '\n' :: cs => '\n' :: joinLineBreaks cs
  | c :: cs => c :: joinLineBreaks cs

/-- Each line feed is followed by the start of a line comment. -/
def continueLines (s : List Char) : List Char :=
  s.flatMap fun c => if c = '\n' then ['\n', '-', '-', ' '] else [c]

/-- A text as the rest of a comment line and of further comment lines. -/
def commentText (s : String) : String :=
  String.ofList (continueLines (joinLineBreaks (Text.trimEnd s.toList)))

end LuaStubs.Lua
