import LuaStubs.Template.Node

/-!
# Parts of built-in templates

Short names for the nodes that the built-in templates are made of.
-/

namespace LuaStubs.Template.Builtin

/-- A text as it is. -/
def text (s : String) : Node := .text s.toList

/-- Lines of text, each with its line feed. -/
def linesText (xs : List String) : List Char := xs.flatMap fun x => x.toList ++ ['\n']

/-- Lines of text. -/
def lines (xs : List String) : Node := .text (linesText xs)

/-- The value of a key. -/
def value (key : String) : Node := .print (.keys [key])

/-- The item of the innermost loop. -/
def item : Node := .print (.keys [])

/-- The body once for every item of the list under a key. -/
def each (key : String) (body : List Node) : Node := .loop (.keys [key]) body none

/-- The body if the value of a key is true. -/
def whenTrue (key : String) (body : List Node) : Node := .choice true (.keys [key]) body []

end LuaStubs.Template.Builtin
