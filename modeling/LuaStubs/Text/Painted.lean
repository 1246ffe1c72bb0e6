/-!
# Painted text

Terminals take the colour and weight of text from escape sequences. `painted`
puts a text between the sequence that starts a style and the one that ends all
styles. Where the text itself ends all styles, its own style starts again.
-/

namespace LuaStubs.Text

/-- The escape sequence of a style, which has a number or several. -/
def styleSequence (style : List Char) : List Char := '\x1b' :: '[' :: style ++ ['m']

/-- The text with its style started again after each end of all styles. -/
def restyled (style : List Char) : List Char → List Char
  | '\x1b' :: '[' :: '0' :: 'm' :: cs =>
    styleSequence ['0'] ++ styleSequence style ++ restyled style cs
  | c :: cs => c :: restyled style cs
  | [] => []

/-- A text in a style. -/
def painted (style s : List Char) : List Char :=
  styleSequence style ++ restyled style s ++ styleSequence ['0']

end LuaStubs.Text
