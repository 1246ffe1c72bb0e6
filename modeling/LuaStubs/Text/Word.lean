import LuaStubs.Text.WordTable

/-!
# Word characters

`isWord` and `isDecimal` are the classes of word characters and decimal digits
over all of Unicode; `isNameStart` and `isNamePart` are what a declared name
starts with and goes on with.
-/

namespace LuaStubs.Text

/-- An ASCII letter or an underscore. -/
def isNameStart (c : Char) : Bool := c.isAlpha || c == '_'

/-- A word character: a letter, a mark, a decimal digit, connector punctuation or a join
control. -/
def isWord (c : Char) : Bool :=
  if c.toNat < 128 then c.isAlphanum || c == '_' else inRanges wordRanges c.toNat

/-- A decimal digit of any script. -/
def isDecimal (c : Char) : Bool :=
  if c.toNat < 128 then c.isDigit else inRanges digitRanges c.toNat

end LuaStubs.Text
