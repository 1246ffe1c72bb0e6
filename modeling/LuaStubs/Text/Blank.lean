import LuaStubs.Text.CharSet

/-!
# White space

`isBlank` is Unicode's White_Space property. `trimStart`, `trimEnd` and `trim`
remove it from the ends of a text.
-/

namespace LuaStubs.Text

/-- The characters with the White_Space property. -/
def blankRanges : List (Nat × Nat) :=
  [(0x9, 0xD), (0x20, 0x20), (0x85, 0x85), (0xA0, 0xA0), (0x1680, 0x1680), (0x2000, 0x200A),
   (0x2028, 0x2029), (0x202F, 0x202F), (0x205F, 0x205F), (0x3000, 0x3000)]

/-- White space, as Unicode defines it. -/
def isBlank (c : Char) : Bool := inRanges blankRanges c.toNat

/-- The text without its leading white space. -/
def trimStart (s : List Char) : List Char := s.dropWhile isBlank

/-- The text without its trailing white space. -/
def trimEnd (s : List Char) : List Char := (s.reverse.dropWhile isBlank).reverse

/-- The text without white space at either end. -/
def trim (s : List Char) : List Char := trimEnd (trimStart s)

/-- A text of white space only, or none at all. -/
def isBlankText (s : List Char) : Bool := s.all isBlank

end LuaStubs.Text
