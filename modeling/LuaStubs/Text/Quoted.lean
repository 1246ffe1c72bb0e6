import LuaStubs.Text.HiddenTable

/-!
# Texts in messages and in lists

A message quotes a text between double quotes, so that every character in it can
be told apart: quotes, backslashes and the usual controls get a two-character
escape, and every other character with no glyph of its own its code point. A list
of arguments has its texts joined as they are.
-/

namespace LuaStubs.Text

/-- A character that cannot be read off a message by itself. -/
def isHidden (c : Char) : Bool :=
  if c.toNat < 128 then c.toNat < 32 || c.toNat == 127 else inRanges hiddenRanges c.toNat

/-- The lower-case hexadecimal digits of a number, without leading zeros. -/
def hexDigits (n : Nat) : List Char := Nat.toDigits 16 n

/-- How one character stands in a quoted text. -/
def quotedChar (c : Char) : List Char :=
  match c with
  | '\x00' => ['\\', '0']
  | '\t' => ['\\', 't']
  | '\r' => ['\\', 'r']
  | '\n' => ['\\', 'n']
  | '"' => ['\\', '"']
  | '\\' => ['\\', '\\']
  | c =>
    if isHidden c then ['\\', 'u', '\x7b'] ++ hexDigits c.toNat ++ ['\x7d']
    else [c]

/-- A text between double quotes, with escapes. -/
def quoted (s : String) : String :=
  String.ofList ('"' :: s.toList.flatMap quotedChar ++ ['"'])

/-- The texts with a comma and a blank between them. -/
def commaSeparated (xs : List String) : String := String.intercalate ", " xs

end LuaStubs.Text
