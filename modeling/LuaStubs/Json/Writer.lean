import LuaStubs.Json.Value

/-!
# Writing JSON text

`Value.compact` writes a value on one line, `Value.indented` one entry a line.
Both escape quotes, backslashes and control characters in strings.
-/

namespace LuaStubs.Json

/-- The escape of a character below `U+0020`, in a string. -/
def controlEscape (c : Char) : List Char :=
  match c with
  | '\x08' => ['\\', 'b']
  | '\t' => ['\\', 't']
  | '\n' => ['\\', 'n']
  | '\x0C' => ['\\', 'f']
  | '\r' => ['\\', 'r']
  | c => ['\\', 'u', '0', '0', Nat.digitChar (c.toNat / 16), Nat.digitChar (c.toNat % 16)]

/-- How one character stands in a string. -/
def writeChar (c : Char) : List Char :=
  if c = '"' then ['\\', '"']
  else if c = '\\' then ['\\', '\\']
  else if c.toNat < 32 then controlEscape c
  else [c]

/-- A text as a string, with its quotes. -/
def writeString (s : String) : List Char :=
  '"' :: s.toList.flatMap writeChar ++ ['"']

/-- Texts with commas between them. -/
def withCommas (sep : List Char) : List (List Char) → List Char
  | [] => []
  | [x] => x
  | x :: xs => x ++ ',' :: sep ++ withCommas sep xs

/-- A line feed, followed by two blanks for each level. -/
def newLine (level : Nat) : List Char := '\n' :: List.replicate (2 * level) ' '

/-- A container around its entries, one entry a line. -/
def block (opening closing : Char) (level : Nat) : List (List Char) → List Char
  | [] => [opening, closing]
  | xs =>
    opening :: newLine (level + 1) ++ withCommas (newLine (level + 1)) xs ++ newLine level ++
      [closing]

namespace Value

mutual

/-- A value on one line, without blanks. -/
def compactChars : Value → List Char
  | .null => ['n', 'u', 'l', 'l']
  | .bool true => ['t', 'r', 'u', 'e']
  | .bool false => ['f', 'a', 'l', 's', 'e']
  | .number n => n.text.toList
  | .string s => writeString s
  | .array items => '[' :: withCommas [] (compactItems items) ++ [']']
  | .object members => '\x7b' :: withCommas [] (compactMembers members) ++ ['\x7d']

/-- The items of an array, each on one line. -/
def compactItems : List Value → List (List Char)
  | [] => []
  | v :: vs => compactChars v :: compactItems vs

/-- The members of an object, each on one line. -/
def compactMembers : List (String × Value) → List (List Char)
  | [] => []
  | (k, v) :: rest => (writeString k ++ ':' :: compactChars v) :: compactMembers rest

end

mutual

/-- A value with one entry a line, at a level of indentation. -/
def indentedChars (level : Nat) : Value → List Char
  | .null => ['n', 'u', 'l', 'l']
  | .bool true => ['t', 'r', 'u', 'e']
  | .bool false => ['f', 'a', 'l', 's', 'e']
  | .number n => n.text.toList
  | .string s => writeString s
  | .array items => block '[' ']' level (indentedItems (level + 1) items)
  | .object members => block '\x7b' '\x7d' level (indentedMembers (level + 1) members)

/-- The items of an array at a level of indentation. -/
def indentedItems (level : Nat) : List Value → List (List Char)
  | [] => []
  | v :: vs => indentedChars level v :: indentedItems level vs

/-- The members of an object at a level of indentation. -/
def indentedMembers (level : Nat) : List (String × Value) → List (List Char)
  | [] => []
  | (k, v) :: rest =>
    (writeString k ++ ':' :: ' ' :: indentedChars level v) :: indentedMembers level rest

end

/-- The value on one line. -/
def compact (v : Value) : String := String.ofList v.compactChars

/-- The value with one entry a line. -/
def indented (v : Value) : String := String.ofList (v.indentedChars 0)

end Value

end LuaStubs.Json
