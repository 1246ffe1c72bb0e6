import LuaStubs.Json.Value
import LuaStubs.Text.Painted

/-!
# JSON values for people to read

`Value.pretty` writes a value with one entry a line. It shows strings as they
are, without escapes, and paints every value and key in the colour of its kind.
-/

namespace LuaStubs.Json

/-- What is painted in a colour of its own. -/
inductive Kind where
  | null
  | boolean
  | number
  | text
  | key
  deriving DecidableEq, Repr

/-- The style of a kind: nulls are faint, booleans yellow, numbers cyan, strings green, and keys
bold and blue. -/
def Kind.style : Kind → List Char
  | .null => ['2']
  | .boolean => ['3', '3']
  | .number => ['3', '6']
  | .text => ['3', '2']
  | .key => ['1', ';', '3', '4']

/-- A text of a kind, in its colour if there is to be colour. -/
def paint (color : Bool) (kind : Kind) (s : List Char) : List Char :=
  if color then Text.painted kind.style s else s

/-- A text of a kind between double quotes, which are not painted. -/
def paintQuoted (color : Bool) (kind : Kind) (s : List Char) : List Char :=
  '"' :: paint color kind s ++ ['"']

/-- Two blanks for each level. -/
def indent (level : Nat) : List Char := List.replicate (2 * level) ' '

/-- Entries one a line, each but the last with a comma. -/
def entryLines (level : Nat) : List (List Char) → List Char
  | [] => []
  | [x] => indent level ++ x ++ ['\n']
  | x :: xs => indent level ++ x ++ [',', '\n'] ++ entryLines level xs

/-- A container at a level: its entries between brackets, or the brackets alone. -/
def bracketed (opening closing : Char) (level : Nat) (entries : List (List Char)) : List Char :=
  if entries.isEmpty then [opening, closing]
  else opening :: '\n' :: entryLines (level + 1) entries ++ indent level ++ [closing]

namespace Value

mutual

/-- A value at a level of indentation. -/
def prettyChars (color : Bool) (level : Nat) : Value → List Char
  | .null => paint color .null "null".toList
  | .bool b => paint color .boolean (if b then "true".toList else "false".toList)
  | .number n => paint color .number n.text.toList
  | .string s => paintQuoted color .text s.toList
  | .array items => bracketed '[' ']' level (prettyItems color (level + 1) items)
  | .object members =>
    bracketed '\x7b' '\x7d' level (prettyMembers color (level + 1) members)

/-- The items of an array at a level of indentation. -/
def prettyItems (color : Bool) (level : Nat) : List Value → List (List Char)
  | [] => []
  | v :: vs => prettyChars color level v :: prettyItems color level vs

/-- The members of an object at a level of indentation. -/
def prettyMembers (color : Bool) (level : Nat) : List (String × Value) → List (List Char)
  | [] => []
  | (k, v) :: rest =>
    (paintQuoted color .key k.toList ++ ':' :: ' ' :: prettyChars color level v) ::
      prettyMembers color level rest

end

/-- The value for people to read. -/
def pretty (color : Bool) (v : Value) : String := String.ofList (v.prettyChars color 0)

end Value

end LuaStubs.Json
