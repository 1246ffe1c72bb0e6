import LuaStubs.Json.Value
import LuaStubs.Text.Quoted

/-!
# What can be wrong with a JSON document

A text may end too early or be ill formed; a value may have the wrong shape for
the record that is read from it. `ShapeFault.message` words the second kind: it
says what stands there and what was wanted.
-/

namespace LuaStubs.Json

/-- What stands where something else was wanted. -/
inductive Found where
  | null
  | boolean (b : Bool)
  | number (n : Number)
  | text (s : String)
  | sequence
  | map
  deriving DecidableEq, Repr

/-- What a decoder wants. -/
inductive Wanted where
  | text
  | boolean
  | sequence
  | map
  /-- A record, written as an object or as the array of its fields. -/
  | record (name : String)
  deriving DecidableEq, Repr

/-- A value of the wrong shape. -/
inductive ShapeFault where
  | mismatch (found : Found) (wanted : Wanted)
  | missingField (name : String)
  | repeatedField (name : String)
  /-- An array of `length` items for a record of `fields` fields, with a necessary one missing. -/
  | tooFewItems (length : Nat) (record : String) (fields : Nat)
  /-- An array of `length` items, which is more than the record has fields. -/
  | tooManyItems (length : Nat)
  deriving DecidableEq, Repr

/-- What is wrong with a document. -/
inductive Fault where
  /-- The text ends inside the document. -/
  | truncated
  /-- The text is no JSON, or goes beyond a limit of the reader. -/
  | malformed
  | shape (fault : ShapeFault)
  deriving DecidableEq, Repr

/-- What a value is, as a fault tells it. -/
def Value.found : Value → Found
  | .null => .null
  | .bool b => .boolean b
  | .number n => .number n
  | .string s => .text s
  | .array _ => .sequence
  | .object _ => .map

/-- The wording of what was found. Texts are quoted. -/
def Found.message : Found → String
  | .null => "null"
  | .boolean b => "boolean `" ++ (if b then "true" else "false") ++ "`"
  | .number (.int n) => "integer `" ++ (Number.int n).text ++ "`"
  | .number (.float x) => "floating point `" ++ (Number.float x).text ++ "`"
  | .text s => "string " ++ Text.quoted s
  | .sequence => "sequence"
  | .map => "map"

/-- The wording of what was wanted. -/
def Wanted.message : Wanted → String
  | .text => "a string"
  | .boolean => "a boolean"
  | .sequence => "a sequence"
  | .map => "a map"
  | .record name => "struct " ++ name

/-- The wording of a wrong shape. -/
def ShapeFault.message : ShapeFault → String
  | .mismatch found wanted => "invalid type: " ++ found.message ++ ", expected " ++ wanted.message
  | .missingField name => "missing field `" ++ name ++ "`"
  | .repeatedField name => "duplicate field `" ++ name ++ "`"
  | .tooFewItems length record fields =>
    "invalid length " ++ String.ofList (digitsOf length) ++ ", expected struct " ++ record ++
      " with " ++ String.ofList (digitsOf fields) ++ " elements"
  | .tooManyItems length =>
    "invalid length " ++ String.ofList (digitsOf length) ++ ", expected fewer elements in array"

/-- The wording of a fault. -/
def Fault.message : Fault → String
  | .truncated => "eof"
  | .malformed => "syntax"
  | .shape fault => fault.message

end LuaStubs.Json
