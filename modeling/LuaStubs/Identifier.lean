import LuaStubs.Text.Case
import LuaStubs.Text.Search

/-!
# Identifiers

An identifier is a name in snake case. `normalize` brings a name into that form:
runs of separators become one, an upper-case character starts a new part, and
every character becomes lower case. `Identifier.ofName` is the way to make one,
so two identifiers are equal exactly when the normalized names are.
-/

namespace LuaStubs

/-- The character between the parts of an identifier. -/
def separator : Char := '_'

/-- `normalize` on characters. `start` says that no character has been read yet, and `sep` that the
text written so far ends with a separator. -/
def normalizeFrom (start sep : Bool) : List Char → List Char
  | [] => []
  | c :: cs =>
    if c = separator then
      if sep then normalizeFrom false true cs else separator :: normalizeFrom false true cs
    else if Text.isUpper c && !start && !sep then
      separator :: (Text.lower c ++ normalizeFrom false false cs)
    else
      Text.lower c ++ normalizeFrom false false cs

/-- The snake-case form of a name. -/
def normalize (name : String) : String :=
  String.ofList (normalizeFrom true false name.toList)

/-- A normalized name. -/
structure Identifier where
  /-- The name in snake case. -/
  text : String
  deriving DecidableEq, Repr, Inhabited

namespace Identifier

/-- The identifier of a name. -/
def ofName (name : String) : Identifier := ⟨normalize name⟩

instance : ToString Identifier := ⟨Identifier.text⟩

/-- What follows the first of `leads` that the identifier begins with and goes beyond. -/
def remainder? (leads : List String) (id : Identifier) : Option String :=
  leads.findSome? fun lead =>
    match Text.dropLead? lead.toList id.text.toList with
    | some (c :: cs) => some (String.ofList (c :: cs))
    | _ => none

/-- The identifier without the first of `leads` that it begins with. A name equal to one of them
is kept, so that nothing becomes empty. -/
def dropLeads (leads : List String) (id : Identifier) : Identifier :=
  match id.remainder? leads with
  | some rest => ofName rest
  | none => id

/-- Whether `token` occurs in the identifier. -/
def contains (id : Identifier) (token : String) : Bool :=
  Text.hasInfix token.toList id.text.toList

end Identifier

end LuaStubs
