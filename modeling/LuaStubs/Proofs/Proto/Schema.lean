import LuaStubs.Proto.Document
import LuaStubs.Proofs.Proto.Comments

/-!
# Message schemas and their text

A schema has messages with distinct names. A message declares fields, groups of
fields of which one is set, and nested enumerations and messages, whose inside
can be any tree of statements and blocks.

`Schema.print` writes a schema with one declaration on a line. A header and its
closing brace start their lines; every line between them is indented, by as much
as the `Layout` says for it. `MessageDecl.fields` is what a message itself
declares: what is inside a nested declaration is not part of it.
-/

namespace LuaStubs.Proto

/-! ## Names and types -/

/-- What an ASCII identifier goes on with. -/
def isAsciiWord (c : Char) : Bool := c.isAlphanum || c == '_'

/-- An ASCII identifier. -/
structure Name where
  first : Char
  rest : List Char := []
  first_start : Text.isNameStart first = true := by decide
  rest_word : rest.all isAsciiWord = true := by decide
  deriving DecidableEq

namespace Name

def chars (n : Name) : List Char := n.first :: n.rest

def text (n : Name) : String := String.ofList n.chars

end Name

/-- A name with dots, such as `google.protobuf.BoolValue`. -/
structure DottedName where
  /-- Whether there is a dot at the start, too. -/
  absolute : Bool := false
  first : Name
  rest : List Name := []

def DottedName.chars (d : DottedName) : List Char :=
  (if d.absolute then ['.'] else []) ++ d.first.chars ++ d.rest.flatMap fun n => '.' :: n.chars

/-- The type of a field. -/
inductive FieldType where
  | named (name : DottedName)
  | map (key value : DottedName)

namespace FieldType

def chars : FieldType → List Char
  | named name => name.chars
  | map key value => ['m', 'a', 'p', '<'] ++ key.chars ++ [',', ' '] ++ value.chars ++ ['>']

/-- The type as a stub sees it: nothing is known of the keys and values of a map. -/
def wire : FieldType → List Char
  | named name => name.chars
  | map .. => ['m', 'a', 'p']

end FieldType

/-! ## Declarations -/

inductive Qualifier where
  | singular
  | repeated
  | optional
  deriving DecidableEq

/-- A qualifier with the blank behind it. -/
def Qualifier.chars : Qualifier → List Char
  | singular => []
  | repeated => ['r', 'e', 'p', 'e', 'a', 't', 'e', 'd', ' ']
  | optional => ['o', 'p', 't', 'i', 'o', 'n', 'a', 'l', ' ']

/-- The declaration of a field. -/
structure FieldDecl where
  qualifier : Qualifier := .singular
  type : FieldType
  name : Name
  tag : Nat

namespace FieldDecl

/-- What stands between the type and the semicolon. -/
def tail (f : FieldDecl) : List Char := ' ' :: f.name.chars ++ [' ', '=', ' '] ++ Nat.toDigits 10 f.tag

/-- The declaration with the given text for its type. -/
def lineWith (type : List Char) (f : FieldDecl) : List Char :=
  f.qualifier.chars ++ type ++ f.tail ++ [';']

def line (f : FieldDecl) : List Char := f.lineWith f.type.chars

/-- The field that is declared. -/
def field (f : FieldDecl) : Field :=
  ⟨f.name.text, String.ofList f.type.wire, f.qualifier = .repeated⟩

end FieldDecl

/-- A text without braces, line feeds and comments. -/
structure Statement where
  text : List Char
  plain : text.all (fun c => c != '\n' && c != '\x7b' && c != '\x7d') = true := by decide
  no_comment : opensComment text = false := by decide

/-- What is inside a nested declaration. -/
inductive Nested where
  | statement (s : Statement)
  | block (head : Statement) (body : List Nested)

mutual

def Nested.lines : Nested → List (List Char)
  | .statement s => [s.text]
  | .block head body => (head.text ++ [' ', '\x7b']) :: (Nested.linesOf body ++ [['\x7d']])

def Nested.linesOf : List Nested → List (List Char)
  | [] => []
  | x :: xs => x.lines ++ Nested.linesOf xs

end

/-- What a nested declaration declares. -/
inductive NestedKind where
  | enumeration
  | message

def NestedKind.chars : NestedKind → List Char
  | enumeration => ['e', 'n', 'u', 'm']
  | message => ['m', 'e', 's', 's', 'a', 'g', 'e']

/-- What a message declares. -/
inductive Member where
  | field (f : FieldDecl)
  /-- A group of fields of which one is set. -/
  | group (name : Name) (fields : List FieldDecl)
  | nested (kind : NestedKind) (name : Name) (body : List Nested)

namespace Member

def lines : Member → List (List Char)
  | field f => [f.line]
  | group name fields =>
    (['o', 'n', 'e', 'o', 'f', ' '] ++ name.chars ++ [' ', '\x7b']) :: (fields.map FieldDecl.line ++ [['\x7d']])
  | nested kind name body =>
    (kind.chars ++ ' ' :: name.chars ++ [' ', '\x7b']) :: (Nested.linesOf body ++ [['\x7d']])

/-- The fields of the message that a member declares. -/
def fields : Member → List Field
  | field f => [f.field]
  | group _ fields => fields.map FieldDecl.field
  | nested .. => []

end Member

/-- A message at the top level of a schema. -/
structure MessageDecl where
  name : Name
  members : List Member

namespace MessageDecl

/-- What the message starts with, up to its brace. -/
def header (m : MessageDecl) : List Char :=
  ['m', 'e', 's', 's', 'a', 'g', 'e', ' '] ++ m.name.chars ++ [' ', '\x7b']

def lines (m : MessageDecl) : List (List Char) := m.members.flatMap Member.lines

/-- The fields that the message declares for itself, in order. -/
def declared (m : MessageDecl) : List Field := m.members.flatMap Member.fields

/-- The fields of the message. Of fields with one name the first counts. -/
def fields (m : MessageDecl) : List Field := m.declared.eraseDupsBy fun f g => f.name == g.name

end MessageDecl

structure Schema where
  messages : List MessageDecl
  names_distinct : (messages.map MessageDecl.name).Nodup

/-! ## Printing -/

/-- Blanks and tabs, at least one. -/
structure Indent where
  chars : List Char
  nonempty : chars ≠ [] := by decide
  gap : chars.all isGap = true := by decide

/-- How far each line inside a message is indented. -/
abbrev Layout := Nat → Indent

/-- The lines from the `n`-th one on, each behind a line feed and its indentation. -/
def printLines (layout : Layout) (n : Nat) : List (List Char) → List Char
  | [] => []
  | l :: ls => '\n' :: (layout n).chars ++ l ++ printLines layout (n + 1) ls

/-- Messages whose inside starts with the `n`-th line. -/
def printMessages (layout : Layout) (n : Nat) : List MessageDecl → List Char
  | [] => []
  | m :: ms =>
    m.header ++ printLines layout n m.lines ++
      '\n' :: '\x7d' :: '\n' :: printMessages layout (n + m.lines.length) ms

/-- The text of a schema. -/
def Schema.print (layout : Layout) (s : Schema) : String :=
  String.ofList (printMessages layout 0 s.messages)

end LuaStubs.Proto
