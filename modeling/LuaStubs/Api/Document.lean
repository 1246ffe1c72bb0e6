import LuaStubs.Api.Schema
import LuaStubs.Json.Reader

/-!
# API documents

An API document has a title and a version, paths with their operations, and
definitions. `Outline.ofText` decodes the outer levels while it reads the text,
so a fault there makes the whole document invalid; the entries of a path and the
definitions are kept as JSON values. `Document.ofOutline` then sorts the
definitions into those that are schemas and those that are not, each kept in the
order of declaration.
-/

namespace LuaStubs.Api

open Json (Reader Fault Value)

/-- The title and the version of an API. -/
structure Info where
  title : Option String := none
  version : Option String := none
  deriving DecidableEq, Repr, Inhabited

/-- A document whose operations and definitions have not been looked into. -/
structure Outline where
  info : Info := {}
  /-- The path items, each with the raw values of its keys. -/
  paths : Entries (Entries Value) := []
  definitions : Entries Value := []
  deriving Repr, Inhabited

/-! ## Reading records from the text -/

/-- Reads a value that is not of the wanted shape, and says so. -/
def readMismatch {α : Type} (wanted : Json.Wanted) : Reader α := fun s =>
  let fault (found : Json.Found) : Fault := .shape (.mismatch found wanted)
  match s with
  | [] => .error .truncated
  | 'n' :: rest => do
    let _ ← Json.readWord ['u', 'l', 'l'] rest
    .error (fault .null)
  | 't' :: rest => do
    let _ ← Json.readWord ['r', 'u', 'e'] rest
    .error (fault (.boolean true))
  | 'f' :: rest => do
    let _ ← Json.readWord ['a', 'l', 's', 'e'] rest
    .error (fault (.boolean false))
  | '"' :: rest => do
    let (text, _) ← Json.readString rest
    .error (fault (.text (String.ofList text)))
  | '[' :: _ => .error (fault .sequence)
  | '\x7b' :: _ => .error (fault .map)
  | '-' :: rest => do
    let (n, _) ← Json.readNumber true rest
    .error (fault (.number n))
  | c :: rest =>
    if c.isDigit then do
      let (n, _) ← Json.readNumber false (c :: rest)
      .error (fault (.number n))
    else .error .malformed

/-- Reads a string or null. -/
def readText? : Reader (Option String) := fun s =>
  match Json.skipSpace s with
  | 'n' :: rest => do
    let rest ← Json.readWord ['u', 'l', 'l'] rest
    .ok (none, rest)
  | '"' :: rest => do
    let (text, rest) ← Json.readString rest
    .ok (some (String.ofList text), rest)
  | s => readMismatch .text s

/-- Reads an object whose values `value` reads. -/
def readEntries {α : Type} (value : Reader α) : Reader (Entries α) := fun s =>
  match Json.skipSpace s with
  | '\x7b' :: rest => Json.readMembers (Json.readEntry value) (s.length + 1) true [] rest
  | s => readMismatch .map s

/-- A record under construction, with the keys that it has been given. -/
structure Given (σ : Type) where
  record : σ
  keys : List String := []

/-- Reads the value of a key of a record. A known key may come once; others are passed over. -/
def readField {σ : Type} (fields : List (String × (σ → Reader σ))) (g : Given σ) (key : String) :
    Except Fault (Reader (Given σ)) :=
  match fields.lookup key with
  | some field =>
    if key ∈ g.keys then .error (.shape (.repeatedField key))
    else .ok fun s => do
      let (record, s) ← field g.record s
      .ok (⟨record, key :: g.keys⟩, s)
  | none => .ok fun s => do
    let s ← Json.skipValue (s.length + 1) s
    .ok (g, s)

/-- Reads a record, as an object or as the array of its fields. -/
def readRecord {σ : Type} (name : String) (fields : List (String × (σ → Reader σ))) (init : σ) :
    Reader σ := fun s =>
  match Json.skipSpace s with
  | '\x7b' :: rest => do
    let (g, rest) ← Json.readMembers (readField fields) (s.length + 1) true ⟨init, []⟩ rest
    .ok (g.record, rest)
  | '[' :: rest => Json.readFields (fields.map Prod.snd) true init rest
  | s => readMismatch (.record name) s

/-- Reads the value of a field with `value` and puts it into the record. -/
def fieldReader {σ α : Type} (value : Reader α) (set : α → σ → σ) : σ → Reader σ := fun r s => do
  let (v, s) ← value s
  .ok (set v r, s)

/-! ## The outer levels of a document -/

/-- Reads the title and the version. -/
def Info.read : Reader Info :=
  readRecord "Info"
    [("title", fieldReader readText? fun v i => { i with title := v }),
     ("version", fieldReader readText? fun v i => { i with version := v })]
    {}

/-- Reads a value to keep, inside `depth` containers. -/
def readKept (depth : Nat) : Reader Value := fun s =>
  Json.readValue (s.length + 1) (Json.maxDepth - depth) s

namespace Outline

/-- Reads the outer levels of a document. -/
def read : Reader Outline :=
  readRecord "RawDocument"
    [("info", fieldReader Info.read fun v d => { d with info := v }),
     ("paths", fieldReader (readEntries (readEntries (readKept 3))) fun v d =>
       { d with paths := v }),
     ("definitions", fieldReader (readEntries (readKept 2)) fun v d =>
       { d with definitions := v })]
    {}

/-- The outline of the document that a text holds. -/
def ofText (text : String) : Except Fault Outline := do
  Json.readEnd (← read text.toList)

end Outline

/-! ## Documents -/

/-- An API document. -/
structure Document where
  info : Info
  paths : Entries (Entries Value)
  /-- The definitions that are schemas. -/
  definitions : Entries Schema
  /-- The names of the other definitions, each with what is wrong. -/
  rejected : List (String × Json.ShapeFault)
  deriving Repr, Inhabited

namespace Document

/-- The definitions that are schemas. -/
def acceptedIn : Entries Value → Entries Schema
  | [] => []
  | (name, v) :: rest =>
    match Schema.decode v with
    | .ok schema => (name, schema) :: acceptedIn rest
    | .error _ => acceptedIn rest

/-- The definitions that are not schemas. -/
def rejectedIn : Entries Value → List (String × Json.ShapeFault)
  | [] => []
  | (name, v) :: rest =>
    match Schema.decode v with
    | .ok _ => rejectedIn rest
    | .error fault => (name, fault) :: rejectedIn rest

/-- The document of an outline. -/
def ofOutline (o : Outline) : Document :=
  ⟨o.info, o.paths, acceptedIn o.definitions, rejectedIn o.definitions⟩

/-- The document that a text holds. -/
def ofText (text : String) : Except Fault Document := (Outline.ofText text).map ofOutline

/-- The schema of a definition. -/
def definition? (d : Document) (name : String) : Option Schema := d.definitions.get? name

end Document

end LuaStubs.Api
