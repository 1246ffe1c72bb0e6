import LuaStubs.Toml.Scalar
import LuaStubs.Toml.Statement
import LuaStubs.Toml.Text

/-!
# Reading TOML text

`statements?` reads the statements of a document, one a line, and `table?` the
table that they describe. Arrays and tables in braces may go on over several
lines and have comments in them, and a comma may follow their last entry.

Arrays and tables in braces may be nested `maxDepth` deep; `room` counts how
many levels are left. Each reader that loops takes `fuel`, which is never used
up when it is the length of the text.
-/

namespace LuaStubs.Toml

/-- How deep arrays and tables in braces may be nested. -/
def maxDepth : Nat := 80

/-! ## White space and comments -/

/-- The text behind blanks. -/
def skipBlanks (s : List Char) : List Char := s.dropWhile isBlank

/-- The text behind blanks, line breaks and comments; none if a comment holds a control. -/
def skipGaps? (comment : Bool) : List Char → Option (List Char)
  | [] => some []
  | '\n' :: s => skipGaps? false s
  | '\r' :: '\n' :: s => skipGaps? false s
  | c :: s =>
    if comment then (if isControl c then none else skipGaps? true s)
    else if isBlank c then skipGaps? false s
    else if c = '#' then skipGaps? true s
    else some (c :: s)

/-- The text behind the end of a line, which may have a comment; none if something else is left on
the line. -/
def endLine? (comment : Bool) : List Char → Option (List Char)
  | [] => some []
  | '\n' :: s => some s
  | '\r' :: '\n' :: s => some s
  | c :: s =>
    if comment then (if isControl c then none else endLine? true s)
    else if isBlank c then endLine? false s
    else if c = '#' then endLine? true s
    else none

/-! ## Keys -/

/-- A character of a key without quotes. -/
def isKeyPart (c : Char) : Bool := c.isAlphanum || c == '_' || c == '-'

/-- Reads one part of a key. -/
def readSimpleKey? : List Char → Option (String × List Char)
  | '"' :: s => (readBasic? s).map fun p => (String.ofList p.1, p.2)
  | '\'' :: s => (readLiteral? s).map fun p => (String.ofList p.1, p.2)
  | s =>
    match s.takeWhile isKeyPart with
    | [] => none
    | key => some (String.ofList key, s.dropWhile isKeyPart)

/-- Reads a key, whose parts have points between them, and the blanks around it. -/
def readKey? : (fuel : Nat) → List Char → Option (Key × List Char)
  | 0, _ => none
  | fuel + 1, s => do
    let (key, s) ← readSimpleKey? (skipBlanks s)
    match skipBlanks s with
    | '.' :: s =>
      let (rest, s) ← readKey? fuel s
      some (⟨key :: rest.path, rest.last⟩, s)
    | s => some (⟨[], key⟩, s)

/-! ## Values -/

/-- Reads the items of an array from behind its bracket, and the gaps behind that, on. -/
def readItems? (value : List Char → Option (Value × List Char)) :
    (fuel : Nat) → List Char → Option (List Value × List Char)
  | 0, _ => none
  | _ + 1, ']' :: s => some ([], s)
  | fuel + 1, s => do
    let (v, s) ← value s
    match ← skipGaps? false s with
    | ',' :: s =>
      let (vs, s) ← readItems? value fuel (← skipGaps? false s)
      some (v :: vs, s)
    | ']' :: s => some ([v], s)
    | _ => none

/-- Reads a key, an equals sign and a value. -/
def readPair? (value : List Char → Option (Value × List Char)) (s : List Char) :
    Option ((Key × Value) × List Char) := do
  let (key, s) ← readKey? (s.length + 1) s
  match s with
  | '=' :: s =>
    let (v, s) ← value (skipBlanks s)
    some ((key, v), s)
  | _ => none

/-- Reads the pairs of a table in braces from behind its brace, and the gaps behind that, on. -/
def readPairs? (value : List Char → Option (Value × List Char)) :
    (fuel : Nat) → List Char → Option (List (Key × Value) × List Char)
  | 0, _ => none
  | _ + 1, '\x7d' :: s => some ([], s)
  | fuel + 1, s => do
    let (pair, s) ← readPair? value s
    match ← skipGaps? false s with
    | ',' :: s =>
      let (pairs, s) ← readPairs? value fuel (← skipGaps? false s)
      some (pair :: pairs, s)
    | '\x7d' :: s => some ([pair], s)
    | _ => none

/-- Reads a value. -/
def readValue? : (room : Nat) → List Char → Option (Value × List Char)
  | 0, '[' :: _ => none
  | 0, '\x7b' :: _ => none
  | room + 1, '[' :: s => do
    let (items, s) ← readItems? (readValue? room) (s.length + 1) (← skipGaps? false s)
    some (.array items, s)
  | room + 1, '\x7b' :: s => do
    let (pairs, s) ← readPairs? (readValue? room) (s.length + 1) (← skipGaps? false s)
    some (.table (← inlineTable? pairs), s)
  | _, '"' :: s => (readText? ('"' :: s)).map fun p => (.text (String.ofList p.1), p.2)
  | _, '\'' :: s => (readText? ('\'' :: s)).map fun p => (.text (String.ofList p.1), p.2)
  | _, s => (scalar? (readWord s).1).map fun v => (v, (readWord s).2)

/-! ## Documents -/

/-- Reads a statement, up to the end of its line. -/
def readStatement? : List Char → Option (Statement × List Char)
  | '[' :: '[' :: s => do
    let (key, s) ← readKey? (s.length + 1) s
    match s with
    | ']' :: ']' :: s => some (.item key, s)
    | _ => none
  | '[' :: s => do
    let (key, s) ← readKey? (s.length + 1) s
    match s with
    | ']' :: s => some (.header key, s)
    | _ => none
  | s => (readPair? (readValue? maxDepth) s).map fun (p, s) => (.pair p.1 p.2, s)

/-- Reads statements up to the end of the text, at most `fuel`. -/
def readStatements? : (fuel : Nat) → List Char → Option (List Statement)
  | 0, _ => none
  | fuel + 1, s => do
    match ← skipGaps? false s with
    | [] => some []
    | s =>
      let (statement, s) ← readStatement? s
      let s ← endLine? false s
      some (statement :: (← readStatements? fuel s))

/-- The text without a byte order mark at its start. -/
def dropMark : List Char → List Char
  | '\uFEFF' :: s => s
  | s => s

/-- The statements of a document. -/
def statements? (text : String) : Option (List Statement) :=
  readStatements? (text.length + 1) (dropMark text.toList)

/-- The table that a document describes. -/
def table? (text : String) : Option (Entries Value) := (statements? text).bind Statement.table?

end LuaStubs.Toml
