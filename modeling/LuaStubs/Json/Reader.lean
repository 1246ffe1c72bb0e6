import LuaStubs.Json.Token

/-!
# Reading JSON text

Everything is read from left to right, so the first fault in the text is the one
reported. `readMembers` and `readItems` read the inside of an object and of an
array with a given reader for what they hold; `readValue` reads a value to keep,
`skipValue` passes over one. `Value.ofText` reads a whole text.

A value that is kept may open at most `maxDepth` containers inside one another;
`room` counts how many are left. Each reader that loops takes `fuel`, which is
never used up when it is the length of the text.
-/

namespace LuaStubs.Json

/-- How many containers a kept value may open inside one another. -/
def maxDepth : Nat := 127

/-! ## The inside of containers -/

/-- Passes over the comma before every entry but the first. -/
def readComma (first : Bool) (s : List Char) : Except Fault (List Char) :=
  if first then .ok s
  else match s with
    | ',' :: rest => .ok (skipSpace rest)
    | s => .error (unexpected s)

/-- Passes over a colon. -/
def readColon (s : List Char) : Except Fault (List Char) :=
  match skipSpace s with
  | ':' :: rest => .ok rest
  | s => .error (unexpected s)

/-- Reads the members of an object from behind its brace on. `member` takes what has been gathered
so far and a key, and gives the reader for the key's value. -/
def readMembers {σ : Type} (member : σ → String → Except Fault (Reader σ)) :
    (fuel : Nat) → (first : Bool) → σ → Reader σ
  | 0, _, _ => fun s => .error (unexpected s)
  | fuel + 1, first, acc => fun s =>
    match skipSpace s with
    | '\x7d' :: rest => .ok (acc, rest)
    | s => do
      match ← readComma first s with
      | '"' :: s => do
        let (key, s) ← readString s
        let value ← member acc (String.ofList key)
        let s ← readColon s
        let (acc, s) ← value s
        readMembers member fuel false acc s
      | s => .error (unexpected s)

/-- Reads one more entry. A repeated key keeps its first position and gets the last value. -/
def readEntry {α : Type} (value : Reader α) (acc : Entries α) (key : String) :
    Except Fault (Reader (Entries α)) :=
  .ok fun s => do
    let (v, s) ← value s
    .ok (acc.put key v, s)

/-- Reads the items of an array from behind its bracket on. -/
def readItems {α : Type} (item : Reader α) : (fuel : Nat) → (first : Bool) → Reader (List α)
  | 0, _ => fun s => .error (unexpected s)
  | fuel + 1, first => fun s =>
    match skipSpace s with
    | ']' :: rest => .ok ([], rest)
    | s => do
      let s ← readComma first s
      let (x, s) ← item s
      let (xs, s) ← readItems item fuel false s
      .ok (x :: xs, s)

/-- Reads an array that holds the fields of a record in order, from behind its bracket on. Fields
may be missing at the end, but nothing may follow the last one. -/
def readFields {σ : Type} : (fields : List (σ → Reader σ)) → (first : Bool) → σ → Reader σ
  | [], _, acc => fun s =>
    match skipSpace s with
    | ']' :: rest => .ok (acc, rest)
    | s => .error (unexpected s)
  | field :: fields, first, acc => fun s =>
    match skipSpace s with
    | ']' :: rest => .ok (acc, rest)
    | s => do
      let s ← readComma first s
      let (acc, s) ← field acc s
      readFields fields false acc s

/-! ## Values that are passed over -/

/-- Passes over the members of an object from behind its brace on. -/
def skipMembers (value : List Char → Except Fault (List Char)) :
    (fuel : Nat) → (first : Bool) → List Char → Except Fault (List Char)
  | 0, _, s => .error (unexpected s)
  | fuel + 1, first, s =>
    match skipSpace s with
    | '\x7d' :: rest => .ok rest
    | s => do
      match ← readComma first s with
      | '"' :: s => do
        let s ← skipString s
        let s ← readColon s
        let s ← value s
        skipMembers value fuel false s
      | s => .error (unexpected s)

/-- Passes over the items of an array from behind its bracket on. -/
def skipItems (value : List Char → Except Fault (List Char)) :
    (fuel : Nat) → (first : Bool) → List Char → Except Fault (List Char)
  | 0, _, s => .error (unexpected s)
  | fuel + 1, first, s =>
    match skipSpace s with
    | ']' :: rest => .ok rest
    | s => do
      let s ← readComma first s
      let s ← value s
      skipItems value fuel false s

/-- Passes over a value, which may be nested to any depth. -/
def skipValue : (fuel : Nat) → List Char → Except Fault (List Char)
  | 0, s => .error (unexpected s)
  | fuel + 1, s =>
    match skipSpace s with
    | [] => .error .truncated
    | 'n' :: rest => readWord ['u', 'l', 'l'] rest
    | 't' :: rest => readWord ['r', 'u', 'e'] rest
    | 'f' :: rest => readWord ['a', 'l', 's', 'e'] rest
    | '"' :: rest => skipString rest
    | '[' :: rest => skipItems (skipValue fuel) fuel true rest
    | '\x7b' :: rest => skipMembers (skipValue fuel) fuel true rest
    | '-' :: rest => skipNumber rest
    | c :: rest => if c.isDigit then skipNumber (c :: rest) else .error .malformed

/-! ## Values that are kept -/

/-- Reads a value. -/
def readValue : (fuel room : Nat) → Reader Value
  | 0, _, s => .error (unexpected s)
  | fuel + 1, room, s =>
    match skipSpace s with
    | [] => .error .truncated
    | 'n' :: rest => do
      let rest ← readWord ['u', 'l', 'l'] rest
      .ok (.null, rest)
    | 't' :: rest => do
      let rest ← readWord ['r', 'u', 'e'] rest
      .ok (.bool true, rest)
    | 'f' :: rest => do
      let rest ← readWord ['a', 'l', 's', 'e'] rest
      .ok (.bool false, rest)
    | '"' :: rest => do
      let (text, rest) ← readString rest
      .ok (.string (String.ofList text), rest)
    | '-' :: rest => do
      let (n, rest) ← readNumber true rest
      .ok (.number n, rest)
    | '[' :: rest =>
      match room with
      | 0 => .error .malformed
      | room + 1 => do
        let (items, rest) ← readItems (readValue fuel room) fuel true rest
        .ok (.array items, rest)
    | '\x7b' :: rest =>
      match room with
      | 0 => .error .malformed
      | room + 1 => do
        let (members, rest) ← readMembers (readEntry (readValue fuel room)) fuel true [] rest
        .ok (.object members, rest)
    | c :: rest =>
      if c.isDigit then do
        let (n, rest) ← readNumber false (c :: rest)
        .ok (.number n, rest)
      else .error .malformed

/-- The end of a document: white space and nothing else. -/
def readEnd {α : Type} (x : α × List Char) : Except Fault α :=
  match skipSpace x.2 with
  | [] => .ok x.1
  | _ :: _ => .error .malformed

/-- The value that a text holds. -/
def Value.ofText (text : String) : Except Fault Value := do
  let s := text.toList
  readEnd (← readValue (s.length + 1) maxDepth s)

end LuaStubs.Json
