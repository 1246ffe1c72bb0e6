import LuaStubs.Toml.Value

/-!
# TOML statements

A document is a list of statements: headers of tables, headers of items of
arrays of tables, and pairs of a key and a value. `Statement.table?` puts them
together, and fails where a statement says something about a table or key that
is already complete.
-/

namespace LuaStubs.Toml

/-- A key with the keys of the tables that lead to it. -/
structure Key where
  path : List String
  last : String
  deriving DecidableEq, Repr, Inhabited

/-- All keys of a dotted key. -/
def Key.all (k : Key) : List String := k.path ++ [k.last]

/-- A statement of a document. -/
inductive Statement where
  /-- What follows is in the table of the key. -/
  | header (key : Key)
  /-- What follows is in a new item of the array of tables of the key. -/
  | item (key : Key)
  | pair (key : Key) (value : Value)
  deriving Repr

/-! ## Tables under construction -/

/-- How a table came about. -/
inductive Origin where
  /-- By a header of its own. -/
  | header
  /-- By the header of a table inside it. -/
  | implied
  /-- By a dotted key. -/
  | dotted
  deriving DecidableEq, Repr

/-- A value under construction. -/
inductive Draft where
  /-- A value that is complete. -/
  | value (v : Value)
  | table (origin : Origin) (entries : List (String × Draft))
  /-- An array of tables, which headers add to. -/
  | tables (items : List (List (String × Draft)))
  deriving Inhabited

namespace Draft

/-- The table with a value under a key, which may be dotted. The key must be new, and the tables
that lead to it must be new or come from dotted keys too. -/
def insert? (last : String) (v : Value) :
    (path : List String) → Entries Draft → Option (Entries Draft)
  | [], t => if (t.get? last).isNone then some (t.put last (.value v)) else none
  | key :: path, t =>
    match t.get? key with
    | none => (insert? last v path []).map fun inner => t.put key (.table .dotted inner)
    | some (.table .dotted inner) =>
      (insert? last v path inner).map fun inner => t.put key (.table .dotted inner)
    | some _ => none

/-- Changes the table that a path of keys leads to with `change`. Tables on the way may be new, and
of an array of tables the last item is on the way. -/
def modify? (change : Entries Draft → Option (Entries Draft)) :
    (path : List String) → Entries Draft → Option (Entries Draft)
  | [], t => change t
  | key :: path, t =>
    match t.get? key with
    | none => (modify? change path []).map fun inner => t.put key (.table .implied inner)
    | some (.table origin inner) =>
      (modify? change path inner).map fun inner => t.put key (.table origin inner)
    | some (.tables items) =>
      match items.getLast? with
      | some last =>
        (modify? change path last).map fun last => t.put key (.tables (items.dropLast ++ [last]))
      | none => none
    | some (.value _) => none

/-- The table with a table of its own under a key. It must be new, or so far only implied. -/
def openTable? (key : String) (t : Entries Draft) : Option (Entries Draft) :=
  match t.get? key with
  | none => some (t.put key (.table .header []))
  | some (.table .implied inner) => some (t.put key (.table .header inner))
  | some _ => none

/-- The table with one more item in the array of tables under a key. -/
def openItem? (key : String) (t : Entries Draft) : Option (Entries Draft) :=
  match t.get? key with
  | none => some (t.put key (.tables [[]]))
  | some (.tables items) => some (t.put key (.tables (items ++ [[]])))
  | some _ => none

mutual

/-- The value of a draft. -/
def close : Draft → Value
  | .value v => v
  | .table _ entries => .table (closeEntries entries)
  | .tables items => .array (closeItems items)

/-- The values of the entries of a table. -/
def closeEntries : List (String × Draft) → List (String × Value)
  | [] => []
  | (key, d) :: rest => (key, close d) :: closeEntries rest

/-- The tables of an array of tables. -/
def closeItems : List (List (String × Draft)) → List Value
  | [] => []
  | entries :: rest => .table (closeEntries entries) :: closeItems rest

end

end Draft

/-! ## Documents -/

namespace Statement

/-- A document under construction: its outermost table, and the keys of the table that pairs go
into. -/
structure Progress where
  root : Entries Draft := []
  current : List String := []

/-- Takes in a statement. -/
def take? (p : Progress) : Statement → Option Progress
  | .header key =>
    (Draft.modify? (Draft.openTable? key.last) key.path p.root).map fun root => ⟨root, key.all⟩
  | .item key =>
    (Draft.modify? (Draft.openItem? key.last) key.path p.root).map fun root => ⟨root, key.all⟩
  | .pair key v =>
    (Draft.modify? (Draft.insert? key.last v key.path) p.current p.root).map fun root =>
      { p with root }

/-- The table that statements describe. -/
def table? (statements : List Statement) : Option (Entries Value) :=
  (statements.foldlM take? {}).map fun p => Draft.closeEntries p.root

end Statement

/-- The table of pairs in braces. -/
def inlineTable? (pairs : List (Key × Value)) : Option (Entries Value) :=
  (pairs.foldlM (fun t p => Draft.insert? p.1.last p.2 p.1.path t) []).map Draft.closeEntries

end LuaStubs.Toml
