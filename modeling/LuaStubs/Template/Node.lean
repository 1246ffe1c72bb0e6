import LuaStubs.Json.Writer

/-!
# Templates as lists of nodes

A template is a list of nodes. `renderAll` fills it in with a JSON value, the
context. Names are looked up in the innermost context only. A value that is
printed, or that a loop without an alternative runs over, has to be there; one
that is only tested may be missing.

There is a node for each construct that the built-in templates use, and for their
near relatives. The template language has more: other helpers, parts from other
templates, expressions as arguments. No node stands for these, and a set of
templates may have another engine that reads them (`Template.Engine`).
-/

namespace LuaStubs.Template

open Json (Value)

/-- A reference to a value. -/
inductive Path where
  /-- A value inside the context, by the keys that lead to it. -/
  | keys (steps : List String)
  /-- A variable of the innermost loop. -/
  | variable (name : String)
  deriving DecidableEq, Repr, Inhabited

/-- A part of a template. -/
inductive Node where
  | text (s : List Char)
  /-- The text of a value. -/
  | print (path : Path)
  /-- One of two parts: the body if the value is true, or if it is false for a negative choice. -/
  | choice (positive : Bool) (path : Path) (body alternative : List Node)
  /-- The body once for every item of the value. -/
  | loop (path : Path) (body : List Node) (alternative : Option (List Node))
  /-- A call, or a block, of a helper that has no node. It cannot be filled in. -/
  | unknown
  deriving Inhabited, Repr

/-- What names refer to inside a part of a template. -/
structure Scope where
  context : Value
  /-- The variables of the innermost loop. -/
  loopValues : List (String × Value) := []
  deriving Inhabited

/-! ## Looking values up -/

/-- The result of following a path. -/
inductive Lookup where
  | found (v : Value)
  | missing
  /-- The path uses something other than a number as a position. -/
  | invalid
  deriving Inhabited

/-- The position in an array that a key stands for. -/
def position? (key : String) : Option Nat :=
  let digits := match key.toList with
    | '+' :: rest => rest
    | cs => cs
  if digits ≠ [] ∧ digits.all Char.isDigit then
    let n := digits.foldl (fun n d => 10 * n + (d.toNat - '0'.toNat)) 0
    if n < twoPow 64 then some n else none
  else none

/-- Follows one key. -/
def Lookup.step : Lookup → String → Lookup
  | .found (.array items), key =>
    match position? key with
    | some i => match items[i]? with
      | some v => .found v
      | none => .missing
    | none => .invalid
  | .found (.object members), key =>
    match members.lookup key with
    | some v => .found v
    | none => .missing
  | .invalid, _ => .invalid
  | _, _ => .missing

/-- The value that a path refers to. -/
def Scope.lookup (scope : Scope) : Path → Lookup
  | .keys steps => steps.foldl Lookup.step (.found scope.context)
  | .variable name =>
    match scope.loopValues.lookup name with
    | some v => .found v
    | none => .missing

/-! ## Values in templates -/

/-- Whether a value counts as true: all but false, null, zero, tiny numbers and what is empty. -/
def isTrue : Value → Bool
  | .null => false
  | .bool b => b
  | .number (.int n) => n ≠ 0
  | .number (.float x) => x.isNormal
  | .string s => s ≠ ""
  | .array items => !items.isEmpty
  | .object members => !members.isEmpty

mutual

/-- The text of a value where it is printed. -/
def display : Value → List Char
  | .null => []
  | .bool true => ['t', 'r', 'u', 'e']
  | .bool false => ['f', 'a', 'l', 's', 'e']
  | .number n => n.text.toList
  | .string s => s.toList
  | .array items => '[' :: Json.withCommas [' '] (displayAll items) ++ [']']
  | .object _ => ['[', 'o', 'b', 'j', 'e', 'c', 't', ']']

/-- The texts of the items of an array. -/
def displayAll : List Value → List (List Char)
  | [] => []
  | v :: vs => display v :: displayAll vs

end

/-! ## Loops -/

/-- The scope of one turn of a loop: the item, with the loop's variables. The key or position of the
item is `handle`, in the variable `name`. -/
def turnScope (name : String) (handle : Value) (i count : Nat) (item : Value) : Scope :=
  { context := item
    loopValues := [("first", .bool (i == 0)), ("last", .bool (i + 1 == count)), (name, handle)] }

/-- The scopes of the turns of a loop over a value; none if the value cannot be looped over. -/
def turns? : Lookup → Option (List Scope)
  | .found (.array items) =>
    some (items.zipIdx.map fun (v, i) => turnScope "index" (Value.ofNat i) i items.length v)
  | .found (.object members) =>
    some (members.zipIdx.map fun ((k, v), i) => turnScope "key" (.string k) i members.length v)
  | _ => none

/-! ## Rendering -/

mutual

/-- The text of one node, if it can be filled in. -/
def render (scope : Scope) : Node → Option (List Char)
  | .text s => some s
  | .print path =>
    match scope.lookup path with
    | .found v => some (display v)
    | _ => none
  | .choice positive path body alternative =>
    match scope.lookup path with
    | .found v =>
      if isTrue v == positive then renderAll scope body else renderAll scope alternative
    | .missing => if positive then renderAll scope alternative else renderAll scope body
    | .invalid => none
  | .loop path body alternative =>
    match scope.lookup path, alternative with
    | .invalid, _ => none
    | found, none =>
      match turns? found with
      | some turns => (turns.mapM fun turn => renderAll turn body).map List.flatten
      | none => none
    | found, some other =>
      match turns? found with
      | some (turn :: turns) =>
        ((turn :: turns).mapM fun turn => renderAll turn body).map List.flatten
      | _ => renderAll scope other
  | .unknown => none

/-- The texts of nodes, one after the other. -/
def renderAll (scope : Scope) : List Node → Option (List Char)
  | [] => some []
  | node :: nodes => do
    let first ← render scope node
    let rest ← renderAll scope nodes
    some (first ++ rest)

end

end LuaStubs.Template
