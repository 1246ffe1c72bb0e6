import LuaStubs.Template.Builtin.Part
import LuaStubs.Text.Search

/-!
# Pieces of a module

The text of a generated module as a list of pieces. A piece says which fields of
the module it assigns (`assigned`), so that the text and its assignments are
read off one list. Lines that are the same in every module are searched for
assignments (`assignedBy_cons`).
-/

namespace LuaStubs.Template

/-- A piece of a generated module. -/
inductive Piece where
  | text (s : String)
  /-- Lines that are the same in every module. -/
  | lines (xs : List String)
  /-- What a function of the module starts with, up to its parameters. -/
  | function (name : String)
  /-- A line that assigns a string to a field of the module. -/
  | constant (name value : String)
  deriving DecidableEq

/-- What the definition of a function of the module starts with. -/
def functionStart : List Char := ['f', 'u', 'n', 'c', 't', 'i', 'o', 'n', ' ', 'M', '.']

/-- What the assignment of a constant of the module starts with. -/
def constantStart : List Char := ['M', '.']

/-- The name behind the start of a line that assigns a field of the module. -/
def assignedName? (line : List Char) : Option (List Char) :=
  match Text.dropLead? functionStart line with
  | some rest => some (rest.takeWhile (· != '('))
  | none => (Text.dropLead? constantStart line).map (List.takeWhile (· != ' '))

/-- The names that lines assign, in order. -/
def assignedBy (xs : List String) : List String :=
  xs.filterMap fun x => (assignedName? x.toList).map String.ofList

namespace Piece

def chars : Piece → List Char
  | text s => s.toList
  | lines xs => Builtin.linesText xs
  | function name => functionStart ++ (name.toList ++ ['('])
  | constant name value =>
    constantStart ++ (name.toList ++ ([' ', '=', ' ', '"'] ++ (value.toList ++ ['"', '\n'])))

/-- The names that a piece assigns. -/
def assigned : Piece → List String
  | text _ => []
  | lines xs => assignedBy xs
  | function name => [name]
  | constant name _ => [name]

end Piece

/-- The text of pieces. -/
def printPieces (ps : List Piece) : List Char := ps.flatMap Piece.chars

/-- The names that pieces assign, in order. -/
def assigned (ps : List Piece) : List String := ps.flatMap Piece.assigned

@[simp]
theorem printPieces_nil : printPieces [] = [] := rfl

@[simp]
theorem printPieces_cons (p : Piece) (ps : List Piece) : printPieces (p :: ps) = p.chars ++ printPieces ps := rfl

@[simp]
theorem printPieces_append (ps qs : List Piece) : printPieces (ps ++ qs) = printPieces ps ++ printPieces qs :=
  List.flatMap_append

theorem printPieces_flatMap {α : Type} (f : α → List Piece) (xs : List α) :
    printPieces (xs.flatMap f) = xs.flatMap fun x => printPieces (f x) :=
  List.flatMap_assoc

@[simp]
theorem assigned_nil : assigned [] = [] := rfl

@[simp]
theorem assigned_cons (p : Piece) (ps : List Piece) : assigned (p :: ps) = p.assigned ++ assigned ps := rfl

@[simp]
theorem assigned_append (ps qs : List Piece) : assigned (ps ++ qs) = assigned ps ++ assigned qs :=
  List.flatMap_append

theorem assigned_flatMap {α : Type} (f : α → List Piece) (xs : List α) :
    assigned (xs.flatMap f) = xs.flatMap fun x => assigned (f x) :=
  List.flatMap_assoc

/-- Pieces of text assign nothing. -/
theorem assigned_flatMap_eq_nil {α : Type} {f : α → List Piece} (h : ∀ x, assigned (f x) = []) (xs : List α) :
    assigned (xs.flatMap f) = [] := by
  rw [assigned_flatMap, List.flatMap_eq_nil_iff]
  exact fun x _ => h x

theorem assigned_ite_eq_nil {ps : List Piece} (h : assigned ps = []) (b : Bool) :
    assigned (if b then ps else []) = [] := by
  cases b
  · rfl
  · exact h

theorem assignedName?_of_ne {c : Char} {line : List Char} (hf : 'f' ≠ c) (hm : 'M' ≠ c) :
    assignedName? (c :: line) = none := by
  simp [assignedName?, functionStart, constantStart, Text.dropLead?, hf, hm]

/-- What the first of some lines assigns, and what the others do. The characters of the line are in
the statement, so that no line has to be decoded. -/
theorem assignedBy_cons {line : List Char} {xs : List String} :
    assignedBy (String.ofList line :: xs) = ((assignedName? line).map String.ofList).toList ++ assignedBy xs := by
  cases h : assignedName? line <;> simp [assignedBy, h]

/-- A line that starts as no assignment does assigns nothing. -/
theorem assignedBy_cons_of_ne {c : Char} {line : List Char} {xs : List String} (hf : 'f' ≠ c := by decide)
    (hm : 'M' ≠ c := by decide) : assignedBy (String.ofList (c :: line) :: xs) = assignedBy xs := by
  rw [assignedBy_cons, assignedName?_of_ne hf hm]
  rfl

end LuaStubs.Template
