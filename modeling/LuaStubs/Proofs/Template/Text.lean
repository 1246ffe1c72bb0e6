import LuaStubs.Proofs.Template.Rendering

/-!
# Pieces as texts

The text of pieces as a string (`pieceString`), put together from the strings of the pieces.
-/

namespace LuaStubs.Template

/-- Lines with their line feeds. -/
def linesString (xs : List String) : String := String.join (xs.map (· ++ "\n"))

/-- The text of a piece. -/
def Piece.string : Piece → String
  | text s => s
  | lines xs => linesString xs
  | function name => "function M." ++ name ++ "("
  | constant name value => "M." ++ name ++ " = \"" ++ value ++ "\"\n"

/-- The text of pieces. -/
def pieceString (ps : List Piece) : String := String.join (ps.map Piece.string)

theorem toList_linesString (xs : List String) : (linesString xs).toList = Builtin.linesText xs := by
  have hline : "\n".toList = ['\n'] := by simp
  simp only [linesString, Builtin.linesText, String.toList_join, List.flatMap_map, String.toList_append, hline]

theorem Piece.toList_string (p : Piece) : p.string.toList = p.chars := by
  have hfunction : "function M.".toList = functionStart := by simp [functionStart]
  have hparen : "(".toList = ['('] := by simp
  have hconstant : "M.".toList = constantStart := by simp [constantStart]
  have hopen : " = \"".toList = [' ', '=', ' ', '"'] := by simp
  have hclose : "\"\n".toList = ['"', '\n'] := by simp
  cases p with
  | text s => rfl
  | lines xs => exact toList_linesString xs
  | function name => simp only [string, chars, String.toList_append, hfunction, hparen, List.append_assoc]
  | constant name value =>
    simp only [string, chars, String.toList_append, hconstant, hopen, hclose, List.append_assoc]

theorem ofList_printPieces (ps : List Piece) : String.ofList (printPieces ps) = pieceString ps := by
  rw [← String.toList_inj, String.toList_ofList, pieceString, String.toList_join, List.flatMap_map]
  simp only [Piece.toList_string, printPieces]

@[simp]
theorem pieceString_nil : pieceString [] = "" := rfl

@[simp]
theorem pieceString_cons (p : Piece) (ps : List Piece) : pieceString (p :: ps) = p.string ++ pieceString ps := by
  rw [pieceString, List.map_cons, String.join_cons, pieceString]

@[simp]
theorem pieceString_append (ps qs : List Piece) : pieceString (ps ++ qs) = pieceString ps ++ pieceString qs := by
  rw [pieceString, List.map_append, String.join_append, pieceString, pieceString]

/-- A template of a set that can be filled in is rendered to the text of its pieces. -/
theorem render_pieceString {set : TemplateSet} {name : String} {nodes : List Node} {context : Json.Value}
    {ps : List Piece} (hname : set.templates.get? name = some nodes) (h : Renders ⟨context, []⟩ nodes ps) :
    set.render name context = .ok (pieceString ps) := by
  rw [render_of_renders hname h, ofList_printPieces]

theorem pieceString_flatMap {α : Type} (f : α → List Piece) (xs : List α) :
    pieceString (xs.flatMap f) = String.join (xs.map fun x => pieceString (f x)) := by
  induction xs with
  | nil => rfl
  | cons x xs ih => rw [List.flatMap_cons, pieceString_append, ih, List.map_cons, String.join_cons]

end LuaStubs.Template
