import LuaStubs.Proofs.Template.Piece
import LuaStubs.Text.Quoted
import Mathlib.Data.List.Infix

/-!
# Where a text stands in a module

Pieces that follow one another in a module have their texts follow one another
in its text (`printPieces_infix`), so a text is found in a module along with what
is around it.
-/

namespace LuaStubs.Template

variable {α : Type} {ps qs : List Piece}

theorem chars_function (name : String) : (Piece.function name).chars = ("function M." ++ name ++ "(").toList := by
  simp [Piece.chars, functionStart]

theorem chars_constant (name value : String) :
    (Piece.constant name value).chars = ("M." ++ name ++ " = \"" ++ value ++ "\"\n").toList := by
  simp [Piece.chars, constantStart]

theorem printPieces_infix (h : ps <:+: qs) : printPieces ps <:+: printPieces qs := h.flatMap _

theorem chars_infix {p : Piece} (h : [p] <:+: ps) : p.chars <:+: printPieces ps := by
  have hin := printPieces_infix h
  rwa [printPieces, List.flatMap_singleton] at hin

/-- A text is in the module with what is before and behind it. -/
theorem text_infix {before text behind : String} (h : [.text before, .text text, .text behind] <:+: ps) :
    (before ++ text ++ behind).toList <:+: printPieces ps := by
  have hin := printPieces_infix h
  simpa [Piece.chars] using hin

/-- What is in a part is in the whole. -/
theorem infix_flatten {part : List Piece} {parts : List (List Piece)} (hpart : part ∈ parts) (h : ps <:+: part) :
    ps <:+: parts.flatten :=
  h.trans (List.infix_of_mem_flatten hpart)

/-- What is there for one item is there. -/
theorem infix_flatMap {f : α → List Piece} {x : α} {xs : List α} (hx : x ∈ xs) (h : ps <:+: f x) :
    ps <:+: xs.flatMap f :=
  infix_flatten (List.mem_map_of_mem hx) h

theorem commaSeparated_cons {x : String} {xs : List String} (h : xs ≠ []) :
    Text.commaSeparated (x :: xs) = x ++ ", " ++ Text.commaSeparated xs :=
  String.intercalate_cons_of_ne_nil h

/-- Between the first and the last text of a list, each one has commas around it. -/
theorem infix_commaSeparated {x first last : String} {xs : List String} (hx : x ∈ xs) :
    (", " ++ x ++ ", ").toList <:+: (Text.commaSeparated (first :: xs ++ [last])).toList := by
  induction xs generalizing first with
  | nil => cases hx
  | cons y ys ih =>
    rw [List.cons_append, commaSeparated_cons (by simp)]
    rcases List.mem_cons.1 hx with rfl | hx
    · rw [List.cons_append, commaSeparated_cons (by simp)]
      exact ⟨first.toList, (Text.commaSeparated (ys ++ [last])).toList, by simp⟩
    · refine (@ih y hx).trans ?_
      rw [String.toList_append]
      exact (List.suffix_append ..).isInfix

end LuaStubs.Template
