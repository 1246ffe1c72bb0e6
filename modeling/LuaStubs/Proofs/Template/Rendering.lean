import LuaStubs.Proofs.Template.Piece
import LuaStubs.Template.Set

/-!
# Rendering templates into pieces

`Renders scope nodes ps` says that nodes can be filled in from a scope, and that
the result is the text of the pieces `ps`. There is one lemma for each kind of
part that the built-in templates are made of, so a template is rendered by going
through its nodes.
-/

namespace LuaStubs.Template

open Json (Value)
open Builtin (value item each whenTrue)

/-- The nodes are filled in, with the text of the pieces. -/
def Renders (scope : Scope) (nodes : List Node) (ps : List Piece) : Prop :=
  renderAll scope nodes = some (printPieces ps)

namespace Renders

variable {scope : Scope} {members vars : List (String × Value)} {nodes : List Node} {ps : List Piece} {key : String}

theorem nil : Renders scope [] [] := rfl

theorem cons {node : Node} {p : Piece} (hnode : render scope node = some p.chars)
    (h : Renders scope nodes ps) : Renders scope (node :: nodes) (p :: ps) := by
  rw [Renders] at h ⊢
  simp [renderAll, hnode, h]

theorem text (s : String) (h : Renders scope nodes ps) :
    Renders scope (Builtin.text s :: nodes) (.text s :: ps) := by
  refine cons ?_ h
  rw [Builtin.text, render, Piece.chars]

theorem lines (xs : List String) (h : Renders scope nodes ps) :
    Renders scope (Builtin.lines xs :: nodes) (.lines xs :: ps) := by
  refine cons ?_ h
  rw [Builtin.lines, render, Piece.chars]

theorem lookup_key {v : Value} (h : members.lookup key = some v) :
    Scope.lookup ⟨.object members, vars⟩ (.keys [key]) = .found v := by
  simp only [Scope.lookup, List.foldl_cons, List.foldl_nil, Lookup.step, h]

/-- A value that is a text is printed as it is. -/
theorem print {path : Path} {x : String} (hpath : scope.lookup path = .found (.string x))
    (h : Renders scope nodes ps) : Renders scope (.print path :: nodes) (.text x :: ps) := by
  refine cons ?_ h
  simp only [render, hpath, display, Piece.chars]

theorem value {x : String} (h : Renders ⟨.object members, vars⟩ nodes ps)
    (hkey : members.lookup key = some (.string x) := by simp [List.lookup_cons]) :
    Renders ⟨.object members, vars⟩ (value key :: nodes) (.text x :: ps) :=
  print (lookup_key hkey) h

theorem item {x : String} (h : Renders ⟨.string x, vars⟩ nodes ps) :
    Renders ⟨.string x, vars⟩ (item :: nodes) (.text x :: ps) :=
  print rfl h

/-- The start of a function. -/
theorem function {x : String} (h : Renders ⟨.object members, vars⟩ nodes ps)
    (hkey : members.lookup key = some (.string x) := by simp [List.lookup_cons]) :
    Renders ⟨.object members, vars⟩
      (Builtin.text "function M." :: Builtin.value key :: Builtin.text "(" :: nodes) (.function x :: ps) := by
  have htext : "function M.".toList = functionStart := by simp [functionStart]
  have hparen : "(".toList = ['('] := by simp
  have hall := text "function M." (value (text "(" h) hkey)
  simpa only [Renders, printPieces_cons, Piece.chars, htext, hparen, List.append_assoc] using hall

/-- An assignment of a constant. -/
theorem constant {x v : String} {valueKey : String} (h : Renders ⟨.object members, vars⟩ nodes ps)
    (hkey : members.lookup key = some (.string x) := by simp [List.lookup_cons])
    (hvalue : members.lookup valueKey = some (.string v) := by simp [List.lookup_cons]) :
    Renders ⟨.object members, vars⟩ (Builtin.text "M." :: Builtin.value key :: Builtin.text " = \"" ::
      Builtin.value valueKey :: Builtin.text "\"\n" :: nodes) (.constant x v :: ps) := by
  have htext : "M.".toList = constantStart := by simp [constantStart]
  have hopen : " = \"".toList = [' ', '=', ' ', '"'] := by simp
  have hclose : "\"\n".toList = ['"', '\n'] := by simp
  have hall := text "M." (value (text " = \"" (value (text "\"\n" h) hvalue)) hkey)
  simpa only [Renders, printPieces_cons, Piece.chars, htext, hopen, hclose, List.append_assoc] using hall

/-! ## Loops and choices -/

/-- The turns of a loop are rendered one by one, whatever the variables of the loop are. -/
theorem mapM_turns {α : Type} {body : List Node} {item : α → Value} {turn : α → List Piece}
    (hbody : ∀ x vars, Renders ⟨item x, vars⟩ body (turn x)) (xs : List α) (i n : Nat) :
    ((((xs.map item).zipIdx i).map fun (v, i) => turnScope "index" (Value.ofNat i) i n v).mapM
      fun t => renderAll t body) = some (xs.map fun x => printPieces (turn x)) := by
  induction xs generalizing i with
  | nil => rfl
  | cons x xs ih =>
    have hturn : renderAll (turnScope "index" (Value.ofNat i) i n (item x)) body = some (printPieces (turn x)) :=
      hbody x _
    rw [List.map_cons, List.zipIdx_cons, List.map_cons, List.mapM_cons, hturn, ih (i + 1)]
    rfl

/-- A loop over a list, the items of which are given by what they are made from. -/
theorem each {α : Type} {body : List Node} (xs : List α) (item : α → Value) {turn : α → List Piece}
    (hbody : ∀ x vars, Renders ⟨item x, vars⟩ body (turn x)) (h : Renders ⟨.object members, vars⟩ nodes ps)
    (hkey : members.lookup key = some (.array (xs.map item)) := by simp [List.lookup_cons]) :
    Renders ⟨.object members, vars⟩ (each key body :: nodes) (xs.flatMap turn ++ ps) := by
  have hloop : render ⟨.object members, vars⟩ (Builtin.each key body) = some (printPieces (xs.flatMap turn)) := by
    rw [Builtin.each, render.eq_def]
    dsimp only
    rw [lookup_key hkey, printPieces_flatMap, List.flatMap]
    exact congrArg (Option.map List.flatten) (mapM_turns hbody xs 0 _)
  rw [Renders] at h ⊢
  simp [renderAll, hloop, h]

/-- A part that is only there if a value is true. -/
theorem whenTrue {body : List Node} {qs : List Piece} {b : Bool}
    (hbody : Renders ⟨.object members, vars⟩ body qs) (h : Renders ⟨.object members, vars⟩ nodes ps)
    (hkey : members.lookup key = some (.bool b) := by simp [List.lookup_cons]) :
    Renders ⟨.object members, vars⟩ (whenTrue key body :: nodes) ((if b then qs else []) ++ ps) := by
  have hchoice : render ⟨.object members, vars⟩ (Builtin.whenTrue key body) = some (printPieces (if b then qs else [])) := by
    rw [Renders] at hbody
    cases b <;> simp [Builtin.whenTrue, render, renderAll, lookup_key hkey, isTrue, hbody]
  rw [Renders] at h ⊢
  simp [renderAll, hchoice, h]

/-- A part that is only there if a text is there and not empty. -/
theorem whenText {body : List Node} {qs : String → List Piece} {o : Option String}
    (hbody : ∀ x, o = some x → Renders ⟨.object members, vars⟩ body (qs x))
    (h : Renders ⟨.object members, vars⟩ nodes ps)
    (hkey : members.lookup key = some (.ofString? o) := by simp [List.lookup_cons]) :
    Renders ⟨.object members, vars⟩ (Builtin.whenTrue key body :: nodes)
      ((o.filter (· ≠ "")).toList.flatMap qs ++ ps) := by
  have hchoice : render ⟨.object members, vars⟩ (Builtin.whenTrue key body) =
      some (printPieces ((o.filter (· ≠ "")).toList.flatMap qs)) := by
    have hlookup : Scope.lookup ⟨.object members, vars⟩ (.keys [key]) = .found (.ofString? o) := lookup_key hkey
    cases o with
    | none => simp [Builtin.whenTrue, render, renderAll, hlookup, isTrue, Value.ofString?]
    | some x =>
      have hx := hbody x rfl
      rw [Renders] at hx
      by_cases he : x = ""
      · simp [Builtin.whenTrue, render, renderAll, hlookup, isTrue, Value.ofString?, he, Option.filter]
      · simp [Builtin.whenTrue, render, hlookup, isTrue, Value.ofString?, he, hx, Option.filter]
  rw [Renders] at h ⊢
  simp [renderAll, hchoice, h]

end Renders

/-- A template of a set that can be filled in is rendered. -/
theorem render_of_renders {set : TemplateSet} {name : String} {nodes : List Node} {context : Value}
    {ps : List Piece} (hname : set.templates.get? name = some nodes) (h : Renders ⟨context, []⟩ nodes ps) :
    set.render name context = .ok (String.ofList (printPieces ps)) := by
  rw [Renders] at h
  rw [TemplateSet.render, hname, Option.bind_some, Engine.fill?_nodes, h, Option.map_some]

/-- Texts of pieces that are joined are the text of all pieces. -/
theorem chars_join {α : Type} (f : α → List Piece) (xs : List α) :
    (Piece.text (String.join (xs.map fun x => String.ofList (printPieces (f x))))).chars =
      printPieces (xs.flatMap f) := by
  rw [Piece.chars, String.toList_join, List.flatMap_map, printPieces_flatMap]
  simp only [String.toList_ofList]

/-- Texts that are empty unless a test holds are joined to the text of what passes the test. -/
theorem chars_join_filter {α : Type} (p : α → Bool) (f : α → List Piece) (xs : List α) :
    (Piece.text (String.join (xs.map fun x => if p x then String.ofList (printPieces (f x)) else ""))).chars =
      printPieces ((xs.filter p).flatMap f) := by
  rw [Piece.chars, String.toList_join, List.flatMap_map, printPieces_flatMap]
  induction xs with
  | nil => rfl
  | cons x xs ih => cases hx : p x <;> simp [hx, ih]

end LuaStubs.Template
