import Mathlib.Data.List.Infix
import LuaStubs.Proofs.Lua.Pattern
import LuaStubs.Rest.Context

/-!
# Places of parameters in a path

A caller looks for the place of a path parameter with a Lua pattern. The pattern
is the escaped place, so it matches where the place stands and nowhere else, and
it does not occur in the place of a parameter of another name
(`placeholder_matches_place`).
-/

namespace LuaStubs.Rest.ArgumentContext

open Api (Parameter)
open Lua (Item Match byteOf escapePattern readPattern? utf8)

/-- A text between two marks occurs in another such text just if it is that text, since the marks are
nowhere else in the other one. -/
theorem enclosed_infix_iff {α : Type} {x y : α} (hxy : x ≠ y) {s t : List α} (hx : x ∉ t) (hy : y ∉ t) :
    x :: (s ++ [y]) <:+: x :: (t ++ [y]) ↔ s = t := by
  constructor
  · rintro ⟨before, behind, heq⟩
    cases before with
    | nil =>
      obtain ⟨-, htail⟩ := List.cons.inj heq
      have hcut : t ++ y :: [] = s ++ y :: behind := by simpa using htail.symm
      exact ((List.append_cons_inj_of_notMem hy List.not_mem_nil).1 hcut).1.symm
    | cons c cs =>
      obtain ⟨-, htail⟩ := List.cons.inj heq
      have hmem : x ∈ t ++ [y] := by
        rw [← htail]
        simp
      rcases List.mem_append.1 hmem with h | h
      · exact absurd h hx
      · exact absurd (List.mem_singleton.1 h) hxy
  · rintro rfl
    exact List.infix_refl _

theorem utf8_pathPlace (name : String) :
    utf8 (pathPlace name).toList = byteOf '\x7b' :: (utf8 name.toList ++ [byteOf '\x7d']) := by
  rw [pathPlace, String.toList_append, String.toList_append, Lua.utf8_append, Lua.utf8_append]
  rfl

/-- The place of a parameter occurs in that of another one just if they have one name. -/
theorem pathPlace_infix_iff {name other : String} (h : '\x7b' ∉ other.toList ∧ '\x7d' ∉ other.toList) :
    utf8 (pathPlace name).toList <:+: utf8 (pathPlace other).toList ↔ name = other := by
  have hopening : byteOf '\x7b' ∉ utf8 other.toList := (Lua.byteOf_mem_utf8_iff (by decide)).not.2 h.1
  have hclosing : byteOf '\x7d' ∉ utf8 other.toList := (Lua.byteOf_mem_utf8_iff (by decide)).not.2 h.2
  rw [utf8_pathPlace, utf8_pathPlace, enclosed_infix_iff (by decide) hopening hclosing, Lua.utf8_inj,
    String.toList_inj]

/-- An escaped text is a pattern with one item for each of its bytes, which matches that byte and nothing
else. So the pattern for a parameter matches where the parameter's place stands in the subject, and takes
that place. In the place of a parameter whose name has no braces it occurs just if the names are equal. -/
theorem placeholder_matches_place :
    (∀ text : String, readPattern? (utf8 (escapePattern text).toList) =
      some ⟨false, (utf8 text.toList).map .literal⟩) ∧
    (∀ (b : UInt8) (subject : List UInt8) (m : Match), (Item.literal b).ways subject m =
      if subject[m.position]? = some b then [m.advance 1] else []) ∧
    ∀ p : Parameter, ∃ pattern, readPattern? (utf8 (ofParameter p).placeholder.toList) = some pattern ∧
      (∀ subject position, pattern.matchAt? subject position =
        if utf8 (pathPlace p.name).toList <+: subject.drop position then
          some ⟨position + (utf8 (pathPlace p.name).toList).length, []⟩
        else none) ∧
      ∀ q : Parameter, '\x7b' ∉ q.name.toList ∧ '\x7d' ∉ q.name.toList →
        ((pattern.find? (utf8 (pathPlace q.name).toList)).isSome ↔ p.name = q.name) := by
  refine ⟨Lua.readPattern?_escapePattern, Lua.ways_literal, fun p =>
    ⟨_, Lua.readPattern?_escapePattern (pathPlace p.name), fun subject position => ?_, fun q hq => ?_⟩⟩
  · exact Lua.matchAt?_literals subject _ position
  · rw [Lua.find?_literals_isSome_iff, pathPlace_infix_iff hq]

/-- A parameter with a name. -/
def namedParameter (name : String) : Parameter := { (default : Parameter) with name }

/-- A dot in a name stands for a dot only. -/
theorem placeholder_matches_account_id :
    (ofParameter (namedParameter "account.id")).placeholder = "\x7baccount%.id\x7d" ∧
    ∃ pattern, readPattern? (utf8 "\x7baccount%.id\x7d".toList) = some pattern ∧
      (('\x7b' ∉ "account.id".toList ∧ '\x7d' ∉ "account.id".toList) ∧
        (pattern.find? (utf8 "\x7baccount.id\x7d".toList)).isSome = true) ∧
      ('\x7b' ∉ "account_id".toList ∧ '\x7d' ∉ "account_id".toList) ∧
        ¬ (pattern.find? (utf8 "\x7baccount_id\x7d".toList)).isSome = true := by
  have htext : (ofParameter (namedParameter "account.id")).placeholder = "\x7baccount%.id\x7d" := by decide +kernel
  obtain ⟨pattern, hread, -, hfind⟩ := placeholder_matches_place.2.2 (namedParameter "account.id")
  rw [htext] at hread
  have hsame := hfind (namedParameter "account.id") (by decide)
  have hother := hfind (namedParameter "account_id") (by decide)
  exact ⟨htext, pattern, hread, ⟨by decide, hsame.2 rfl⟩, by decide, fun h => absurd (hother.1 h) (by decide)⟩

end LuaStubs.Rest.ArgumentContext
