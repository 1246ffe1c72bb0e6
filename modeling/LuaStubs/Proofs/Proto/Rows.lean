import LuaStubs.Proofs.Proto.Lines

/-!
# Rows of a message

A message is read in passes over its text, each of which changes some lines.
`Written` says that a text has given lines, whatever their indentation, and a
`Row` is a line that is left when nested declarations are gone: its text before
and after the type arguments of maps are.
-/

namespace LuaStubs.Proto

/-! ## Texts by their lines -/

/-- The text has these lines, each behind a line feed and some indentation. -/
inductive Written : List (List Char) → List Char → Prop where
  | nil : Written [] []
  | cons {l : List Char} {ls : List (List Char)} {s : List Char} (i : Indent) :
    Written ls s → Written (l :: ls) ('\n' :: (i.chars ++ (l ++ s)))

namespace Written

theorem printLines (layout : Layout) (n : Nat) (ls : List (List Char)) :
    Written ls (printLines layout n ls) := by
  induction ls generalizing n with
  | nil => exact .nil
  | cons l ls ih =>
    simp only [Proto.printLines, List.cons_append, List.append_assoc]
    exact .cons _ (ih _)

/-- Lines written one after the other are two texts one after the other. -/
theorem exists_of_append {ls ks : List (List Char)} {s : List Char} (h : Written (ls ++ ks) s) :
    ∃ t u, s = t ++ u ∧ Written ls t ∧ Written ks u := by
  induction ls generalizing s with
  | nil => exact ⟨[], s, rfl, .nil, h⟩
  | cons l ls ih =>
    cases h with
    | cons i h =>
      obtain ⟨t, u, rfl, ht, hu⟩ := ih h
      exact ⟨_, u, by simp only [List.cons_append, List.append_assoc], .cons i ht, hu⟩

theorem append {ls ks : List (List Char)} {s t : List Char} (hs : Written ls s) (ht : Written ks t) :
    Written (ls ++ ks) (s ++ t) := by
  induction hs with
  | nil => exact ht
  | cons i _ ih =>
    simp only [List.cons_append, List.append_assoc]
    exact .cons i ih

/-- The text of the first line, and of those after it. -/
theorem exists_of_cons {l : List Char} {ls : List (List Char)} {s : List Char} (h : Written (l :: ls) s) :
    ∃ (i : Indent) (t : List Char), s = '\n' :: (i.chars ++ (l ++ t)) ∧ Written ls t := by
  cases h with
  | cons i h => exact ⟨i, _, rfl, h⟩

end Written

/-! ## Rows -/

/-- A line of a message without its nested declarations. -/
inductive Row where
  | field (f : FieldDecl)
  /-- The line that opens a group. -/
  | opening (name : Name)
  /-- The line that closes a group. -/
  | closing
  /-- What is left of a nested declaration. -/
  | blank

namespace Row

/-- The line, with the given text for the type of a field. -/
def lineWith (type : FieldType → List Char) : Row → List Char
  | field f => f.lineWith (type f.type)
  | opening name => ['o', 'n', 'e', 'o', 'f', ' '] ++ name.chars ++ [' ', '\x7b']
  | closing => ['\x7d']
  | blank => []

def fields : Row → List Field
  | field f => [f.field]
  | _ => []

end Row

end LuaStubs.Proto
