/-!
# Finding one text in another

`splitAt?` cuts a text at the first occurrence of another one; `hasInfix` says
whether there is one. `dropLead?` removes a given beginning.
-/

namespace LuaStubs.Text

/-- What follows `lead` in `s`, if `s` begins with it. -/
def dropLead? : (lead s : List Char) → Option (List Char)
  | [], s => some s
  | _ :: _, [] => none
  | a :: as, c :: cs => if a = c then dropLead? as cs else none

theorem dropLead?_eq_some_iff {lead s rest : List Char} :
    dropLead? lead s = some rest ↔ s = lead ++ rest := by
  fun_induction dropLead? lead s with
  | case1 s => simp [eq_comm]
  | case2 => simp
  | case3 as c cs ih => simp [ih]
  | case4 a as c cs h => simp [Ne.symm h]

/-- The text before the first occurrence of `mark`, and the text after it. -/
def splitAt? (mark : List Char) : List Char → Option (List Char × List Char)
  | [] => (dropLead? mark []).map ([], ·)
  | c :: cs =>
    match dropLead? mark (c :: cs) with
    | some rest => some ([], rest)
    | none => (splitAt? mark cs).map fun p => (c :: p.1, p.2)

theorem eq_of_splitAt? {mark s : List Char} {p : List Char × List Char}
    (h : splitAt? mark s = some p) : s = p.1 ++ mark ++ p.2 := by
  induction s generalizing p with
  | nil =>
    obtain ⟨r, hr, rfl⟩ := Option.map_eq_some_iff.1 h
    simpa using dropLead?_eq_some_iff.1 hr
  | cons c cs ih =>
    unfold splitAt? at h
    split at h
    · next rest hr =>
      cases h
      simpa using dropLead?_eq_some_iff.1 hr
    · obtain ⟨q, hq, rfl⟩ := Option.map_eq_some_iff.1 h
      simp [ih hq]

theorem length_of_splitAt? {mark s : List Char} {p : List Char × List Char}
    (h : splitAt? mark s = some p) : p.2.length ≤ s.length := by
  rw [eq_of_splitAt? h]
  simp only [List.length_append]
  omega

/-- Whether `mark` occurs in a text. -/
def hasInfix (mark s : List Char) : Bool := (splitAt? mark s).isSome

end LuaStubs.Text
