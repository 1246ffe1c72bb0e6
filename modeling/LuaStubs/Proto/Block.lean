import LuaStubs.Text.Blank
import LuaStubs.Text.Search
import LuaStubs.Text.Word

/-!
# Blocks

A top-level block opens with a header at the start of a line and runs to the
first closing brace at the start of a line. Inside it, `dropNested` removes the
declarations of nested enumerations and messages, and `collapseMaps` the type
arguments of maps.
-/

namespace LuaStubs.Proto

/-- A blank or a tab. -/
def isGap (c : Char) : Bool := c == ' ' || c == '\t'

/-! ## Headers -/

/-- Reads a header of a top-level block: its name and what follows the brace. -/
def readHeader? (s : List Char) : Option (List Char × List Char) := do
  match ← Text.dropLead? "message".toList s with
  | c :: cs =>
    if isGap c then
      match cs.dropWhile isGap with
      | a :: as =>
        if Text.isNameStart a then
          match (as.dropWhile Text.isWord).dropWhile isGap with
          | '\x7b' :: rest => some (a :: as.takeWhile Text.isWord, rest)
          | _ => none
        else none
      | [] => none
    else none
  | [] => none

/-- The text behind the first header of a block of the given name. `lineStart` says that a line
starts here. -/
def afterHeader? (name : List Char) : (lineStart : Bool) → List Char → Option (List Char)
  | _, [] => none
  | lineStart, c :: cs =>
    match if lineStart then readHeader? (c :: cs) else none with
    | some (n, rest) => if n = name then some rest else afterHeader? name (c == '\n') cs
    | none => afterHeader? name (c == '\n') cs

/-- What ends a top-level block. -/
def blockEnd : List Char := ['\n', '\x7d']

/-! ## Nested declarations -/

/-- The text behind a keyword of a nested declaration. -/
def nestedKeyword? (s : List Char) : Option (List Char) :=
  match Text.dropLead? "enum".toList s with
  | some rest => some rest
  | none => Text.dropLead? "message".toList s

/-- Reads the header of a nested declaration: what follows its brace. -/
def readNested? (s : List Char) : Option (List Char) := do
  match ← nestedKeyword? s with
  | c :: cs =>
    if Text.isBlank c then
      match cs.dropWhile Text.isBlank with
      | a :: as =>
        if Text.isWord a then
          match (as.dropWhile Text.isWord).dropWhile Text.isBlank with
          | '\x7b' :: rest => some rest
          | _ => none
        else none
      | [] => none
    else none
  | [] => none

/-- The text behind the brace that closes `depth + 1` open ones; nothing is left if there is
none. -/
def afterClose : (depth : Nat) → List Char → List Char
  | _, [] => []
  | depth, c :: cs =>
    if c = '\x7b' then afterClose (depth + 1) cs
    else if c = '\x7d' then
      match depth with
      | 0 => cs
      | depth + 1 => afterClose depth cs
    else afterClose depth cs

theorem length_afterClose (depth : Nat) (s : List Char) :
    (afterClose depth s).length ≤ s.length := by
  fun_induction afterClose depth s <;> simp_all <;> omega

theorem length_nestedKeyword? {s r : List Char} (h : nestedKeyword? s = some r) :
    r.length < s.length := by
  unfold nestedKeyword? at h
  split at h
  · next hr =>
    cases h
    rw [Text.dropLead?_eq_some_iff.1 hr]
    simp
    omega
  · rw [Text.dropLead?_eq_some_iff.1 h]
    simp
    omega

/-- The header of a nested declaration takes at least one character. -/
theorem length_readNested? {s r : List Char} (h : readNested? s = some r) :
    r.length < s.length := by
  simp only [readNested?, Option.bind_eq_bind, Option.bind_eq_some_iff] at h
  obtain ⟨t, ht, h⟩ := h
  have h1 := length_nestedKeyword? ht
  have drops (p : Char → Bool) (l : List Char) : (l.dropWhile p).length ≤ l.length :=
    (List.dropWhile_suffix _).length_le
  split at h
  · next c cs =>
    split at h
    · split at h
      · next a as has =>
        split at h
        · split at h
          · next rest hrest =>
            cases h
            have h2 := drops Text.isBlank cs
            have h3 := drops Text.isWord as
            have h4 := drops Text.isBlank (as.dropWhile Text.isWord)
            rw [has] at h2
            rw [hrest] at h4
            simp only [List.length_cons] at h1 h2 h4
            omega
          · cases h
        · cases h
      · cases h
    · cases h
  · cases h

/-- The text without nested declarations. `fresh` says that the character before, if any, is no word
character. -/
def dropNestedFrom (fresh : Bool) (s : List Char) : List Char :=
  match s with
  | [] => []
  | c :: cs =>
    match _h : if fresh then readNested? (c :: cs) else none with
    | some body => dropNestedFrom true (afterClose 0 body)
    | none => c :: dropNestedFrom (!Text.isWord c) cs
termination_by s.length
decreasing_by
  · split at _h
    · exact Nat.lt_of_le_of_lt (length_afterClose 0 _) (length_readNested? _h)
    · cases _h
  · simp

/-- The text without its nested declarations, braces and all. One whose braces do not close runs to
the end. -/
def dropNested (s : List Char) : List Char := dropNestedFrom true s

/-! ## Maps -/

/-- The text behind the type arguments of a map, from behind the keyword on. -/
def afterArguments? (s : List Char) : Option (List Char) :=
  match s.dropWhile Text.isBlank with
  | '<' :: cs =>
    match cs.dropWhile (· != '>') with
    | '>' :: rest => some rest
    | _ => none
  | _ => none

theorem length_afterArguments? {s r : List Char} (h : afterArguments? s = some r) :
    r.length < s.length := by
  unfold afterArguments? at h
  have drops (p : Char → Bool) (l : List Char) : (l.dropWhile p).length ≤ l.length :=
    (List.dropWhile_suffix _).length_le
  split at h
  · next cs hcs =>
    split at h
    · next rest hrest =>
      cases h
      have h1 := drops Text.isBlank s
      have h2 := drops (· != '>') cs
      rw [hcs] at h1
      rw [hrest] at h2
      simp only [List.length_cons] at h1 h2
      omega
    · cases h
  · cases h

/-- The text with `map` for every map type. -/
def collapseMaps (s : List Char) : List Char :=
  match s with
  | [] => []
  | 'm' :: 'a' :: 'p' :: cs =>
    match _h : afterArguments? cs with
    | some rest => 'm' :: 'a' :: 'p' :: collapseMaps rest
    | none => 'm' :: collapseMaps ('a' :: 'p' :: cs)
  | c :: cs => c :: collapseMaps cs
termination_by s.length
decreasing_by
  · have := length_afterArguments? _h
    simp only [List.length_cons]
    omega
  · simp
  · simp

end LuaStubs.Proto
