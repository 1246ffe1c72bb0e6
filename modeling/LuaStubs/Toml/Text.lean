import LuaStubs.Json.Token

/-!
# Texts in TOML

A text stands between double quotes, where a backslash starts an escape, or
between single quotes, where nothing does. Between three quotes it may have
several lines: a line break right after the opening quotes does not count, and a
line feed is read for every line break.
-/

namespace LuaStubs.Toml

/-- A character that a document may not hold as it is, but for line breaks. -/
def isControl (c : Char) : Bool := (c.toNat < 32 && c != '\t') || c.toNat == 127

/-- A blank or a tab. -/
def isBlank (c : Char) : Bool := c == ' ' || c == '\t'

/-! ## Escapes -/

/-- The number that hexadecimal digits stand for. -/
def hexNumber? (ds : List Char) : Option Nat :=
  ds.foldlM (fun n d => (Json.hexValue? d).map fun v => 16 * n + v) 0

/-- Reads the code point of a character as `n` hexadecimal digits. -/
def readCode? (n : Nat) (s : List Char) : Option (Char × List Char) :=
  if n ≤ s.length then
    (hexNumber? (s.take n)).bind fun code =>
      if code.isValidChar then some (Char.ofNat code, s.drop n) else none
  else none

/-- The character that a one-letter escape stands for. -/
def escaped? : Char → Option Char
  | 'b' => some '\x08'
  | 't' => some '\t'
  | 'n' => some '\n'
  | 'f' => some '\x0C'
  | 'r' => some '\r'
  | 'e' => some '\x1b'
  | '"' => some '"'
  | '\\' => some '\\'
  | _ => none

/-- Reads an escape from behind its backslash on. -/
def readEscape? : List Char → Option (Char × List Char)
  | [] => none
  | c :: s =>
    match c with
    | 'x' => readCode? 2 s
    | 'u' => readCode? 4 s
    | 'U' => readCode? 8 s
    | c => (escaped? c).map (·, s)

theorem length_readCode? {n : Nat} {s : List Char} {p : Char × List Char}
    (h : readCode? n s = some p) : p.2.length ≤ s.length := by
  unfold readCode? at h
  split at h
  · obtain ⟨code, -, h⟩ := Option.bind_eq_some_iff.1 h
    split at h
    · cases h
      simp
    · cases h
  · cases h

/-- An escape takes at least one character. -/
theorem length_readEscape? {s : List Char} {p : Char × List Char}
    (h : readEscape? s = some p) : p.2.length < s.length := by
  match s with
  | [] => cases h
  | c :: s =>
    simp only [readEscape?] at h
    split at h
    · exact Nat.lt_succ_of_le (length_readCode? h)
    · exact Nat.lt_succ_of_le (length_readCode? h)
    · exact Nat.lt_succ_of_le (length_readCode? h)
    · obtain ⟨e, -, rfl⟩ := Option.map_eq_some_iff.1 h
      simp

/-! ## Texts on one line -/

/-- Puts a character before a text that has been read. -/
def consTo (c : Char) (p : List Char × List Char) : List Char × List Char := (c :: p.1, p.2)

/-- Reads a text with escapes from behind its double quote on. -/
def readBasic? (s : List Char) : Option (List Char × List Char) :=
  match s with
  | [] => none
  | '"' :: rest => some ([], rest)
  | '\\' :: rest =>
    match _h : readEscape? rest with
    | some (c, rest) => (readBasic? rest).map (consTo c)
    | none => none
  | c :: rest => if isControl c then none else (readBasic? rest).map (consTo c)
termination_by s.length
decreasing_by
  · have := length_readEscape? _h
    simp only [List.length_cons] at this ⊢
    omega
  · simp

/-- Reads a text without escapes from behind its single quote on. -/
def readLiteral? : List Char → Option (List Char × List Char)
  | [] => none
  | '\'' :: rest => some ([], rest)
  | c :: rest => if isControl c then none else (readLiteral? rest).map (consTo c)

/-! ## Texts of several lines -/

/-- The text behind a line break at its start, if there is one. -/
def dropLineBreak : List Char → List Char
  | '\n' :: s => s
  | '\r' :: '\n' :: s => s
  | s => s

/-- The text behind blanks and line breaks. -/
def skipBlankLines : List Char → List Char
  | '\r' :: '\n' :: s => skipBlankLines s
  | c :: s => if c = '\n' || isBlank c then skipBlankLines s else c :: s
  | [] => []

/-- Reads the end of a line with a backslash, from behind the backslash on: the line break and the
blanks around it do not count. -/
def readContinuation? (s : List Char) : Option (List Char) :=
  match s.dropWhile isBlank with
  | '\n' :: rest => some (skipBlankLines rest)
  | '\r' :: '\n' :: rest => some (skipBlankLines rest)
  | _ => none

/-- Reads three closing quotes. One or two more before them belong to the text. -/
def readClosing? (quote : Char) : List Char → Option (List Char × List Char)
  | a :: b :: c :: rest =>
    if a = quote ∧ b = quote ∧ c = quote then
      let extra := (rest.take 2).takeWhile (· == quote)
      some (extra, rest.drop extra.length)
    else none
  | _ => none

theorem length_skipBlankLines (s : List Char) : (skipBlankLines s).length ≤ s.length := by
  fun_induction skipBlankLines s with
  | case1 s ih =>
    simp only [List.length_cons]
    omega
  | case2 c s _ h ih =>
    simp only [List.length_cons]
    omega
  | case3 c s _ h => exact Nat.le_refl _
  | case4 => exact Nat.le_refl _

theorem length_readContinuation? {s rest : List Char} (h : readContinuation? s = some rest) :
    rest.length ≤ s.length := by
  have hs : (s.dropWhile isBlank).length ≤ s.length := (List.dropWhile_suffix _).length_le
  unfold readContinuation? at h
  split at h
  · next r hr =>
    cases h
    have := length_skipBlankLines r
    rw [hr] at hs
    simp only [List.length_cons] at hs
    omega
  · next r hr =>
    cases h
    have := length_skipBlankLines r
    rw [hr] at hs
    simp only [List.length_cons] at hs
    omega
  · cases h

/-- Reads a text with escapes from behind its three double quotes, and a line break behind them,
on. -/
def readBasicLines? (s : List Char) : Option (List Char × List Char) :=
  match readClosing? '"' s with
  | some p => some p
  | none =>
    match s with
    | [] => none
    | '\\' :: rest =>
      match _h : readContinuation? rest with
      | some rest => readBasicLines? rest
      | none =>
        match _h : readEscape? rest with
        | some (c, rest) => (readBasicLines? rest).map (consTo c)
        | none => none
    | '\r' :: '\n' :: rest => (readBasicLines? rest).map (consTo '\n')
    | c :: rest =>
      if isControl c && c != '\n' then none else (readBasicLines? rest).map (consTo c)
termination_by s.length
decreasing_by
  · have := length_readContinuation? _h
    simp only [List.length_cons] at this ⊢
    omega
  · have := length_readEscape? _h
    simp only [List.length_cons] at this ⊢
    omega
  · simp only [List.length_cons]
    omega
  · simp

/-- Reads a text without escapes from behind its three single quotes, and a line break behind them,
on. -/
def readLiteralLines? (s : List Char) : Option (List Char × List Char) :=
  match readClosing? '\'' s with
  | some p => some p
  | none =>
    match s with
    | [] => none
    | '\r' :: '\n' :: rest => (readLiteralLines? rest).map (consTo '\n')
    | c :: rest =>
      if isControl c && c != '\n' then none else (readLiteralLines? rest).map (consTo c)
termination_by s.length

/-! ## All forms -/

/-- Reads a text in any of its forms, from its opening quote on. -/
def readText? : List Char → Option (List Char × List Char)
  | '"' :: '"' :: '"' :: s => readBasicLines? (dropLineBreak s)
  | '"' :: s => readBasic? s
  | '\'' :: '\'' :: '\'' :: s => readLiteralLines? (dropLineBreak s)
  | '\'' :: s => readLiteral? s
  | _ => none

end LuaStubs.Toml
