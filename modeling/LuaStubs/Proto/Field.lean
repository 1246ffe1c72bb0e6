import LuaStubs.Category
import LuaStubs.Text.Word

/-!
# Field declarations

A field is declared at the start of a line, as an optional qualifier, a type, a
name, an equals sign, a number and options, closed by a semicolon. `readField?`
reads one declaration, and `fields` all those in a text.
-/

namespace LuaStubs.Proto

/-- A declared field of a message. -/
structure Field where
  name : String
  /-- The declared type. -/
  wireType : String
  repeated : Bool
  deriving DecidableEq, Repr, Inhabited

/-- The category of a field's value. A repeated field is composite whatever its type. -/
def Field.category (f : Field) : Category :=
  if f.repeated then .composite else Category.ofWireType f.wireType

/-- White space, as much as there is. -/
def skipBlanks (s : List Char) : List Char := s.dropWhile Text.isBlank

/-- The text behind white space of at least one character. -/
def skipSomeBlanks? : List Char → Option (List Char)
  | c :: cs => if Text.isBlank c then some (skipBlanks cs) else none
  | [] => none

/-- What a type name starts with. -/
def isTypeStart (c : Char) : Bool := Text.isNameStart c || c == '.'

/-- What a type name goes on with. -/
def isTypePart (c : Char) : Bool := Text.isWord c || c == '.'

/-- The longest word with the given first and further characters, and what follows it. -/
def readWord? (start part : Char → Bool) : List Char → Option (List Char × List Char)
  | c :: cs => if start c then some (c :: cs.takeWhile part, cs.dropWhile part) else none
  | [] => none

/-- The text behind options in brackets, if there are any. -/
def skipOptions : List Char → List Char
  | '[' :: cs =>
    match cs.dropWhile (· != ']') with
    | ']' :: rest => skipBlanks rest
    | _ => '[' :: cs
  | s => s

/-- Reads the type, the name and all that follows it up to the semicolon. -/
def readUnqualified? (repeated : Bool) (s : List Char) : Option (Field × List Char) := do
  let (wireType, s) ← readWord? isTypeStart isTypePart s
  let s ← skipSomeBlanks? s
  let (name, s) ← readWord? Text.isNameStart Text.isWord s
  match skipBlanks s with
  | '=' :: s =>
    let (_, s) ← readWord? Text.isDecimal Text.isDecimal (skipBlanks s)
    match skipOptions (skipBlanks s) with
    | ';' :: rest => some (⟨String.ofList name, String.ofList wireType, repeated⟩, rest)
    | _ => none
  | _ => none

/-- The qualifier that a word is: whether it makes the field repeated. -/
def qualifier? (word : List Char) : Option Bool :=
  if word = "repeated".toList then some true
  else if word = "optional".toList then some false
  else none

/-- Reads a qualifier and the white space behind it. -/
def readQualifier? (s : List Char) : Option (Bool × List Char) := do
  let repeated ← qualifier? (s.takeWhile isTypePart)
  let s ← skipSomeBlanks? (s.dropWhile isTypePart)
  some (repeated, s)

/-- Reads a field declaration, with white space before it. A word that could be a qualifier is one
if the rest reads as a field then, and else the type. -/
def readField? (s : List Char) : Option (Field × List Char) :=
  match (readQualifier? (skipBlanks s)).bind fun q => readUnqualified? q.1 q.2 with
  | some p => some p
  | none => readUnqualified? false (skipBlanks s)

theorem length_readWord? {start part : Char → Bool} {s : List Char}
    {p : List Char × List Char} (h : readWord? start part s = some p) :
    p.2.length < s.length := by
  unfold readWord? at h
  split at h
  · split at h
    · cases h
      simpa using Nat.lt_succ_of_le (List.dropWhile_suffix _).length_le
    · cases h
  · cases h

theorem length_skipBlanks (s : List Char) : (skipBlanks s).length ≤ s.length :=
  (List.dropWhile_suffix _).length_le

theorem length_skipSomeBlanks? {s r : List Char} (h : skipSomeBlanks? s = some r) :
    r.length < s.length := by
  unfold skipSomeBlanks? at h
  split at h
  · split at h
    · cases h
      simpa using Nat.lt_succ_of_le (length_skipBlanks _)
    · cases h
  · cases h

theorem length_skipOptions (s : List Char) : (skipOptions s).length ≤ s.length := by
  unfold skipOptions
  split
  · next cs =>
    split
    · next rest h =>
      have h1 := length_skipBlanks rest
      have h2 : (cs.dropWhile (· != ']')).length ≤ cs.length :=
        (List.dropWhile_suffix _).length_le
      rw [h] at h2
      simp only [List.length_cons] at h2 ⊢
      omega
    · exact Nat.le_refl _
  · exact Nat.le_refl _

theorem length_readUnqualified? {repeated : Bool} {s : List Char} {p : Field × List Char}
    (h : readUnqualified? repeated s = some p) : p.2.length < s.length := by
  simp only [readUnqualified?, Option.bind_eq_bind, Option.bind_eq_some_iff] at h
  obtain ⟨a, ha, b, hb, c, hc, h⟩ := h
  have h1 := length_readWord? ha
  have h2 := length_skipSomeBlanks? hb
  have h3 := length_readWord? hc
  have h4 := length_skipBlanks c.2
  split at h
  · next r hr =>
    simp only [Option.bind_eq_some_iff] at h
    obtain ⟨d, hd, h⟩ := h
    have h5 := length_readWord? hd
    have h6 := length_skipBlanks r
    have h7 := length_skipOptions (skipBlanks d.2)
    have h8 := length_skipBlanks d.2
    split at h
    · next rest hrest =>
      cases h
      rw [hr] at h4
      rw [hrest] at h7
      simp only [List.length_cons] at h4 h7 ⊢
      omega
    · cases h
  · cases h

theorem length_readQualifier? {s : List Char} {p : Bool × List Char}
    (h : readQualifier? s = some p) : p.2.length < s.length := by
  simp only [readQualifier?, Option.bind_eq_bind, Option.bind_eq_some_iff] at h
  obtain ⟨b, -, r, hr, h⟩ := h
  cases h
  have h1 := length_skipSomeBlanks? hr
  have h2 : (s.dropWhile isTypePart).length ≤ s.length := (List.dropWhile_suffix _).length_le
  simp only
  omega

/-- A declaration takes at least one character. -/
theorem length_readField? {s : List Char} {p : Field × List Char} (h : readField? s = some p) :
    p.2.length < s.length := by
  have hs := length_skipBlanks s
  unfold readField? at h
  split at h
  · next q hq =>
    cases h
    obtain ⟨r, hr, hq⟩ := Option.bind_eq_some_iff.1 hq
    have h1 := length_readQualifier? hr
    have h2 := length_readUnqualified? hq
    omega
  · have h1 := length_readUnqualified? h
    omega

/-- The declarations in a text, from the left. `lineStart` says that a line starts here. -/
def scanFields (lineStart : Bool) (s : List Char) : List Field :=
  match s with
  | [] => []
  | c :: cs =>
    match _h : if lineStart then readField? (c :: cs) else none with
    | some (field, rest) => field :: scanFields false rest
    | none => scanFields (c == '\n') cs
termination_by s.length
decreasing_by
  · split at _h
    · simpa using length_readField? _h
    · cases _h
  · simp

/-- The fields without those whose name has been declared before. -/
def firstOfEachName : List Field → List Field
  | [] => []
  | f :: fs => f :: (firstOfEachName fs).filter fun g => g.name ≠ f.name

/-- The fields that a text declares, each name once. -/
def fields (s : List Char) : List Field := firstOfEachName (scanFields true s)

end LuaStubs.Proto
