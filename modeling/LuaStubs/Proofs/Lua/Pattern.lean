import LuaStubs.Proofs.Lua.Literal

/-!
# Patterns in Lua

`readPattern?` reads the bytes of a pattern as version 5.4 of the language does:
as a list of items, each of which is a class of bytes with a repetition, or one
of captures, back references, balanced texts and frontiers. `Pattern.matchAt?`
follows the items over a subject from one position on, and goes back to the next
way to match an item where the items behind it do not match.

A text that `escapePattern` has been through is read as one item for each byte
of the text (`readPattern?_escapePattern`), and such items match where the text
stands and nowhere else (`run_literals`).
-/

namespace LuaStubs.Lua

/-! ## Classes of bytes -/

/-- The byte of an ASCII character. -/
def byteOf (c : Char) : UInt8 := UInt8.ofNat c.toNat

/-- What the letter behind a percent sign stands for. -/
inductive ByteKind where
  | letter
  | control
  | digit
  | printable
  | lower
  | punctuation
  | space
  | upper
  | alphanumeric
  | hexDigit
  deriving DecidableEq, Repr

namespace ByteKind

/-- The bytes of a kind, as those of ASCII characters. -/
def holds (kind : ByteKind) (b : UInt8) : Bool :=
  let lower := 97 ≤ b && b ≤ 122
  let upper := 65 ≤ b && b ≤ 90
  let digit := 48 ≤ b && b ≤ 57
  let printable := 33 ≤ b && b ≤ 126
  match kind with
  | .letter => lower || upper
  | .control => b < 32 || b == 127
  | .digit => digit
  | .printable => printable
  | .lower => lower
  | .punctuation => printable && !(lower || upper || digit)
  | .space => b == 32 || (9 ≤ b && b ≤ 13)
  | .upper => upper
  | .alphanumeric => lower || upper || digit
  | .hexDigit => digit || (97 ≤ b && b ≤ 102) || (65 ≤ b && b ≤ 70)

/-- The letters of the kinds. -/
def letters : List (Char × ByteKind) :=
  [('a', letter), ('c', control), ('d', digit), ('g', printable), ('l', lower), ('p', punctuation),
   ('s', space), ('u', upper), ('w', alphanumeric), ('x', hexDigit)]

end ByteKind

/-- A set of bytes. -/
inductive ByteClass where
  | byte (b : UInt8)
  | any
  | kind (k : ByteKind)
  | range (low high : UInt8)
  | either (c d : ByteClass)
  | not (c : ByteClass)
  deriving DecidableEq, Repr

namespace ByteClass

/-- Whether a byte is in a class. -/
def holds : ByteClass → UInt8 → Bool
  | byte b, x => x == b
  | any, _ => true
  | kind k, x => k.holds x
  | range low high, x => low ≤ x && x ≤ high
  | either c d, x => c.holds x || d.holds x
  | not c, x => !c.holds x

/-- The class of a byte behind a percent sign: that of a kind, all other bytes for its letter in upper
case, and else the byte itself. -/
def escaped (b : UInt8) : ByteClass :=
  (ByteKind.letters.findSome? fun (c, k) =>
    if b = byteOf c then some (kind k)
    else if b = byteOf c.toUpper then some (not (kind k))
    else none).getD (byte b)

/-- The class of what stands between the brackets of a set. -/
def members : List UInt8 → ByteClass
  | [] => not any
  | [b] => byte b
  | [b, c] => if b = byteOf '%' then escaped c else either (byte b) (byte c)
  | b :: c :: d :: s =>
    if b = byteOf '%' then either (escaped c) (members (d :: s))
    else if c = byteOf '-' then either (range b d) (members s)
    else either (byte b) (members (c :: d :: s))

end ByteClass

/-! ## Items -/

/-- How often a class is matched, and which number of times is tried first. -/
inductive Repetition where
  | once
  /-- As often as possible. -/
  | many
  /-- As often as possible, but not never. -/
  | atLeastOnce
  /-- As rarely as possible. -/
  | few
  /-- Once if possible. -/
  | optional
  deriving DecidableEq, Repr

/-- The numbers of times to try in order, where `available` bytes could be matched. -/
def Repetition.counts (available : Nat) : Repetition → List Nat
  | once => if 0 < available then [1] else []
  | many => (List.range (available + 1)).reverse
  | atLeastOnce => (List.range' 1 available).reverse
  | few => List.range (available + 1)
  | optional => if 0 < available then [1, 0] else [0]

/-- An item of a pattern. -/
inductive Item where
  | single (c : ByteClass) (r : Repetition)
  /-- From an opening byte to the closing one that balances it. -/
  | balanced (opening closing : UInt8)
  /-- Between a byte that is not in the class and one that is. -/
  | frontier (c : ByteClass)
  /-- The text of an earlier capture. -/
  | backReference (index : Nat)
  | openCapture
  | closeCapture
  /-- A capture of the position alone. -/
  | position
  | subjectEnd
  deriving DecidableEq, Repr

/-- The item that matches one byte and no other. -/
def Item.literal (b : UInt8) : Item := .single (.byte b) .once

/-- A pattern that is tried at the start of the subject only, or everywhere. -/
structure Pattern where
  anchored : Bool
  items : List Item
  deriving DecidableEq, Repr

/-! ## Reading patterns -/

/-- Cuts a set at its closing bracket. The first byte does not close it, nor does one behind a percent
sign. -/
def splitSet? (first : Bool) : List UInt8 → Option (List UInt8 × List UInt8)
  | [] => none
  | [b] => if b = byteOf ']' ∧ first = false then some ([], []) else none
  | b :: c :: s =>
    if b = byteOf ']' ∧ first = false then some ([], c :: s)
    else if b = byteOf '%' then (splitSet? false s).map fun p => (b :: c :: p.1, p.2)
    else (splitSet? false (c :: s)).map fun p => (b :: p.1, p.2)

/-- Reads a set behind its opening bracket. -/
def readSet? (s : List UInt8) : Option (ByteClass × List UInt8) :=
  if s.head? = some (byteOf '^') then (splitSet? true s.tail).map fun p => (.not (.members p.1), p.2)
  else (splitSet? true s).map fun p => (.members p.1, p.2)

/-- Reads the class that starts with the byte `b`. -/
def readClass? (b : UInt8) (s : List UInt8) : Option (ByteClass × List UInt8) :=
  if b = byteOf '.' then some (.any, s)
  else if b = byteOf '[' then readSet? s
  else if b = byteOf '%' then
    match s with
    | [] => none
    | c :: s => some (.escaped c, s)
  else some (.byte b, s)

/-- Reads the repetition behind a class. -/
def readRepetition : List UInt8 → Repetition × List UInt8
  | [] => (.once, [])
  | b :: s =>
    if b = byteOf '*' then (.many, s)
    else if b = byteOf '+' then (.atLeastOnce, s)
    else if b = byteOf '-' then (.few, s)
    else if b = byteOf '?' then (.optional, s)
    else (.once, b :: s)

/-- Reads a class that starts with the byte `b`, and its repetition. -/
def readSingle? (b : UInt8) (s : List UInt8) : Option (Item × List UInt8) :=
  (readClass? b s).map fun p => (.single p.1 (readRepetition p.2).1, (readRepetition p.2).2)

/-- Reads what starts with a percent sign, from behind it on. -/
def readEscaped? : List UInt8 → Option (Item × List UInt8)
  | [] => none
  | c :: s =>
    if c = byteOf 'b' then
      match s with
      | x :: y :: s => some (.balanced x y, s)
      | _ => none
    else if c = byteOf 'f' then
      match s with
      | d :: s => if d = byteOf '[' then (readSet? s).map fun p => (.frontier p.1, p.2) else none
      | [] => none
    else if ByteKind.digit.holds c then
      if c = byteOf '0' then none else some (.backReference (c - byteOf '1').toNat, s)
    else readSingle? (byteOf '%') (c :: s)

/-- Reads the item that starts with the byte `b`. -/
def readItem? (b : UInt8) (s : List UInt8) : Option (Item × List UInt8) :=
  if b = byteOf '(' then
    if s.head? = some (byteOf ')') then some (.position, s.tail) else some (.openCapture, s)
  else if b = byteOf ')' then some (.closeCapture, s)
  else if b = byteOf '$' ∧ s = [] then some (.subjectEnd, s)
  else if b = byteOf '%' then readEscaped? s
  else readSingle? b s

theorem length_splitSet? {first : Bool} {s : List UInt8} {p : List UInt8 × List UInt8}
    (h : splitSet? first s = some p) : p.2.length ≤ s.length := by
  fun_induction splitSet? first s generalizing p with
  | case1 => cases h
  | case2 => cases h; simp
  | case3 => cases h
  | case4 => cases h; simp
  | case5 _ _ _ _ ih =>
    obtain ⟨q, hq, rfl⟩ := Option.map_eq_some_iff.1 h
    have := ih hq
    simp only [List.length_cons]
    omega
  | case6 _ _ _ _ _ _ ih =>
    obtain ⟨q, hq, rfl⟩ := Option.map_eq_some_iff.1 h
    have := ih hq
    simp only [List.length_cons] at this ⊢
    omega

theorem length_readSet? {s : List UInt8} {p : ByteClass × List UInt8} (h : readSet? s = some p) :
    p.2.length ≤ s.length := by
  rw [readSet?] at h
  split at h
  · obtain ⟨q, hq, rfl⟩ := Option.map_eq_some_iff.1 h
    have := length_splitSet? hq
    rw [List.length_tail] at this
    dsimp only
    omega
  · obtain ⟨q, hq, rfl⟩ := Option.map_eq_some_iff.1 h
    exact length_splitSet? hq

theorem length_readClass? {b : UInt8} {s : List UInt8} {p : ByteClass × List UInt8}
    (h : readClass? b s = some p) : p.2.length ≤ s.length := by
  rw [readClass?.eq_def] at h
  split at h
  · cases h
    exact Nat.le_refl _
  split at h
  · exact length_readSet? h
  split at h
  · split at h
    · cases h
    · cases h
      simp
  · cases h
    exact Nat.le_refl _

theorem length_readRepetition (s : List UInt8) : (readRepetition s).2.length ≤ s.length := by
  cases s with
  | nil => exact Nat.le_refl _
  | cons b s => grind [readRepetition]

theorem length_readSingle? {b : UInt8} {s : List UInt8} {p : Item × List UInt8}
    (h : readSingle? b s = some p) : p.2.length ≤ s.length := by
  obtain ⟨q, hq, rfl⟩ := Option.map_eq_some_iff.1 h
  exact Nat.le_trans (length_readRepetition q.2) (length_readClass? hq)

theorem length_readEscaped? {s : List UInt8} {p : Item × List UInt8} (h : readEscaped? s = some p) :
    p.2.length ≤ s.length := by
  rw [readEscaped?.eq_def] at h
  split at h
  · cases h
  next c s =>
  split at h
  · split at h
    · cases h
      simp only [List.length_cons]
      omega
    · cases h
  split at h
  · split at h
    · split at h
      · obtain ⟨q, hq, rfl⟩ := Option.map_eq_some_iff.1 h
        have := length_readSet? hq
        simp only [List.length_cons]
        omega
      · cases h
    · cases h
  split at h
  · split at h
    · cases h
    · cases h
      simp
  · exact length_readSingle? h

/-- Behind an item there is less than before it. -/
theorem length_readItem? {b : UInt8} {s : List UInt8} {p : Item × List UInt8} (h : readItem? b s = some p) :
    p.2.length ≤ s.length := by
  rw [readItem?] at h
  split at h
  · split at h
    · cases h
      simp
    · cases h
      exact Nat.le_refl _
  split at h
  · cases h
    exact Nat.le_refl _
  split at h
  · cases h
    exact Nat.le_refl _
  split at h
  · exact length_readEscaped? h
  · exact length_readSingle? h

/-- Reads items up to the end of the pattern. -/
def readItems? (s : List UInt8) : Option (List Item) :=
  match s with
  | [] => some []
  | b :: s =>
    match _h : readItem? b s with
    | some (item, rest) => (readItems? rest).map (item :: ·)
    | none => none
termination_by s.length
decreasing_by
  have := length_readItem? _h
  simp only [List.length_cons] at this ⊢
  omega

/-- Reads a pattern. -/
def readPattern? (s : List UInt8) : Option Pattern :=
  if s.head? = some (byteOf '^') then (readItems? s.tail).map (⟨true, ·⟩)
  else (readItems? s).map (⟨false, ·⟩)

/-! ## Matching -/

/-- A capture: a part of the subject that is still open, one between two positions, or a position. -/
inductive Capture where
  | opened (start : Nat)
  | closed (start stop : Nat)
  | position (start : Nat)
  deriving DecidableEq, Repr

/-- Whether a capture is complete. -/
def Capture.isComplete : Capture → Bool
  | opened _ => false
  | closed .. => true
  | position _ => true

/-- How far a pattern has been matched, and the captures in the order in which they were opened. -/
structure Match where
  position : Nat
  captures : List Capture := []
  deriving DecidableEq, Repr

/-- The match with more bytes of the subject. -/
def Match.advance (m : Match) (n : Nat) : Match := { m with position := m.position + n }

/-- The captures with the last open one closed. -/
def closeLast? (stop : Nat) : List Capture → Option (List Capture)
  | [] => none
  | c :: cs =>
    match closeLast? stop cs, c with
    | some closed, c => some (c :: closed)
    | none, .opened start => some (.closed start stop :: cs)
    | none, _ => none

/-- The number of bytes up to the closing one that balances an opening one before the text and `depth`
more. -/
def balancedLength? (opening closing : UInt8) : (depth : Nat) → List UInt8 → Option Nat
  | _, [] => none
  | 0, b :: s =>
    if b = closing then some 1
    else (balancedLength? opening closing (if b = opening then 1 else 0) s).map (· + 1)
  | depth + 1, b :: s =>
    if b = closing then (balancedLength? opening closing depth s).map (· + 1)
    else (balancedLength? opening closing (if b = opening then depth + 2 else depth + 1) s).map (· + 1)

/-- The matches that an item leads to, in the order in which they are tried. Where the language has an
error because of a capture that is not open or not closed, there is none. -/
def Item.ways (subject : List UInt8) (m : Match) : Item → List Match
  | single c r => (r.counts ((subject.drop m.position).takeWhile c.holds).length).map m.advance
  | balanced opening closing =>
    match subject.drop m.position with
    | b :: s =>
      if b = opening then
        ((balancedLength? opening closing 0 s).map fun n => m.advance (n + 1)).toList
      else []
    | [] => []
  | frontier c =>
    let before := ((subject.take m.position).getLast?).getD 0
    let behind := ((subject.drop m.position).head?).getD 0
    if !c.holds before && c.holds behind then [m] else []
  | backReference index =>
    match m.captures[index]? with
    | some (.closed start stop) =>
      let text := (subject.take stop).drop start
      if text <+: subject.drop m.position then [m.advance text.length] else []
    | _ => []
  | openCapture => [{ m with captures := m.captures ++ [.opened m.position] }]
  | closeCapture =>
    ((closeLast? m.position m.captures).map fun captures => { m with captures }).toList
  | position => [{ m with captures := m.captures ++ [.position m.position] }]
  | subjectEnd => if m.position = subject.length then [m] else []

/-- The first match of items from a match on. -/
def run (subject : List UInt8) : List Item → Match → Option Match
  | [], m => some m
  | item :: items, m => (item.ways subject m).findSome? (run subject items)

namespace Pattern

/-- The match of a pattern from a position of the subject on. Its captures are complete. -/
def matchAt? (p : Pattern) (subject : List UInt8) (position : Nat) : Option Match :=
  (run subject p.items { position }).filter fun m => m.captures.all Capture.isComplete

/-- The first position of the subject at which a pattern matches. -/
def find? (p : Pattern) (subject : List UInt8) : Option Nat :=
  (if p.anchored then [0] else List.range (subject.length + 1)).find? fun position =>
    (p.matchAt? subject position).isSome

end Pattern

/-- A pattern of many kinds of items: key, value and rest of a line in parentheses. -/
example : (readPattern? (utf8 "^(%a[%w_]*)%s-=%s*(%b())()".toList)).bind
    (fun p => p.matchAt? (utf8 "f_1 =(a(b)c))".toList) 0) =
      some ⟨12, [.closed 0 3, .closed 5 12, .position 12]⟩ := by
  decide +kernel

/-! ## Bytes of texts -/

/-- A byte below 128 is a character of its own. -/
theorem utf8EncodeChar_of_mem {c : Char} {b : UInt8} (h : b ∈ String.utf8EncodeChar c) (hb : b.toNat < 128) :
    c.toNat = b.toNat ∧ String.utf8EncodeChar c = [b] := by
  have hval : c.val.toNat = c.toNat := rfl
  rw [String.utf8EncodeChar.eq_1, hval] at h ⊢
  split at h
  · next hsmall =>
    obtain rfl := List.mem_singleton.1 h
    rw [if_pos hsmall]
    refine ⟨?_, rfl⟩
    rw [UInt8.toNat_ofNat']
    exact (Nat.mod_eq_of_lt (by omega)).symm
  -- Each byte of a longer encoding is at least 128.
  all_goals
    exfalso
    simp only [apply_ite (b ∈ ·), List.mem_cons, List.not_mem_nil, or_false] at h
    grind [UInt8.toNat_ofNat']

theorem utf8EncodeChar_of_ascii {c : Char} (h : c.toNat < 128) : String.utf8EncodeChar c = [byteOf c] := by
  have hval : c.val.toNat ≤ 127 := Nat.le_of_lt_succ h
  rw [String.utf8EncodeChar.eq_1, if_pos hval]
  rfl

/-- A character of one byte is in a text just if its byte is among those of the text. -/
theorem byteOf_mem_utf8_iff {c : Char} (h : c.toNat < 128) {s : List Char} : byteOf c ∈ utf8 s ↔ c ∈ s := by
  have hbyte : (byteOf c).toNat = c.toNat := by
    rw [byteOf, UInt8.toNat_ofNat']
    exact Nat.mod_eq_of_lt (by omega)
  rw [utf8, List.mem_flatMap]
  constructor
  · rintro ⟨d, hd, hmem⟩
    obtain ⟨heq, -⟩ := utf8EncodeChar_of_mem hmem (by omega)
    exact Char.toNat_inj.1 (heq.trans hbyte) ▸ hd
  · intro hc
    exact ⟨c, hc, by rw [utf8EncodeChar_of_ascii h]; exact List.mem_singleton_self _⟩

theorem utf8_inj {s t : List Char} : utf8 s = utf8 t ↔ s = t := by
  constructor
  · intro h
    have henc : s.utf8Encode = t.utf8Encode := by rw [List.utf8Encode, List.utf8Encode]; exact congrArg _ h
    have hdec := List.utf8Decode?_utf8Encode (l := s)
    rw [henc, List.utf8Decode?_utf8Encode, Option.some.injEq] at hdec
    exact (List.toArray_inj hdec).symm
  · exact congrArg utf8

/-! ## Escaped texts -/

/-- What `decide` finds of each item of a list that is given. -/
theorem forall_mem_of_all {α : Type} {p : α → Prop} [DecidablePred p] {xs : List α}
    (h : (xs.all fun x => decide (p x)) = true) : ∀ x ∈ xs, p x :=
  fun x hx => of_decide_eq_true (List.all_eq_true.1 h x hx)

/-- The bytes with a meaning of their own in a pattern. -/
def magicBytes : List UInt8 := patternMagic.map byteOf

/-- How a byte stands in an escaped text. -/
def escapeByte (b : UInt8) : List UInt8 := if b ∈ magicBytes then [byteOf '%', b] else [b]

theorem flatMap_escapeByte_of_not_mem {bytes : List UInt8} (h : ∀ b ∈ bytes, b ∉ magicBytes) :
    bytes.flatMap escapeByte = bytes := by
  induction bytes with
  | nil => rfl
  | cons b bytes ih =>
    rw [List.forall_mem_cons] at h
    rw [List.flatMap_cons, escapeByte, if_neg h.1, ih h.2, List.singleton_append]

/-- The encoding of a character that is not magic has no magic byte. -/
theorem not_mem_magicBytes {c : Char} (hc : c ∉ patternMagic) {b : UInt8} (hb : b ∈ String.utf8EncodeChar c) :
    b ∉ magicBytes := by
  intro hmem
  obtain ⟨d, hd, rfl⟩ := List.mem_map.1 hmem
  have hascii : ∀ d ∈ patternMagic, (byteOf d).toNat < 128 ∧ (byteOf d).toNat = d.toNat :=
    forall_mem_of_all (by decide)
  obtain ⟨hsmall, hbyte⟩ := hascii d hd
  obtain ⟨heq, -⟩ := utf8EncodeChar_of_mem hb hsmall
  exact hc (Char.toNat_inj.1 (heq.trans hbyte) ▸ hd)

/-- The bytes of an escaped text are those of the text, each escaped. -/
theorem utf8_escapePattern (s : String) :
    utf8 (escapePattern s).toList = (utf8 s.toList).flatMap escapeByte := by
  rw [escapePattern, String.toList_ofList]
  induction s.toList with
  | nil => rfl
  | cons c cs ih =>
    rw [List.flatMap_cons, utf8_append, ih, utf8_cons, List.flatMap_append]
    congr 1
    split
    · next hmagic =>
      have hascii : ∀ c ∈ patternMagic, c.toNat < 128 := forall_mem_of_all (by decide)
      have hbyte : byteOf c ∈ magicBytes := List.mem_map_of_mem hmagic
      rw [utf8_cons, utf8_cons, utf8EncodeChar_of_ascii (hascii c hmagic), utf8EncodeChar_of_ascii (by decide),
        List.flatMap_singleton, escapeByte, if_pos hbyte]
      rfl
    · next hmagic =>
      rw [flatMap_escapeByte_of_not_mem fun b => not_mem_magicBytes hmagic, utf8_cons]
      exact List.append_nil _

/-- What an escaped text goes on with is no repetition. -/
theorem readRepetition_escaped (bytes : List UInt8) :
    readRepetition (bytes.flatMap escapeByte) = (.once, bytes.flatMap escapeByte) := by
  have hmark : ∀ b ∈ [byteOf '*', byteOf '+', byteOf '-', byteOf '?'], b ∈ magicBytes ∧ byteOf '%' ≠ b :=
    forall_mem_of_all (by decide)
  cases bytes with
  | nil => rfl
  | cons b bytes =>
    rw [List.flatMap_cons, escapeByte]
    split <;> grind [readRepetition]

theorem readItems?_cons {b : UInt8} {s rest : List UInt8} {item : Item} (h : readItem? b s = some (item, rest)) :
    readItems? (b :: s) = (readItems? rest).map (item :: ·) := by
  rw [readItems?]
  split
  · next heq =>
    cases h.symm.trans heq
    rfl
  · next heq => cases h.symm.trans heq

/-- A magic byte behind a percent sign stands for itself. -/
theorem readItem?_percent {b : UInt8} (hb : b ∈ magicBytes) {s : List UInt8} (hs : readRepetition s = (.once, s)) :
    readItem? (byteOf '%') (b :: s) = some (.literal b, s) := by
  have hmagic : ∀ b ∈ magicBytes, b ≠ byteOf 'b' ∧ b ≠ byteOf 'f' ∧ ByteKind.digit.holds b = false ∧
      ByteClass.escaped b = .byte b :=
    forall_mem_of_all (by decide)
  obtain ⟨hbalanced, hfrontier, hdigit, hescaped⟩ := hmagic b hb
  have hclass : readClass? (byteOf '%') (b :: s) = some (.byte b, s) := by
    rw [readClass?, if_neg (by decide), if_neg (by decide), if_pos rfl, hescaped]
  have hescape : readEscaped? (b :: s) = readSingle? (byteOf '%') (b :: s) := by
    simp only [readEscaped?.eq_def, if_neg hbalanced, if_neg hfrontier, hdigit, Bool.false_eq_true, if_false]
  rw [readItem?, if_neg (by decide), if_neg (by decide), if_neg fun h => List.cons_ne_nil b s h.2, if_pos rfl,
    hescape, readSingle?, hclass, Option.map_some, hs]
  rfl

/-- A byte that is not magic stands for itself. -/
theorem readItem?_plain {b : UInt8} (hb : b ∉ magicBytes) {s : List UInt8} (hs : readRepetition s = (.once, s)) :
    readItem? b s = some (.literal b, s) := by
  have hne (c : Char) (hc : c ∈ patternMagic) : b ≠ byteOf c := by
    rintro rfl
    exact hb (List.mem_map_of_mem hc)
  have hclass : readClass? b s = some (.byte b, s) := by
    rw [readClass?.eq_def, if_neg (hne '.' (by decide)), if_neg (hne '[' (by decide)), if_neg (hne '%' (by decide))]
  rw [readItem?, if_neg (hne '(' (by decide)), if_neg (hne ')' (by decide)),
    if_neg fun h => hne '$' (by decide) h.1, if_neg (hne '%' (by decide)), readSingle?, hclass, Option.map_some, hs]
  rfl

/-- An escaped byte is read as the item that matches it. -/
theorem readItems?_escapeByte (b : UInt8) {s : List UInt8} (hs : readRepetition s = (.once, s)) :
    readItems? (escapeByte b ++ s) = (readItems? s).map (.literal b :: ·) := by
  rw [escapeByte]
  split
  · next hb => exact readItems?_cons (readItem?_percent hb hs)
  · next hb => exact readItems?_cons (readItem?_plain hb hs)

theorem readItems?_escaped (bytes : List UInt8) :
    readItems? (bytes.flatMap escapeByte) = some (bytes.map .literal) := by
  induction bytes with
  | nil => rw [List.flatMap_nil, readItems?, List.map_nil]
  | cons b bytes ih =>
    rw [List.flatMap_cons, readItems?_escapeByte b (readRepetition_escaped bytes), ih, Option.map_some, List.map_cons]

/-- An escaped text is read as an item for each of its bytes. -/
theorem readPattern?_escapePattern (s : String) :
    readPattern? (utf8 (escapePattern s).toList) = some ⟨false, (utf8 s.toList).map .literal⟩ := by
  have hstart (bytes : List UInt8) : (bytes.flatMap escapeByte).head? ≠ some (byteOf '^') := by
    cases bytes with
    | nil => exact nofun
    | cons b bytes =>
      rw [List.flatMap_cons, escapeByte]
      split
      · simp [show byteOf '%' ≠ byteOf '^' by decide]
      · next hb =>
        have hmark : byteOf '^' ∈ magicBytes := by decide
        rintro heq
        obtain rfl : b = byteOf '^' := by simpa using heq
        exact hb hmark
  rw [utf8_escapePattern, readPattern?, if_neg (hstart _), readItems?_escaped, Option.map_some]

/-! ## Literal items -/

/-- The item of a byte matches that byte, once. -/
theorem ways_literal (b : UInt8) (subject : List UInt8) (m : Match) :
    (Item.literal b).ways subject m = if subject[m.position]? = some b then [m.advance 1] else [] := by
  rw [← List.head?_drop, Item.literal, Item.ways]
  cases subject.drop m.position with
  | nil => rfl
  | cons x rest =>
    by_cases hx : x = b
    · simp [hx, ByteClass.holds, Repetition.counts]
    · simp [hx, ByteClass.holds, Repetition.counts]

/-- Items of bytes match where these bytes stand, in one way. -/
theorem run_literals (subject bytes : List UInt8) (m : Match) :
    run subject (bytes.map .literal) m =
      if bytes <+: subject.drop m.position then some (m.advance bytes.length) else none := by
  induction bytes generalizing m with
  | nil => simp [run, Match.advance]
  | cons b bytes ih =>
    have hnext : subject.drop (m.advance 1).position = (subject.drop m.position).tail := (List.tail_drop ..).symm
    rw [List.map_cons, run, ways_literal, ← List.head?_drop]
    cases hrest : subject.drop m.position with
    | nil => simp
    | cons x rest =>
      by_cases hx : x = b
      · rw [List.head?_cons, if_pos (congrArg some hx), List.findSome?_singleton, ih, hnext, hrest]
        simp [hx, Match.advance, Nat.add_assoc, Nat.add_comm 1]
      · simp [hx, Ne.symm hx]

/-- A pattern of such items matches where the bytes stand, and takes them. -/
theorem matchAt?_literals (subject bytes : List UInt8) (position : Nat) :
    (⟨false, bytes.map .literal⟩ : Pattern).matchAt? subject position =
      if bytes <+: subject.drop position then some ⟨position + bytes.length, []⟩ else none := by
  rw [Pattern.matchAt?, run_literals]
  split <;> rfl

/-- It is found just if the bytes occur in the subject. -/
theorem find?_literals_isSome_iff {subject bytes : List UInt8} :
    ((⟨false, bytes.map .literal⟩ : Pattern).find? subject).isSome ↔ bytes <:+: subject := by
  simp only [Pattern.find?, Bool.false_eq_true, if_false, List.find?_isSome, matchAt?_literals, Option.isSome_ite,
    List.infix_iff_prefix_suffix]
  constructor
  · rintro ⟨position, -, h⟩
    exact ⟨_, h, List.drop_suffix position subject⟩
  · rintro ⟨rest, hprefix, hsuffix⟩
    have hlength := hsuffix.length_le
    refine ⟨subject.length - rest.length, List.mem_range.2 (by omega), ?_⟩
    rwa [← List.suffix_iff_eq_drop.1 hsuffix]

end LuaStubs.Lua
