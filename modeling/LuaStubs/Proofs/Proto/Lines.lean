import LuaStubs.Proofs.Proto.Schema
import LuaStubs.Proofs.Text.Case

/-!
# The lines of a schema's text

What the names, types and lines of a schema are made of. Every line can stand
on a line of its own (`MessageDecl.isLine`), and the line of a field has nothing
but word characters and a few marks (`FieldDecl.all_isFieldPart`).
-/

namespace LuaStubs.Proto

open Text (toNat_of_isUpper toNat_of_isLower toNat_of_isDigit)

/-! ## Characters -/

theorem toNat_of_isAsciiWord {c : Char} (h : isAsciiWord c = true) :
    (48 ≤ c.toNat ∧ c.toNat ≤ 57) ∨ (65 ≤ c.toNat ∧ c.toNat ≤ 90) ∨ c.toNat = 95 ∨
      (97 ≤ c.toNat ∧ c.toNat ≤ 122) := by
  rw [isAsciiWord, Bool.or_eq_true, beq_iff_eq] at h
  rcases h with h | rfl
  · rcases Bool.or_eq_true_iff.1 h with h | h
    · rcases Bool.or_eq_true_iff.1 h with h | h
      · exact .inr (.inl (toNat_of_isUpper h))
      · exact .inr (.inr (.inr (toNat_of_isLower h)))
    · exact .inl (toNat_of_isDigit h)
  · exact .inr (.inr (.inl rfl))

theorem isAsciiWord_of_isNameStart {c : Char} (h : Text.isNameStart c = true) :
    isAsciiWord c = true := by
  simp only [Text.isNameStart, isAsciiWord, Char.isAlphanum, Bool.or_eq_true] at h ⊢
  rcases h with h | h
  · exact .inl (.inl h)
  · exact .inr h

theorem isAsciiWord_of_isDigit {c : Char} (h : c.isDigit = true) : isAsciiWord c = true := by
  simp [isAsciiWord, Char.isAlphanum, h]

theorem isWord_of_isAsciiWord {c : Char} (h : isAsciiWord c = true) : Text.isWord c = true := by
  have hc := toNat_of_isAsciiWord h
  rw [Text.isWord, if_pos (by omega)]
  exact h

theorem not_isBlank_of_isAsciiWord {c : Char} (h : isAsciiWord c = true) :
    Text.isBlank c = false := by
  have hc := toNat_of_isAsciiWord h
  simp only [Text.isBlank, Text.inRanges, Text.blankRanges, List.any_cons, List.any_nil,
    Bool.or_false, Bool.or_eq_false_iff, Bool.and_eq_false_iff, decide_eq_false_iff_not]
  and_intros <;> omega

namespace Name

theorem word_of_mem {n : Name} {c : Char} (h : c ∈ n.chars) : isAsciiWord c = true := by
  rcases List.mem_cons.1 h with rfl | h
  · exact isAsciiWord_of_isNameStart n.first_start
  · exact List.all_eq_true.1 n.rest_word c h

end Name

theorem Indent.eq_blank_or_tab {i : Indent} {c : Char} (h : c ∈ i.chars) : c = ' ' ∨ c = '\t' := by
  have hc : isGap c = true := List.all_eq_true.1 i.gap c h
  simpa [isGap] using hc

/-- What an indentation starts with is neither a letter nor a brace. -/
theorem Indent.exists_cons (i : Indent) : ∃ g gs, i.chars = g :: gs ∧ (g = ' ' ∨ g = '\t') := by
  obtain ⟨g, gs, h⟩ := List.exists_cons_of_ne_nil i.nonempty
  exact ⟨g, gs, h, i.eq_blank_or_tab (by simp [h])⟩

/-! ## Lines -/

/-- What the line of a field is made of. -/
def isFieldPart (c : Char) : Bool := isAsciiWord c || [' ', '.', '<', '>', ',', '=', ';'].contains c

theorem Name.all_isFieldPart (n : Name) : n.chars.all isFieldPart = true :=
  List.all_eq_true.2 fun c h => by simp [isFieldPart, Name.word_of_mem h]

/-- A name with dots is made of words and dots. -/
theorem DottedName.word_or_dot {d : DottedName} {c : Char} (h : c ∈ d.chars) :
    isAsciiWord c = true ∨ c = '.' := by
  simp only [chars, List.mem_append, List.mem_flatMap, List.mem_cons] at h
  rcases h with (h | h) | ⟨n, -, rfl | h⟩
  · split at h
    · exact .inr (List.mem_singleton.1 h)
    · cases h
  · exact .inl (Name.word_of_mem h)
  · exact .inr rfl
  · exact .inl (Name.word_of_mem h)

theorem DottedName.all_isFieldPart (d : DottedName) : d.chars.all isFieldPart = true :=
  List.all_eq_true.2 fun c h => by
    rcases d.word_or_dot h with h | rfl
    · simp [isFieldPart, h]
    · decide

theorem FieldType.all_isFieldPart (t : FieldType) : t.chars.all isFieldPart = true := by
  cases t with
  | named d => exact d.all_isFieldPart
  | map key value =>
    simp only [chars, List.all_append, DottedName.all_isFieldPart, Bool.and_true]
    decide

theorem FieldDecl.word_or_mark {f : FieldDecl} {c : Char} (h : c ∈ f.tail) :
    isAsciiWord c = true ∨ c = ' ' ∨ c = '=' := by
  simp only [tail, List.mem_append, List.mem_cons, List.not_mem_nil, or_false] at h
  rcases h with ((rfl | h) | rfl | rfl | rfl) | h
  · exact .inr (.inl rfl)
  · exact .inl (Name.word_of_mem h)
  · exact .inr (.inl rfl)
  · exact .inr (.inr rfl)
  · exact .inr (.inl rfl)
  · exact .inl (isAsciiWord_of_isDigit (Nat.isDigit_of_mem_toDigits (by decide) (by decide) h))

theorem FieldDecl.all_isFieldPart (f : FieldDecl) : f.line.all isFieldPart = true := by
  have tail : f.tail.all isFieldPart = true := List.all_eq_true.2 fun c h => by
    rcases f.word_or_mark h with h | rfl | rfl
    · simp [isFieldPart, h]
    · decide
    · decide
  simp only [line, lineWith, List.all_append, FieldType.all_isFieldPart, tail, Bool.and_true]
  cases f.qualifier <;> decide

/-- A character that is no part of a field's line is not in it. -/
theorem FieldDecl.not_mem_line (f : FieldDecl) {c : Char} (hc : isFieldPart c = false) :
    c ∉ f.line := fun h => by
  rw [List.all_eq_true.1 f.all_isFieldPart c h] at hc
  cases hc

/-- A text that can stand on a line: it has no line feed, and opens no comment. -/
structure IsLine (l : List Char) : Prop where
  no_break : '\n' ∉ l
  no_comment : opensComment l = false

theorem IsLine.of_all {l : List Char} {p : Char → Bool} (h : l.all p = true) (hbreak : p '\n' = false)
    (hslash : p '/' = false) : IsLine l where
  no_break hm := by rw [List.all_eq_true.1 h _ hm] at hbreak; cases hbreak
  no_comment := opensComment_of_not_mem fun hm => by
    rw [List.all_eq_true.1 h _ hm] at hslash; cases hslash

/-- A line that opens a block. -/
theorem IsLine.opening {l : List Char} (h : IsLine l) : IsLine (l ++ [' ', '\x7b']) where
  no_break hm := by
    rcases List.mem_append.1 hm with hm | hm
    · exact h.no_break hm
    · revert hm; decide
  no_comment := opensComment_append h.no_comment (by decide) (by simp)

theorem IsLine.closing : IsLine ['\x7d'] := ⟨by decide, by decide⟩

/-- There is no line feed in a line with its indentation. -/
theorem Indent.no_break (i : Indent) {l : List Char} (h : IsLine l) : '\n' ∉ i.chars ++ l := by
  rw [List.mem_append, not_or]
  refine ⟨fun hm => ?_, h.no_break⟩
  exact absurd (i.eq_blank_or_tab hm) (by decide)

theorem FieldDecl.isLine (f : FieldDecl) : IsLine f.line :=
  .of_all f.all_isFieldPart (by decide) (by decide)

theorem Statement.isLine (s : Statement) : IsLine s.text where
  no_break hm := by have := List.all_eq_true.1 s.plain _ hm; revert this; decide
  no_comment := s.no_comment

mutual

theorem Nested.isLine (x : Nested) : ∀ l ∈ x.lines, IsLine l := by
  cases x with
  | statement s =>
    intro l hl
    rw [Nested.lines, List.mem_singleton] at hl
    exact hl ▸ s.isLine
  | block head body =>
    intro l hl
    simp only [Nested.lines, List.mem_cons, List.mem_append, List.not_mem_nil, or_false] at hl
    rcases hl with rfl | hl | rfl
    · exact head.isLine.opening
    · exact Nested.isLine_linesOf body l hl
    · exact .closing

theorem Nested.isLine_linesOf (xs : List Nested) : ∀ l ∈ Nested.linesOf xs, IsLine l := by
  cases xs with
  | nil => intro l hl; cases hl
  | cons x xs =>
    intro l hl
    rcases List.mem_append.1 hl with hl | hl
    · exact x.isLine l hl
    · exact Nested.isLine_linesOf xs l hl

end

theorem Member.isLine (m : Member) : ∀ l ∈ m.lines, IsLine l := by
  cases m with
  | field f =>
    intro l hl
    rw [Member.lines, List.mem_singleton] at hl
    exact hl ▸ f.isLine
  | group name fields =>
    intro l hl
    simp only [Member.lines, List.mem_cons, List.mem_append, List.mem_map, List.not_mem_nil,
      or_false] at hl
    rcases hl with rfl | ⟨f, -, rfl⟩ | rfl
    · refine IsLine.opening (.of_all (p := isFieldPart) ?_ (by decide) (by decide))
      rw [List.all_append, name.all_isFieldPart]
      decide
    · exact f.isLine
    · exact .closing
  | nested kind name body =>
    intro l hl
    simp only [Member.lines, List.mem_cons, List.mem_append, List.not_mem_nil, or_false] at hl
    rcases hl with rfl | hl | rfl
    · refine IsLine.opening (.of_all (p := isFieldPart) ?_ (by decide) (by decide))
      rw [List.all_append, List.all_cons, name.all_isFieldPart]
      cases kind <;> decide
    · exact Nested.isLine_linesOf body l hl
    · exact .closing

theorem MessageDecl.isLine (m : MessageDecl) : ∀ l ∈ m.lines, IsLine l := by
  intro l hl
  obtain ⟨x, -, hl⟩ := List.mem_flatMap.1 hl
  exact x.isLine l hl

end LuaStubs.Proto
