import LuaStubs.Lua.Comment

/-!
# Comments in Lua

A line comment ends with its line, and both a line feed and a carriage return
end a line. `commentText` writes each line feed with the start of a new comment
behind it, but a carriage return as it is, so its lines are all comments just if
each carriage return is part of a line break of two characters or stands before
a comment of its own (`sourceLines_commentText_iff`).
-/

namespace LuaStubs.Lua

/-- The start of a comment. -/
def commentMark : List Char := ['-', '-']

/-- The end of a comment that opens with two brackets. -/
def commentEnd : List Char := [']', ']']

/-- A character that ends a line. -/
def isLineBreak (c : Char) : Bool := c == '\n' || c == '\r'

/-- The lines of a source text. -/
def sourceLines (s : List Char) : List (List Char) := s.splitOnP isLineBreak

/-- Every carriage return has a line feed or the start of a comment behind it. -/
def ReturnsJoined (s : List Char) : Prop :=
  ∀ rest, '\r' :: rest <:+ s → ['\n'] <+: rest ∨ commentMark <+: rest

/-! ## Lines -/

theorem sourceLines_break {c : Char} (hc : isLineBreak c = true) (s : List Char) :
    sourceLines (c :: s) = [] :: sourceLines s := by
  rw [sourceLines, List.splitOnP_cons_eq_if_modifyHead, if_pos hc, sourceLines]

/-- A text without a line break goes before the first line. -/
theorem sourceLines_append {s t l : List Char} {ls : List (List Char)} (hs : s.any isLineBreak = false)
    (ht : sourceLines t = l :: ls) : sourceLines (s ++ t) = (s ++ l) :: ls := by
  induction s with
  | nil => exact ht
  | cons c cs ih =>
    rw [List.any_cons, Bool.or_eq_false_iff] at hs
    have hcs := ih hs.2
    rw [sourceLines] at hcs
    rw [List.cons_append, sourceLines, List.splitOnP_cons_eq_if_modifyHead, hs.1, hcs]
    rfl

/-! ## Carriage returns -/

theorem returnsJoined_cons {c : Char} {s : List Char} :
    ReturnsJoined (c :: s) ↔ (c = '\r' → ['\n'] <+: s ∨ commentMark <+: s) ∧ ReturnsJoined s := by
  constructor
  · intro h
    refine ⟨?_, fun rest hrest => h rest (hrest.trans (List.suffix_cons c s))⟩
    rintro rfl
    exact h s (List.suffix_refl _)
  · rintro ⟨hc, hs⟩ rest hrest
    rcases List.suffix_cons_iff.1 hrest with heq | hrest
    · cases heq
      exact hc rfl
    · exact hs rest hrest

theorem returnsJoined_cons_of_ne {c : Char} (hc : c ≠ '\r') {s : List Char} :
    ReturnsJoined (c :: s) ↔ ReturnsJoined s := by
  rw [returnsJoined_cons]
  exact ⟨And.right, fun h => ⟨fun heq => absurd heq hc, h⟩⟩

instance decidableReturnsJoined : ∀ s, Decidable (ReturnsJoined s)
  | [] => isTrue (by simp [ReturnsJoined])
  | _ :: s => @decidable_of_iff _ _ returnsJoined_cons.symm (@instDecidableAnd _ _ _ (decidableReturnsJoined s))

/-! ## Comment text -/

/-- The characters of a text in comments. -/
def commentChars (s : List Char) : List Char := continueLines (joinLineBreaks s)

theorem continueLines_cons (c : Char) (s : List Char) :
    continueLines (c :: s) = (if c = '\n' then ['\n', '-', '-', ' '] else [c]) ++ continueLines s := by
  rw [continueLines, List.flatMap_cons]
  rfl

theorem commentChars_break (s : List Char) :
    commentChars ('\n' :: s) = '\n' :: (['-', '-', ' '] ++ commentChars s) := by
  rw [commentChars, joinLineBreaks, continueLines_cons]
  · rfl
  · rintro _ ⟨⟩

theorem commentChars_return_break (s : List Char) :
    commentChars ('\r' :: '\n' :: s) = '\n' :: (['-', '-', ' '] ++ commentChars s) := by
  rw [commentChars, joinLineBreaks, continueLines_cons]
  rfl

theorem commentChars_cons {c : Char} {s : List Char} (hc : c ≠ '\n') (hs : c = '\r' → ¬ ['\n'] <+: s) :
    commentChars (c :: s) = c :: commentChars s := by
  rw [commentChars, joinLineBreaks, continueLines_cons, if_neg hc]
  · rfl
  · rintro rest rfl rfl
    exact hs rfl (by simp)

/-- The characters before the first line break. -/
def firstLine (s : List Char) : List Char := s.takeWhile fun c => !isLineBreak c

theorem commentMark_prefix_firstLine (s : List Char) : commentMark <+: firstLine s ↔ commentMark <+: s := by
  refine ⟨fun h => h.trans (List.takeWhile_prefix _), ?_⟩
  rintro ⟨rest, rfl⟩
  exact ⟨firstLine rest, rfl⟩

/-- The first line is that of the text, and the others are comments just if the carriage returns of the
text are joined. -/
theorem exists_sourceLines_commentChars (s : List Char) :
    ∃ ls, sourceLines (commentChars s) = firstLine s :: ls ∧
      ((∀ line ∈ ls, commentMark <+: line) ↔ ReturnsJoined s) := by
  fun_induction joinLineBreaks s with
  | case1 => exact ⟨[], rfl, by simp [ReturnsJoined]⟩
  | case2 s ih =>
    obtain ⟨ls, hls, hiff⟩ := ih
    refine ⟨(['-', '-', ' '] ++ firstLine s) :: ls, ?_, ?_⟩
    · rw [commentChars_return_break, sourceLines_break rfl, sourceLines_append (by decide) hls]
      rfl
    · rw [List.forall_mem_cons, hiff, returnsJoined_cons, returnsJoined_cons_of_ne (by decide)]
      simp [commentMark]
  | case3 c s hpair ih =>
    obtain ⟨ls, hls, hiff⟩ := ih
    by_cases hbreak : c = '\n'
    · subst hbreak
      refine ⟨(['-', '-', ' '] ++ firstLine s) :: ls, ?_, ?_⟩
      · rw [commentChars_break, sourceLines_break rfl, sourceLines_append (by decide) hls]
        rfl
      · rw [List.forall_mem_cons, hiff, returnsJoined_cons_of_ne (by decide)]
        simp [commentMark]
    by_cases hreturn : c = '\r'
    · subst hreturn
      have hsingle : ¬ ['\n'] <+: s := by
        rintro ⟨rest, rfl⟩
        exact hpair rest rfl rfl
      refine ⟨firstLine s :: ls, ?_, ?_⟩
      · rw [commentChars_cons hbreak fun _ => hsingle, sourceLines_break rfl, hls]
        rfl
      · rw [List.forall_mem_cons, hiff, returnsJoined_cons, commentMark_prefix_firstLine]
        simp [hsingle]
    · have hc : isLineBreak c = false := by simp [isLineBreak, hbreak, hreturn]
      refine ⟨ls, ?_, hiff.trans (returnsJoined_cons_of_ne hreturn).symm⟩
      rw [commentChars_cons hbreak fun h => absurd h hreturn,
        ← List.singleton_append, sourceLines_append (by simpa using hc) hls]
      simp [firstLine, hc]

/-- A description behind the start of a comment is in comments line by line just if the carriage returns
of the description, up to the white space at its end, are joined. -/
theorem sourceLines_commentText_iff {start : List Char} (hmark : commentMark <+: start)
    (hline : start.any isLineBreak = false) (s : String) :
    (∀ line ∈ sourceLines (start ++ (commentText s).toList), commentMark <+: line) ↔
      ReturnsJoined (Text.trimEnd s.toList) := by
  obtain ⟨ls, hls, hiff⟩ := exists_sourceLines_commentChars (Text.trimEnd s.toList)
  have htext : (commentText s).toList = commentChars (Text.trimEnd s.toList) := String.toList_ofList
  rw [htext, sourceLines_append hline hls, List.forall_mem_cons, hiff]
  exact and_iff_right (hmark.trans (List.prefix_append ..))

end LuaStubs.Lua
