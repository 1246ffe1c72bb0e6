import LuaStubs.Proto.Comment

/-!
# Texts without comments

`opensComment` says whether `//` or `/*` occurs in a text. Where neither does,
`dropComments` changes nothing (`dropComments_eq_self`). Pieces of text that
open no comment can be joined where the second does not start with a part of a
mark (`opensComment_append`).
-/

namespace LuaStubs.Proto

/-- Whether the mark of a line comment or of a block comment occurs in a text. -/
def opensComment : List Char → Bool
  | '/' :: '/' :: _ => true
  | '/' :: '*' :: _ => true
  | _ :: cs => opensComment cs
  | [] => false

theorem opensComment_of_cons {c : Char} {cs : List Char} (h : opensComment (c :: cs) = false) :
    opensComment cs = false := by
  unfold opensComment at h
  split at h
  · cases h
  · cases h
  · next heq => cases heq; exact h
  · next heq => cases heq

theorem opensComment_cons_of_ne {c : Char} (hc : c ≠ '/') (cs : List Char) :
    opensComment (c :: cs) = opensComment cs := by
  rw [opensComment]
  · rintro _ rfl; exact absurd rfl hc
  · rintro _ rfl; exact absurd rfl hc

/-- A text without a slash in front changes nothing. -/
theorem opensComment_append_of_not_mem {s t : List Char} (h : '/' ∉ s)
    (ht : opensComment t = false) : opensComment (s ++ t) = false := by
  induction s with
  | nil => exact ht
  | cons c cs ih =>
    rw [List.mem_cons, not_or] at h
    rw [List.cons_append, opensComment_cons_of_ne (Ne.symm h.1), ih h.2]

theorem opensComment_of_not_mem {s : List Char} (h : '/' ∉ s) : opensComment s = false := by
  simpa using opensComment_append_of_not_mem h (t := []) rfl

/-- Joined texts open no comment if the second starts with no part of a comment mark. -/
theorem opensComment_append {s t : List Char} (hs : opensComment s = false)
    (ht : opensComment t = false) (h : ∀ c ∈ t.head?, c ≠ '/' ∧ c ≠ '*') :
    opensComment (s ++ t) = false := by
  induction s with
  | nil => exact ht
  | cons a as ih =>
    have hrest := ih (opensComment_of_cons hs)
    rw [List.cons_append]
    unfold opensComment
    split
    · next heq =>
      cases as with
      | nil => cases heq; exact absurd rfl (h '/' rfl).1
      | cons b bs => cases heq; cases hs
    · next heq =>
      cases as with
      | nil => cases heq; exact absurd rfl (h '*' rfl).2
      | cons b bs => cases heq; cases hs
    · next heq => cases heq; exact hrest
    · rfl

/-- No comment is opened just if neither mark occurs. -/
theorem opensComment_eq_false_iff {s : List Char} :
    opensComment s = false ↔ ¬ ['/', '/'] <:+: s ∧ ¬ ['/', '*'] <:+: s := by
  fun_induction opensComment s with
  | case1 cs => exact iff_of_false Bool.noConfusion fun h => h.1 ⟨[], cs, rfl⟩
  | case2 cs => exact iff_of_false Bool.noConfusion fun h => h.2 ⟨[], cs, rfl⟩
  | case3 c cs hline hblock ih =>
    have hpre {d : Char} (hd : ∀ t, c = '/' → cs = d :: t → False) : ¬ ['/', d] <+: c :: cs := by
      rintro ⟨t, ht⟩
      obtain ⟨hc, hcs⟩ := List.cons.inj ht
      exact hd t hc.symm hcs.symm
    rw [ih, List.infix_cons_iff, List.infix_cons_iff]
    simp only [hpre hline, hpre hblock, false_or]
  | case4 => simp

theorem dropBlocks_eq_self {s : List Char} (h : opensComment s = false) : dropBlocks s = s := by
  fun_induction dropBlocks s with
  | case1 => rfl
  | case2 => cases h
  | case3 => cases h
  | case4 c cs _ ih => rw [ih (opensComment_of_cons h)]

theorem dropLines_eq_self {s : List Char} (h : opensComment s = false) :
    dropLines false s = s := by
  induction s with
  | nil => rfl
  | cons c cs ih =>
    have hcs := ih (opensComment_of_cons h)
    unfold dropLines
    split
    · next heq => cases heq
    · next heq => cases heq; rw [hcs]
    · next hf _ => cases hf
    · next heq => cases heq; cases h
    · next heq => cases heq; rw [hcs]

/-- A text that opens no comment is kept as it is. -/
theorem dropComments_eq_self {s : List Char} (h : opensComment s = false) : dropComments s = s := by
  rw [dropComments, dropBlocks_eq_self h, dropLines_eq_self h]

end LuaStubs.Proto
