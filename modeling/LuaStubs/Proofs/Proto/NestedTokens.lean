import LuaStubs.Proofs.Proto.Nesting
import LuaStubs.Proofs.Proto.Tokens

/-!
# Tokens without nested declarations

`withoutNested` drops nested declarations from tokens as `dropNested` drops them from text. A header is read
from a text at a token just if it is read from its tokens (`insideNested?_tokensFrom`), and its closing brace
is found in both (`behindClose_tokensFrom`). So the two passes leave the same (`tokensFrom_dropNested`).
-/

namespace LuaStubs.Proto

/-! ## Nested declarations -/

/-- The tokens behind the brace that closes `depth + 1` open ones; none if there is none. -/
def behindClose : (depth : Nat) → List Token → List Token
  | _, [] => []
  | depth, x :: xs =>
    if x.text = ['\x7b'] then behindClose (depth + 1) xs
    else if x.text = ['\x7d'] then
      match depth with
      | 0 => xs
      | depth + 1 => behindClose depth xs
    else behindClose depth xs

/-- Reads a name and an opening brace. -/
def opened? : List Token → Option (List Token)
  | [] => none
  | x :: xs => if x.text.all Text.isWord then dropMark? '\x7b' xs else none

/-- Reads the header of a nested declaration: the tokens behind its brace. -/
def insideNested? : List Token → Option (List Token)
  | [] => none
  | x :: xs => if x.text = "enum".toList ∨ x.text = "message".toList then opened? xs else none

/-- The tokens with the first one moved up to where `x` stands. -/
def movedTo (x : Token) : List Token → List Token
  | [] => []
  | y :: ys => ⟨y.text, x.apart || y.apart, x.first || y.first⟩ :: ys

theorem length_behindClose (depth : Nat) (xs : List Token) : (behindClose depth xs).length ≤ xs.length := by
  fun_induction behindClose depth xs <;> simp_all <;> omega

theorem length_movedTo (x : Token) (xs : List Token) : (movedTo x xs).length = xs.length := by
  cases xs <;> rfl

theorem length_opened? {xs ys : List Token} (h : opened? xs = some ys) : ys.length < xs.length := by
  cases xs with
  | nil => cases h
  | cons x xs =>
    rw [opened?] at h
    split at h
    · exact Nat.lt_succ_of_lt (length_dropMark? h)
    · cases h

theorem length_insideNested? {xs ys : List Token} (h : insideNested? xs = some ys) :
    ys.length < xs.length := by
  cases xs with
  | nil => cases h
  | cons x xs =>
    rw [insideNested?] at h
    split at h
    · exact Nat.lt_succ_of_lt (length_opened? h)
    · cases h

/-- The tokens without nested declarations, braces and all. -/
def withoutNested (xs : List Token) : List Token :=
  match xs with
  | [] => []
  | x :: xs =>
    match _h : insideNested? (x :: xs) with
    | some inside => withoutNested (movedTo x (behindClose 0 inside))
    | none => x :: withoutNested xs
termination_by xs.length
decreasing_by
  · rw [length_movedTo]
    exact Nat.lt_of_le_of_lt (length_behindClose 0 _) (length_insideNested? _h)
  · simp

theorem withoutNested_of_insideNested? {x : Token} {xs inside : List Token}
    (h : insideNested? (x :: xs) = some inside) :
    withoutNested (x :: xs) = withoutNested (movedTo x (behindClose 0 inside)) := by
  rw [withoutNested]
  split
  · next hinside => rw [h] at hinside; cases hinside; rfl
  · next hnone => rw [h] at hnone; cases hnone

theorem withoutNested_cons {x : Token} {xs : List Token} (h : insideNested? (x :: xs) = none) :
    withoutNested (x :: xs) = x :: withoutNested xs := by
  rw [withoutNested]
  split
  · next hinside => rw [h] at hinside; cases hinside
  · rfl

theorem movedTo_tokensFrom (x : Token) (apart first : Bool) (part : Char → Bool) (s : List Char) :
    movedTo x (tokensFrom part apart first s) = tokensFrom part (x.apart || apart) (x.first || first) s := by
  fun_induction tokensFrom part apart first s with
  | case1 => rw [tokensFrom_nil]; rfl
  | case2 _ first c cs hc ih => rw [ih, tokensFrom_blank hc, Bool.or_true, Bool.or_assoc]
  | case3 _ _ c cs hc hpart _ => rw [tokensFrom_word (Bool.eq_false_iff.2 hc) hpart]; rfl
  | case4 _ _ c cs hc hpart _ =>
    rw [tokensFrom_mark (Bool.eq_false_iff.2 hc) (Bool.eq_false_iff.2 hpart)]
    rfl

/-- Behind a closing brace the same is left of the text and of its tokens. -/
theorem behindClose_tokensFrom (depth : Nat) (apart first : Bool) (s : List Char) :
    behindClose depth (tokensFrom Text.isWord apart first s) =
      tokensFrom Text.isWord false false (afterClose depth s) := by
  fun_induction tokensFrom Text.isWord apart first s generalizing depth with
  | case1 => rw [afterClose, tokensFrom_nil, behindClose]
  | case2 _ _ c cs hc ih =>
    have hbrace : '\x7b' ∉ [c] ∧ '\x7d' ∉ [c] := by
      simp only [List.mem_singleton]
      constructor <;> (rintro rfl; revert hc; decide)
    rw [ih, ← List.singleton_append, afterClose_append depth hbrace]
  | case3 _ _ c cs _ hword ih =>
    have hall := List.all_eq_true.1 (all_cons_takeWhile hword cs)
    have hbrace : '\x7b' ∉ c :: cs.takeWhile Text.isWord ∧ '\x7d' ∉ c :: cs.takeWhile Text.isWord :=
      ⟨fun h => absurd (hall _ h) (by decide), fun h => absurd (hall _ h) (by decide)⟩
    have hopen : c :: cs.takeWhile Text.isWord ≠ ['\x7b'] := fun heq => hbrace.1 (by simp [heq])
    have hclose : c :: cs.takeWhile Text.isWord ≠ ['\x7d'] := fun heq => hbrace.2 (by simp [heq])
    rw [behindClose.eq_def]
    simp only [if_neg hopen, if_neg hclose]
    rw [ih, ← cons_takeWhile_append_dropWhile c cs, afterClose_append depth hbrace]
  | case4 _ _ c cs _ _ ih =>
    rw [behindClose.eq_def, afterClose.eq_def]
    simp only [List.cons.injEq, and_true]
    split
    · exact ih _
    · split
      · cases depth with
        | zero => rfl
        | succ depth => exact ih depth
      · exact ih depth

/-! ## Headers of nested declarations -/

/-- Reads a name and an opening brace. -/
def readOpened? (s : List Char) : Option (List Char) :=
  (readWord? Text.isWord Text.isWord s).bind fun p => Text.dropLead? ['\x7b'] (skipBlanks p.2)

theorem readOpened?_of_head {s : List Char} (h : ∀ c ∈ s.head?, Text.isWord c = false) : readOpened? s = none := by
  cases s with
  | nil => rfl
  | cons c cs => rw [readOpened?, readWord?, if_neg (by simp [h c rfl])]; rfl

theorem opened?_tokensFrom (apart first : Bool) (s : List Char) :
    opened? (tokensFrom Text.isWord apart first s) =
      (readOpened? (skipBlanks s)).map (tokensFrom Text.isWord false false) := by
  rw [readOpened?]
  have hstart := start_tokensFrom Text.isWord apart first s
  generalize tokensFrom Text.isWord apart first s = xs at hstart
  cases hstart with
  | nil hs =>
    rw [hs]
    rfl
  | @word _ cs _ _ hs hc =>
    rw [hs, opened?, if_pos (all_cons_takeWhile hc cs), readWord?, if_pos hc, Option.bind_some,
      dropMark?_tokensFrom (by decide)]
  | mark _ _ hs hc =>
    rw [hs, opened?, readWord?, if_neg (by simp [hc]), if_neg (by simp [hc])]
    rfl

theorem readNested?_eq (s : List Char) :
    readNested? s = (nestedKeyword? s).bind fun t => (skipSomeBlanks? t).bind readOpened? := by
  rw [readNested?]
  simp only [Option.bind_eq_bind]
  congr 1
  funext t
  cases t with
  | nil => rfl
  | cons c cs =>
    rw [skipSomeBlanks?]
    by_cases hc : Text.isBlank c = true
    · simp only [if_pos hc, Option.bind_some]
      rw [skipBlanks, readOpened?]
      cases cs.dropWhile Text.isBlank with
      | nil => rfl
      | cons a as =>
        rw [readWord?]
        by_cases ha : Text.isWord a = true
        · simp only [if_pos ha, Option.bind_some]
          split
          · next rest hrest => rw [skipBlanks, hrest]; rfl
          · next hnot => rw [skipBlanks, dropLead?_mark_eq_none hnot]
        · simp only [if_neg ha]
          rfl
    · simp only [if_neg hc]
      rfl

theorem readNested?_of_not_isWord {c : Char} (hc : Text.isWord c = false) (s : List Char) :
    readNested? (c :: s) = none :=
  readNested?_of_ne (by rintro rfl; revert hc; decide) (by rintro rfl; revert hc; decide) s

/-- The first word of a header is a keyword. -/
theorem nestedKeyword?_append {w s : List Char} (hw : w = "enum".toList ∨ w = "message".toList) :
    nestedKeyword? (w ++ s) = some s :=
  nestedKeyword?_eq_some_iff.2 (hw.imp (by rw [·]) (by rw [·]))

/-- A keyword that more of a word follows starts no header. -/
theorem readNested?_of_ne_keyword {w s : List Char} (hw : w.all Text.isWord = true)
    (hs : ∀ c ∈ s.head?, Text.isWord c = false) (hne : ¬(w = "enum".toList ∨ w = "message".toList)) :
    readNested? (w ++ s) = none := by
  cases hr : readNested? (w ++ s) with
  | none => rfl
  | some r =>
    obtain ⟨c, cs, -, -, hkeyword, hc, -⟩ := readNested?_eq_some_iff.1 hr
    have hends : ∀ d ∈ (c :: cs).head?, Text.isWord d = false := by
      rintro d ⟨⟩
      exact isWord_of_isBlank hc
    have hword := (takeWhile_append_of_ends hw hs).1
    refine absurd ?_ hne
    rcases nestedKeyword?_eq_some_iff.1 hkeyword with heq | heq
    · rw [heq, (takeWhile_append_of_ends (by simp; decide) hends).1] at hword
      exact .inl hword.symm
    · rw [heq, (takeWhile_append_of_ends (by simp; decide) hends).1] at hword
      exact .inr hword.symm

/-- A header is read from the text of tokens just as it is from them. -/
theorem insideNested?_tokensFrom {w s : List Char} (h : Leads Text.isWord w s) (apart first : Bool) :
    insideNested? (tokensFrom Text.isWord apart first (w ++ s)) =
      (readNested? (w ++ s)).map (tokensFrom Text.isWord false false) := by
  rw [tokensFrom_of_leads h, insideNested?]
  have hmark : ∀ c : Char, ¬([c] = "enum".toList ∨ [c] = "message".toList) := fun c h => by
    rcases h with h | h <;> simp at h
  cases h with
  | mark _ hc =>
    rw [if_neg (hmark _), List.singleton_append, readNested?_of_not_isWord hc]
    rfl
  | @word c w _ _ hword hends =>
    by_cases hkeyword : c :: w = "enum".toList ∨ c :: w = "message".toList
    · rw [if_pos hkeyword, readNested?_eq, nestedKeyword?_append hkeyword, Option.bind_some]
      exact tokensFrom_behindWord opened?_tokensFrom (fun _ => readOpened?_of_head) hends
    · rw [if_neg hkeyword, readNested?_of_ne_keyword hword hends hkeyword]
      rfl

/-! ## Dropping nested declarations -/

theorem dropNestedFrom_false_cons (c : Char) (s : List Char) :
    dropNestedFrom false (c :: s) = c :: dropNestedFrom (!Text.isWord c) s := by
  rw [dropNestedFrom]
  rfl

/-- Inside of a word no declaration starts. -/
theorem dropNestedFrom_false_append {w s : List Char} (hw : w.all Text.isWord = true)
    (hs : ∀ c ∈ s.head?, Text.isWord c = false) :
    dropNestedFrom false (w ++ s) = w ++ dropNestedFrom true s := by
  induction w with
  | nil =>
    cases s with
    | nil => rw [List.nil_append, dropNestedFrom, dropNestedFrom]; rfl
    | cons c cs =>
      have hnone := readNested?_of_not_isWord (hs c rfl) cs
      rw [List.nil_append, dropNestedFrom_cons hnone, dropNestedFrom_cons hnone, List.nil_append]
  | cons a as ih =>
    obtain ⟨ha, has⟩ := Bool.and_eq_true_iff.1 hw
    rw [List.cons_append, dropNestedFrom_false_cons, ha, Bool.not_true, ih has, List.cons_append]

theorem head?_dropNestedFrom {s : List Char} (hs : ∀ c ∈ s.head?, Text.isWord c = false) :
    ∀ c ∈ (dropNestedFrom true s).head?, Text.isWord c = false := by
  cases s with
  | nil => rw [dropNestedFrom]; exact hs
  | cons c cs =>
    rw [dropNestedFrom_cons (readNested?_of_not_isWord (hs c rfl) cs)]
    exact hs

/-- A token that starts no header is kept as it is. -/
theorem dropNestedFrom_of_leads {w s : List Char} (h : Leads Text.isWord w s) (hnone : readNested? (w ++ s) = none) :
    dropNestedFrom true (w ++ s) = w ++ dropNestedFrom true s ∧
      Leads Text.isWord w (dropNestedFrom true s) := by
  cases h with
  | word hblank hword hends =>
    obtain ⟨hc, hw⟩ := Bool.and_eq_true_iff.1 hword
    refine ⟨?_, .word hblank hword (head?_dropNestedFrom hends)⟩
    rw [List.cons_append] at hnone ⊢
    rw [dropNestedFrom_cons hnone, hc, Bool.not_true, dropNestedFrom_false_append hw hends, List.cons_append]
  | mark hblank hmark =>
    refine ⟨?_, .mark hblank hmark⟩
    rw [List.singleton_append] at hnone ⊢
    rw [dropNestedFrom_cons hnone, hmark, Bool.not_false, List.singleton_append]

/-- Dropping nested declarations drops their tokens. -/
theorem tokensFrom_dropNested (apart first : Bool) (s : List Char) :
    tokensFrom Text.isWord apart first (dropNested s) = withoutNested (tokensFrom Text.isWord apart first s) := by
  rw [dropNested]
  -- What is behind a declaration is much shorter than the text, so the induction is on the length.
  induction h : s.length using Nat.strongRecOn generalizing s apart first with
  | _ n ih =>
    subst h
    cases s with
    | nil => rw [dropNestedFrom, tokensFrom_nil, withoutNested]
    | cons c cs =>
      by_cases hblank : Text.isBlank c = true
      · have hnone := readNested?_of_not_isWord (isWord_of_isBlank hblank) cs
        rw [dropNestedFrom_cons hnone, isWord_of_isBlank hblank, Bool.not_false, tokensFrom_blank hblank,
          tokensFrom_blank hblank, ih cs.length (by simp) _ _ cs rfl]
      · obtain ⟨w, r, rfl, hw⟩ := exists_leads Text.isWord (Bool.eq_false_iff.2 hblank) cs
        rw [← List.cons_append] at ih ⊢
        have hheader := insideNested?_tokensFrom hw apart first
        have htokens := tokensFrom_of_leads hw apart first
        cases hread : readNested? (c :: w ++ r) with
        | some body =>
          have hshorter : (afterClose 0 body).length < (c :: w ++ r).length :=
            Nat.lt_of_le_of_lt (length_afterClose 0 body) (length_readNested? hread)
          rw [hread, Option.map_some, htokens] at hheader
          rw [dropNestedFrom_of_readNested? hread, ih _ hshorter _ _ _ rfl, htokens,
            withoutNested_of_insideNested? hheader, behindClose_tokensFrom, movedTo_tokensFrom, Bool.or_false,
            Bool.or_false]
        | none =>
          obtain ⟨hdrop, hkept⟩ := dropNestedFrom_of_leads hw hread
          rw [hread, Option.map_none, htokens] at hheader
          rw [hdrop, tokensFrom_of_leads hkept, ih _ hw.length_lt _ _ _ rfl, htokens, withoutNested_cons hheader]

end LuaStubs.Proto
