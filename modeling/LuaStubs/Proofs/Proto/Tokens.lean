import LuaStubs.Proofs.Proto.Lines
import LuaStubs.Proto.Block
import LuaStubs.Proto.Field

/-!
# Tokens of protocol text

`tokensFrom` cuts a text into words and single marks and keeps of the white space between them
only whether there is any (`Token.apart`) and whether it has a line break (`Token.first`). What a
word is made of is a parameter: word characters, or dots as well. Reading from behind a token on
gives the tokens behind it (`behind?_tokensFrom`).
-/

namespace LuaStubs.Proto

/-! ## Word characters -/

theorem inRanges_of_all_any {a b : List (Nat × Nat)}
    (h : (a.all fun r => b.any fun q => decide (q.1 ≤ r.1) && decide (r.2 ≤ q.2)) = true) {n : Nat}
    (hn : Text.inRanges a n = true) : Text.inRanges b n = true := by
  simp only [Text.inRanges, List.any_eq_true, List.all_eq_true, Bool.and_eq_true, decide_eq_true_eq] at h hn ⊢
  obtain ⟨r, hr, hlow, hhigh⟩ := hn
  obtain ⟨q, hq, hqr, hrq⟩ := h r hr
  exact ⟨q, hq, by omega, by omega⟩

theorem inRanges_eq_false_of_all {a b : List (Nat × Nat)}
    (h : (a.all fun r => b.all fun q => decide (r.2 < q.1) || decide (q.2 < r.1)) = true) {n : Nat}
    (hn : Text.inRanges a n = true) : Text.inRanges b n = false := by
  simp only [Text.inRanges, List.any_eq_true, List.all_eq_true, Bool.and_eq_true, Bool.or_eq_true,
    decide_eq_true_eq] at h hn
  obtain ⟨r, hr, hlow, hhigh⟩ := hn
  refine Bool.eq_false_iff.2 fun hb => ?_
  simp only [Text.inRanges, List.any_eq_true, Bool.and_eq_true, decide_eq_true_eq] at hb
  obtain ⟨q, hq, hqlow, hqhigh⟩ := hb
  have := h r hr q hq
  omega

/-- White space is no part of a word. -/
theorem isWord_of_isBlank {c : Char} (h : Text.isBlank c = true) : Text.isWord c = false := by
  by_cases hascii : c.toNat < 128
  · have hnot : isAsciiWord c = false := Bool.eq_false_iff.2 fun hword => by
      rw [not_isBlank_of_isAsciiWord hword] at h
      cases h
    rw [Text.isWord, if_pos hascii]
    exact hnot
  · rw [Text.isWord, if_neg hascii]
    exact inRanges_eq_false_of_all (a := Text.blankRanges) (by decide +kernel) h

theorem isBlank_of_isWord {c : Char} (h : Text.isWord c = true) : Text.isBlank c = false :=
  Bool.eq_false_iff.2 fun hblank => by
    rw [isWord_of_isBlank hblank] at h
    cases h

theorem isWord_of_isDecimal {c : Char} (h : Text.isDecimal c = true) : Text.isWord c = true := by
  by_cases hascii : c.toNat < 128
  · rw [Text.isDecimal, if_pos hascii] at h
    exact isWord_of_isAsciiWord (isAsciiWord_of_isDigit h)
  · rw [Text.isDecimal, if_neg hascii] at h
    rw [Text.isWord, if_neg hascii]
    exact inRanges_of_all_any (a := Text.digitRanges) (by decide +kernel) h

theorem isTypePart_of_isBlank {c : Char} (h : Text.isBlank c = true) : isTypePart c = false := by
  have hdot : (c == '.') = false := beq_false_of_ne (by rintro rfl; revert h; decide)
  rw [isTypePart, isWord_of_isBlank h, hdot]
  rfl

theorem isBlank_of_isTypePart {c : Char} (h : isTypePart c = true) : Text.isBlank c = false :=
  Bool.eq_false_iff.2 fun hblank => by
    rw [isTypePart_of_isBlank hblank] at h
    cases h

/-! ## Words -/

section

variable {p : Char → Bool} {c : Char}

/-- A word is as long as it can be. -/
theorem of_mem_head?_dropWhile {s : List Char} (h : c ∈ (s.dropWhile p).head?) : p c = false := by
  have hends := List.head?_dropWhile_not p s
  rw [h] at hends
  exact hends

/-- A word is read off the text that it starts if it goes on no further. -/
theorem takeWhile_append_of_ends {w s : List Char} (hw : w.all p = true) (hs : ∀ c ∈ s.head?, p c = false) :
    (w ++ s).takeWhile p = w ∧ (w ++ s).dropWhile p = s := by
  have hall := List.all_eq_true.1 hw
  rw [List.takeWhile_append_of_pos hall, List.dropWhile_append_of_pos hall]
  cases s with
  | nil => exact ⟨List.append_nil w, rfl⟩
  | cons c cs =>
    have hc : ¬p c = true := by simp [hs c rfl]
    rw [List.takeWhile_cons_of_neg hc, List.dropWhile_cons_of_neg hc, List.append_nil]
    exact ⟨rfl, rfl⟩

/-- A word before a brace is read off, and so is the white space between them. -/
theorem takeWhile_word_brace {word gap : List Char} (hp : ∀ c, p c = true → Text.isWord c = false)
    (hbrace : p '\x7b' = false) (hword : word.all Text.isWord = true) (hgap : gap.all p = true) (s : List Char) :
    (word ++ (gap ++ '\x7b' :: s)).takeWhile Text.isWord = word ∧
      ((word ++ (gap ++ '\x7b' :: s)).dropWhile Text.isWord).dropWhile p = '\x7b' :: s := by
  have hend : ∀ c ∈ (gap ++ '\x7b' :: s).head?, Text.isWord c = false := by
    cases gap with
    | nil => rintro c ⟨⟩; decide
    | cons g gs =>
      rintro c ⟨⟩
      exact hp g (List.all_eq_true.1 hgap g (List.mem_cons_self ..))
  have hstart : ∀ c ∈ ('\x7b' :: s).head?, p c = false := by
    rintro c ⟨⟩
    exact hbrace
  obtain ⟨hname, hbehind⟩ := takeWhile_append_of_ends hword hend
  rw [hbehind]
  exact ⟨hname, (takeWhile_append_of_ends hgap hstart).2⟩

theorem all_cons_takeWhile (hc : p c = true) (cs : List Char) : (c :: cs.takeWhile p).all p = true := by
  rw [List.all_cons, hc, List.all_takeWhile, Bool.true_and]

theorem cons_takeWhile_append_dropWhile (c : Char) (cs : List Char) :
    (c :: cs.takeWhile p) ++ cs.dropWhile p = c :: cs := by
  rw [List.cons_append, List.takeWhile_append_dropWhile]

end

/-! ## Tokens -/

/-- A word or a mark of a text, and how it stands there. -/
structure Token where
  text : List Char
  /-- White space stands before it. -/
  apart : Bool
  /-- No other token stands before it on its line. -/
  first : Bool
  deriving DecidableEq, Repr

/-- The tokens of a text. A word is as many characters with `part` as there are, and every other
character that is no white space is a mark. `apart` and `first` are for a token that the text
starts with. -/
def tokensFrom (part : Char → Bool) (apart first : Bool) (s : List Char) : List Token :=
  match s with
  | [] => []
  | c :: cs =>
    if Text.isBlank c then tokensFrom part true (first || c == '\n') cs
    else if part c then ⟨c :: cs.takeWhile part, apart, first⟩ :: tokensFrom part false false (cs.dropWhile part)
    else ⟨[c], apart, first⟩ :: tokensFrom part false false cs
termination_by s.length
decreasing_by
  · simp
  · exact Nat.lt_succ_of_le (List.dropWhile_suffix _).length_le
  · simp

section

variable {part : Char → Bool} {c : Char} {s : List Char}

theorem tokensFrom_nil (apart first : Bool) : tokensFrom part apart first [] = [] := by
  rw [tokensFrom]

theorem tokensFrom_blank (hc : Text.isBlank c = true) (apart first : Bool) :
    tokensFrom part apart first (c :: s) = tokensFrom part true (first || c == '\n') s := by
  rw [tokensFrom, if_pos hc]

theorem tokensFrom_word (hc : Text.isBlank c = false) (hpart : part c = true) (apart first : Bool) :
    tokensFrom part apart first (c :: s) =
      ⟨c :: s.takeWhile part, apart, first⟩ :: tokensFrom part false false (s.dropWhile part) := by
  rw [tokensFrom, if_neg (by simp [hc]), if_pos hpart]

theorem tokensFrom_mark (hc : Text.isBlank c = false) (hpart : part c = false) (apart first : Bool) :
    tokensFrom part apart first (c :: s) = ⟨[c], apart, first⟩ :: tokensFrom part false false s := by
  rw [tokensFrom, if_neg (by simp [hc]), if_neg (by simp [hpart])]

/-- The text `w` is a token at the start of `w ++ s`: a whole word or a mark. -/
inductive Leads (part : Char → Bool) : (w s : List Char) → Prop where
  | word {c : Char} {w s : List Char} (hblank : Text.isBlank c = false) (hword : (c :: w).all part = true)
    (hends : ∀ d ∈ s.head?, part d = false) : Leads part (c :: w) s
  | mark {c : Char} {s : List Char} (hblank : Text.isBlank c = false) (hmark : part c = false) : Leads part [c] s

/-- A text that starts with no white space starts with a token. -/
theorem exists_leads (part : Char → Bool) (hc : Text.isBlank c = false) (s : List Char) :
    ∃ w r, s = w ++ r ∧ Leads part (c :: w) r := by
  by_cases hpart : part c = true
  · exact ⟨s.takeWhile part, s.dropWhile part, List.takeWhile_append_dropWhile.symm,
      .word hc (all_cons_takeWhile hpart s) fun _ => of_mem_head?_dropWhile⟩
  · exact ⟨[], s, rfl, .mark hc (Bool.eq_false_iff.2 hpart)⟩

theorem Leads.length_lt {w : List Char} (h : Leads part w s) : s.length < (w ++ s).length := by
  rw [List.length_append]
  cases h with
  | word => rw [List.length_cons]; omega
  | mark => rw [List.length_cons]; omega

theorem tokensFrom_of_leads {w : List Char} (h : Leads part w s) (apart first : Bool) :
    tokensFrom part apart first (w ++ s) = ⟨w, apart, first⟩ :: tokensFrom part false false s := by
  cases h with
  | @word c w s hblank hword hends =>
    obtain ⟨hc, hw⟩ := Bool.and_eq_true_iff.1 hword
    obtain ⟨htake, hdrop⟩ := takeWhile_append_of_ends hw hends
    rw [List.cons_append, tokensFrom_word hblank hc, htake, hdrop]
  | mark hblank hmark => exact tokensFrom_mark hblank hmark apart first

/-- How the tokens of a text start. -/
inductive Start (part : Char → Bool) (s : List Char) : List Token → Prop where
  /-- There is nothing but white space. -/
  | nil (hs : skipBlanks s = []) : Start part s []
  | word {c : Char} {cs : List Char} (apart first : Bool) (hs : skipBlanks s = c :: cs) (hc : part c = true) :
    Start part s (⟨c :: cs.takeWhile part, apart, first⟩ :: tokensFrom part false false (cs.dropWhile part))
  | mark {c : Char} {cs : List Char} (apart first : Bool) (hs : skipBlanks s = c :: cs) (hc : part c = false) :
    Start part s (⟨[c], apart, first⟩ :: tokensFrom part false false cs)

theorem start_tokensFrom (part : Char → Bool) (apart first : Bool) (s : List Char) :
    Start part s (tokensFrom part apart first s) := by
  fun_induction tokensFrom part apart first s with
  | case1 => exact .nil rfl
  | case2 _ first c cs hc ih =>
    have hskip : skipBlanks (c :: cs) = skipBlanks cs := List.dropWhile_cons_of_pos hc
    generalize tokensFrom part true (first || c == '\n') cs = xs at ih
    cases ih with
    | nil hs => exact .nil (hskip.trans hs)
    | word _ _ hs hpart => exact .word _ _ (hskip.trans hs) hpart
    | mark _ _ hs hpart => exact .mark _ _ (hskip.trans hs) hpart
  | case3 _ _ c cs hc hpart _ => exact .word _ _ (List.dropWhile_cons_of_neg hc) hpart
  | case4 _ _ c cs hc hpart _ => exact .mark _ _ (List.dropWhile_cons_of_neg hc) (Bool.eq_false_iff.2 hpart)

/-- Behind white space there is white space before the first token. -/
theorem apart_of_head? {first : Bool} {x : Token} (h : (tokensFrom part true first s).head? = some x) :
    x.apart = true := by
  induction s generalizing first with
  | nil =>
    rw [tokensFrom_nil] at h
    cases h
  | cons c cs ih =>
    rw [tokensFrom] at h
    split at h
    · exact ih h
    · split at h
      · cases h
        rfl
      · cases h
        rfl

/-- Behind a word, a reader that starts with a word needs white space before it. -/
theorem tokensFrom_behindWord {α β : Type} {read : List Token → Option α} {readChars : List Char → Option β}
    {f : β → α}
    (hread : ∀ apart first s, read (tokensFrom part apart first s) = (readChars (skipBlanks s)).map f)
    (hnone : ∀ s, (∀ c ∈ s.head?, part c = false) → readChars s = none)
    (hs : ∀ c ∈ s.head?, part c = false) :
    read (tokensFrom part false false s) = ((skipSomeBlanks? s).bind readChars).map f := by
  rw [hread]
  cases s with
  | nil => rw [show skipBlanks [] = [] from rfl, hnone [] hs]; rfl
  | cons d ds =>
    rw [skipSomeBlanks?]
    by_cases hgap : Text.isBlank d = true
    · have hskip : skipBlanks (d :: ds) = skipBlanks ds := List.dropWhile_cons_of_pos hgap
      rw [if_pos hgap, hskip, Option.bind_some]
    · have hskip : skipBlanks (d :: ds) = d :: ds := List.dropWhile_cons_of_neg hgap
      rw [if_neg hgap, hskip, hnone _ hs]
      rfl

end

/-! ## Marks -/

theorem dropLead?_mark_eq_none {mark : Char} {s : List Char} (h : ∀ rest, s ≠ mark :: rest) :
    Text.dropLead? [mark] s = none :=
  Option.eq_none_iff_forall_ne_some.2 fun rest hrest => h rest (Text.dropLead?_eq_some_iff.1 hrest)

/-- What goes on up to a mark goes on to the end if there is none. -/
theorem dropWhile_ne_eq_nil {mark : Char} {s : List Char} (h : ∀ rest, s.dropWhile (· != mark) ≠ mark :: rest) :
    s.dropWhile (· != mark) = [] := by
  cases hs : s.dropWhile (· != mark) with
  | nil => rfl
  | cons c rest =>
    have hends : (c != mark) = false := of_mem_head?_dropWhile (p := (· != mark)) (s := s) (by rw [hs]; rfl)
    have hc : c = mark := by simpa using hends
    exact absurd (hc ▸ hs) (h rest)

/-- The tokens behind a mark that comes first. -/
def dropMark? (mark : Char) : List Token → Option (List Token)
  | [] => none
  | x :: xs => if x.text = [mark] then some xs else none

/-- The tokens behind the first mark of a kind. -/
def behind? (mark : Char) : List Token → Option (List Token)
  | [] => none
  | x :: xs => if x.text = [mark] then some xs else behind? mark xs

theorem length_dropMark? {mark : Char} {xs ys : List Token} (h : dropMark? mark xs = some ys) :
    ys.length < xs.length := by
  cases xs with
  | nil => cases h
  | cons x xs =>
    rw [dropMark?] at h
    split at h
    · cases h
      exact Nat.lt_succ_self _
    · cases h

theorem length_behind? {mark : Char} {xs ys : List Token} (h : behind? mark xs = some ys) :
    ys.length < xs.length := by
  induction xs with
  | nil => cases h
  | cons x xs ih =>
    rw [behind?] at h
    split at h
    · cases h
      exact Nat.lt_succ_self _
    · exact Nat.lt_succ_of_lt (ih h)

section

variable {part : Char → Bool} {mark : Char} (hblank : Text.isBlank mark = false) (hmark : part mark = false)

include hmark in
theorem word_ne_mark {c : Char} (hc : part c = true) (w : List Char) : c :: w ≠ [mark] := by
  rintro heq
  obtain ⟨rfl, -⟩ := List.cons.inj heq
  rw [hc] at hmark
  cases hmark

include hmark in
/-- A mark is the first token just if the text behind white space starts with it. -/
theorem dropMark?_tokensFrom (apart first : Bool) (s : List Char) :
    dropMark? mark (tokensFrom part apart first s) =
      (Text.dropLead? [mark] (skipBlanks s)).map (tokensFrom part false false) := by
  have hstart := start_tokensFrom part apart first s
  generalize tokensFrom part apart first s = xs at hstart
  cases hstart with
  | nil hs =>
    rw [hs]
    rfl
  | word _ _ hs hc =>
    have hne := fun h => word_ne_mark hmark hc [] (congrArg (fun d => [d]) h).symm
    rw [hs, dropMark?, if_neg (word_ne_mark hmark hc _), Text.dropLead?, if_neg hne]
    rfl
  | @mark c _ _ _ hs _ =>
    rw [hs, dropMark?, Text.dropLead?, Text.dropLead?]
    by_cases hc : c = mark
    · rw [if_pos (by rw [hc]), if_pos hc.symm]
      rfl
    · rw [if_neg fun h => hc (List.cons.inj h).1, if_neg (Ne.symm hc)]
      rfl

include hblank hmark in
/-- The tokens behind a mark are those of the text behind it. -/
theorem behind?_tokensFrom (apart first : Bool) (s : List Char) :
    behind? mark (tokensFrom part apart first s) =
      (s.dropWhile (· != mark)).tail?.map (tokensFrom part false false) := by
  fun_induction tokensFrom part apart first s with
  | case1 => rfl
  | case2 _ _ c cs hc ih =>
    have hne : (c != mark) = true := bne_iff_ne.2 (by rintro rfl; rw [hc] at hblank; cases hblank)
    rw [ih, List.dropWhile_cons_of_pos (p := (· != mark)) hne]
  | case3 _ _ c cs _ hc ih =>
    have hpart := List.all_eq_true.1 (all_cons_takeWhile hc cs)
    have hword : ∀ d ∈ c :: cs.takeWhile part, (d != mark) = true := fun d hd =>
      bne_iff_ne.2 fun h => word_ne_mark hmark (hpart d hd) [] (by rw [h])
    rw [behind?, if_neg (word_ne_mark hmark hc _), ih, ← cons_takeWhile_append_dropWhile c cs,
      List.dropWhile_append_of_pos hword]
  | case4 _ _ c cs _ _ ih =>
    by_cases hc : c = mark
    · subst hc
      rw [behind?, if_pos rfl, List.dropWhile_cons_of_neg (by simp)]
      rfl
    · have hne : ([c] : List Char) ≠ [mark] := fun heq => hc (List.cons.inj heq).1
      rw [behind?, if_neg hne, ih, List.dropWhile_cons_of_pos (p := (· != mark)) (bne_iff_ne.2 hc)]

end

end LuaStubs.Proto
