import LuaStubs.Proofs.Proto.Maps
import LuaStubs.Proofs.Proto.NestedTokens

/-!
# The own tokens of a message

`withoutArguments` drops the type arguments of maps from tokens as `collapseMaps` drops them from text. Between
the two passes the meaning of a token changes: a field's type is read as a word that may have dots, so words and
dots that touch are put together (`joined`), also where the keyword of a map touches what was behind its
arguments (`tokensFrom_collapseMaps`). `ownTokens` are the tokens of a message body that are left when nested
declarations are gone as well.
-/

namespace LuaStubs.Proto

/-! ## Type arguments -/

/-- The tokens behind the type arguments of a map, from behind the keyword on. -/
def behindArguments? (xs : List Token) : Option (List Token) := (dropMark? '<' xs).bind (behind? '>')

theorem length_behindArguments? {xs ys : List Token} (h : behindArguments? xs = some ys) :
    ys.length < xs.length := by
  obtain ⟨zs, hzs, h⟩ := Option.bind_eq_some_iff.1 h
  exact Nat.lt_trans (length_behind? h) (length_dropMark? hzs)

/-- The tokens without the type arguments of maps. -/
def withoutArguments (xs : List Token) : List Token :=
  match xs with
  | [] => []
  | x :: xs =>
    match _h : if ['m', 'a', 'p'] <:+ x.text then behindArguments? xs else none with
    | some rest => x :: withoutArguments rest
    | none => x :: withoutArguments xs
termination_by xs.length
decreasing_by
  · split at _h
    · exact Nat.lt_succ_of_lt (length_behindArguments? _h)
    · cases _h
  · simp

theorem withoutArguments_map {x : Token} (hx : ['m', 'a', 'p'] <:+ x.text) (xs : List Token) :
    withoutArguments (x :: xs) = x :: withoutArguments ((behindArguments? xs).getD xs) := by
  rw [withoutArguments]
  split
  · next rest h => rw [if_pos hx] at h; rw [h, Option.getD_some]
  · next h => rw [if_pos hx] at h; rw [h, Option.getD_none]

theorem withoutArguments_cons {x : Token} (hx : ¬['m', 'a', 'p'] <:+ x.text) (xs : List Token) :
    withoutArguments (x :: xs) = x :: withoutArguments xs := by
  rw [withoutArguments]
  split
  · next rest h => rw [if_neg hx] at h; cases h
  · rfl

/-- Behind type arguments the same is left of the text and of its tokens. -/
theorem behindArguments?_tokensFrom (apart first : Bool) (s : List Char) :
    behindArguments? (tokensFrom Text.isWord apart first s) =
      (afterArguments? s).map (tokensFrom Text.isWord false false) := by
  rw [behindArguments?, dropMark?_tokensFrom (by decide), afterArguments?, skipBlanks]
  split
  · next cs hcs =>
    have hopen : Text.dropLead? ['<'] ('<' :: cs) = some cs := rfl
    rw [hcs, hopen, Option.map_some, Option.bind_some, behind?_tokensFrom (by decide) (by decide)]
    split
    · next rest hrest => rw [hrest]; rfl
    · next hnot => rw [dropWhile_ne_eq_nil hnot]; rfl
  · next hnot => rw [dropLead?_mark_eq_none hnot]; rfl

theorem afterArguments?_of_isWord {c : Char} (hc : Text.isWord c = true) (s : List Char) :
    afterArguments? (c :: s) = none := by
  rw [afterArguments?, List.dropWhile_cons_of_neg (by simp [isBlank_of_isWord hc])]
  split
  · next heq =>
    cases heq
    exact absurd hc (by decide)
  · rfl

/-- A longer word goes on behind the letters of the keyword. -/
theorem afterArguments?_of_word {w s u : List Char} (hw : w.all Text.isWord = true)
    (hs : ∀ c ∈ s.head?, Text.isWord c = false) (hne : w ≠ ['a', 'p']) (hu : w ++ s = 'a' :: 'p' :: u) :
    afterArguments? u = none := by
  match w with
  | [] =>
    rw [List.nil_append] at hu
    exact absurd (hs 'a' (by rw [hu]; rfl)) (by decide)
  | [_] =>
    obtain ⟨-, rfl⟩ := List.cons.inj hu
    exact absurd (hs 'p' rfl) (by decide)
  | [_, _] =>
    simp only [List.cons_append, List.cons.injEq] at hu
    exact absurd (by rw [hu.1, hu.2.1]) hne
  | _ :: _ :: d :: ds =>
    simp only [List.cons_append, List.cons.injEq] at hu
    simp only [List.all_cons, Bool.and_eq_true] at hw
    rw [← hu.2.2]
    exact afterArguments?_of_isWord hw.2.2.1 _

/-- In a word only the end can be the keyword of a map with type arguments. -/
theorem collapseMaps_append {w s : List Char} (hw : w.all Text.isWord = true)
    (hs : ∀ c ∈ s.head?, Text.isWord c = false) :
    collapseMaps (w ++ s) = w ++ collapseMaps (if ['m', 'a', 'p'] <:+ w then (afterArguments? s).getD s else s) := by
  induction w with
  | nil => rw [if_neg (by simp)]; rfl
  | cons c w ih =>
    have hall : w.all Text.isWord = true := (Bool.and_eq_true_iff.1 hw).2
    by_cases hmap : c :: w = ['m', 'a', 'p']
    · rw [hmap, if_pos (List.suffix_refl _)]
      simp only [List.cons_append, List.nil_append]
      rw [collapseMaps.eq_def]
      simp only
      split
      · next rest hrest => rw [hrest]; rfl
      · next hnone =>
        rw [hnone, collapseMaps_cons_of_ne (by decide), collapseMaps_cons_of_ne (by decide)]
        rfl
    · have hsuffix : ['m', 'a', 'p'] <:+ c :: w ↔ ['m', 'a', 'p'] <:+ w := by
        rw [List.suffix_cons_iff]
        exact or_iff_right (Ne.symm hmap)
      rw [List.cons_append, collapseMaps_cons, ih hall]
      · simp only [hsuffix, List.cons_append]
      · intro u hu
        obtain ⟨hc, hu⟩ := List.cons.inj hu
        exact afterArguments?_of_word hall hs (fun h => hmap (by rw [hc, h])) hu

/-- In a text that starts with a token, only the type arguments of a map that the token ends in are dropped,
and those in what is behind. -/
theorem collapseMaps_of_leads {w s : List Char} (h : Leads Text.isWord w s) : collapseMaps (w ++ s) =
    w ++ collapseMaps (if ['m', 'a', 'p'] <:+ w then (afterArguments? s).getD s else s) := by
  cases h with
  | word _ hword hends => exact collapseMaps_append hword hends
  | @mark c _ _ hmark =>
    have hmap : ¬['m', 'a', 'p'] <:+ [c] := fun h => by simpa using h.length_le
    rw [if_neg hmap, List.singleton_append, collapseMaps_cons_of_ne (by rintro rfl; revert hmark; decide),
      List.singleton_append]

/-! ## Words with dots -/

/-- Whether a token is a word or a dot, or several of them. -/
def Token.isDotted (x : Token) : Bool := x.text.all isTypePart

/-- Puts a token before others. It is one token with the next if both are words or dots and there is no
white space between them. -/
def Token.join (x : Token) : List Token → List Token
  | [] => [x]
  | y :: ys =>
    if x.isDotted ∧ y.isDotted ∧ y.apart = false then ⟨x.text ++ y.text, x.apart, x.first⟩ :: ys else x :: y :: ys

/-- The tokens with dotted words as one token each. -/
def joined (xs : List Token) : List Token := xs.foldr Token.join []

theorem joined_cons (x : Token) (xs : List Token) : joined (x :: xs) = x.join (joined xs) := rfl

theorem Token.join_of_head? {x : Token} {xs : List Token}
    (h : ∀ y ∈ xs.head?, ¬(x.isDotted ∧ y.isDotted ∧ y.apart = false)) : x.join xs = x :: xs := by
  cases xs with
  | nil => rfl
  | cons y ys => exact if_neg (h y rfl)

/-- A dotted word goes on with the text behind it. -/
theorem tokensFrom_dotted {c : Char} {cs : List Char} (hw : (c :: cs).all isTypePart = true) (apart first : Bool)
    (s : List Char) : tokensFrom isTypePart apart first (c :: (cs ++ s)) =
      Token.join ⟨c :: cs, apart, first⟩ (tokensFrom isTypePart false false s) := by
  obtain ⟨hc, hcs⟩ := Bool.and_eq_true_iff.1 hw
  have hword := List.all_eq_true.1 hcs
  rw [tokensFrom_word (isBlank_of_isTypePart hc) hc, List.takeWhile_append_of_pos hword,
    List.dropWhile_append_of_pos hword]
  cases s with
  | nil => rw [List.takeWhile_nil, List.dropWhile_nil, List.append_nil, tokensFrom_nil, Token.join]
  | cons d ds =>
    by_cases hd : isTypePart d = true
    · rw [List.takeWhile_cons_of_pos hd, List.dropWhile_cons_of_pos hd,
        tokensFrom_word (isBlank_of_isTypePart hd) hd, Token.join, if_pos ⟨hw, all_cons_takeWhile hd ds, rfl⟩]
      rfl
    · rw [List.takeWhile_cons_of_neg hd, List.dropWhile_cons_of_neg hd, List.append_nil]
      refine (Token.join_of_head? fun y hy hjoin => ?_).symm
      by_cases hblank : Text.isBlank d = true
      · rw [tokensFrom_blank hblank] at hy
        rw [apart_of_head? hy] at hjoin
        cases hjoin.2.2
      · rw [tokensFrom_mark (Bool.eq_false_iff.2 hblank) (Bool.eq_false_iff.2 hd)] at hy
        cases hy
        exact hd (Bool.and_eq_true_iff.1 hjoin.2.1).1

/-- A token is put before those of the text behind it. -/
theorem tokensFrom_append_of_leads {w s : List Char} (h : Leads Text.isWord w s) (apart first : Bool)
    (t : List Char) : tokensFrom isTypePart apart first (w ++ t) =
      Token.join ⟨w, apart, first⟩ (tokensFrom isTypePart false false t) := by
  cases h with
  | @word c w _ _ hword _ =>
    have hdotted : (c :: w).all isTypePart = true :=
      List.all_eq_true.2 fun d hd => by simp [isTypePart, List.all_eq_true.1 hword d hd]
    exact tokensFrom_dotted hdotted apart first t
  | @mark c _ hblank _ =>
    by_cases hdot : isTypePart c = true
    · have hdotted : ([c] : List Char).all isTypePart = true := by simp [hdot]
      exact tokensFrom_dotted hdotted apart first t
    · have halone : ¬Token.isDotted ⟨[c], apart, first⟩ := by simp [Token.isDotted, hdot]
      rw [List.singleton_append, tokensFrom_mark hblank (Bool.eq_false_iff.2 hdot)]
      exact (Token.join_of_head? fun _ _ hjoin => halone hjoin.1).symm

/-- Dropping the type arguments of maps drops their tokens. A name that the keyword is put right before
becomes one token with it. -/
theorem tokensFrom_collapseMaps (apart first : Bool) (s : List Char) :
    tokensFrom isTypePart apart first (collapseMaps s) =
      joined (withoutArguments (tokensFrom Text.isWord apart first s)) := by
  induction h : s.length using Nat.strongRecOn generalizing s apart first with
  | _ n ih =>
    subst h
    cases s with
    | nil => rw [collapseMaps, tokensFrom_nil, tokensFrom_nil, withoutArguments]; rfl
    | cons c cs =>
      by_cases hblank : Text.isBlank c = true
      · have hne : c ≠ 'm' := by rintro rfl; revert hblank; decide
        rw [collapseMaps_cons_of_ne hne, tokensFrom_blank hblank, tokensFrom_blank hblank,
          ih cs.length (by simp) _ _ cs rfl]
      · obtain ⟨w, r, rfl, hw⟩ := exists_leads Text.isWord (Bool.eq_false_iff.2 hblank) cs
        rw [← List.cons_append] at ih ⊢
        have hnext : ∀ t : List Char, t.length ≤ r.length →
            tokensFrom isTypePart apart first (c :: w ++ collapseMaps t) =
              joined (⟨c :: w, apart, first⟩ :: withoutArguments (tokensFrom Text.isWord false false t)) := fun t ht => by
          rw [tokensFrom_append_of_leads hw, joined_cons, ih _ (Nat.lt_of_le_of_lt ht hw.length_lt) _ _ t rfl]
        rw [collapseMaps_of_leads hw, tokensFrom_of_leads hw]
        by_cases hmap : ['m', 'a', 'p'] <:+ c :: w
        · rw [if_pos hmap, withoutArguments_map hmap, behindArguments?_tokensFrom, Option.getD_map, hnext]
          cases harguments : afterArguments? r with
          | none => exact Nat.le_refl _
          | some rest => exact Nat.le_of_lt (length_afterArguments? harguments)
        · rw [if_neg hmap, withoutArguments_cons hmap, hnext r (Nat.le_refl _)]

/-! ## Both passes -/

/-- The tokens of a message body. -/
def tokens (body : List Char) : List Token := tokensFrom Text.isWord true true body

/-- The tokens that declare the fields of a message itself, with the one word `map` for the type of a
map. -/
def ownTokens (body : List Char) : List Token := withoutArguments (withoutNested (tokens body))

theorem tokensFrom_own (body : List Char) :
    tokensFrom isTypePart true true (collapseMaps (dropNested body)) = joined (ownTokens body) := by
  rw [tokensFrom_collapseMaps, tokensFrom_dropNested, ownTokens, tokens]

end LuaStubs.Proto
