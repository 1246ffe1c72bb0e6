import LuaStubs.Proofs.Proto.Rows

/-!
# Dropping nested declarations

The inside of a nested declaration has as many closing braces as opening ones,
whatever it declares, so that it is passed over as a whole
(`Nested.afterClose_linesOf`). No line of a field or a group reads as the start
of a nested declaration (`Kept`). What is left of a message are its rows
(`dropNested_members`).
-/

namespace LuaStubs.Proto

/-! ## The inside of a nested declaration -/

theorem afterClose_append {s t : List Char} (depth : Nat) (h : '\x7b' ∉ s ∧ '\x7d' ∉ s) :
    afterClose depth (s ++ t) = afterClose depth t := by
  induction s with
  | nil => rfl
  | cons c cs ih =>
    simp only [List.mem_cons, not_or] at h
    rw [List.cons_append, afterClose.eq_def]
    simp only [if_neg (Ne.symm h.1.1), if_neg (Ne.symm h.2.1), ih ⟨h.1.2, h.2.2⟩]

theorem Indent.no_brace (i : Indent) : '\x7b' ∉ i.chars ∧ '\x7d' ∉ i.chars :=
  ⟨fun h => absurd (i.eq_blank_or_tab h) (by decide), fun h => absurd (i.eq_blank_or_tab h) (by decide)⟩

theorem Statement.no_brace (x : Statement) : '\x7b' ∉ x.text ∧ '\x7d' ∉ x.text :=
  ⟨fun h => absurd (List.all_eq_true.1 x.plain _ h) (by decide),
    fun h => absurd (List.all_eq_true.1 x.plain _ h) (by decide)⟩

/-- What stands before the text of a line opens and closes nothing. -/
theorem afterClose_indent (depth : Nat) (i : Indent) (t : List Char) :
    afterClose depth ('\n' :: (i.chars ++ t)) = afterClose depth t := by
  rw [← List.cons_append]
  refine afterClose_append depth ?_
  have := i.no_brace
  simpa using this

mutual

/-- The lines of a statement or a block are passed over at any depth. -/
theorem Nested.afterClose_lines (x : Nested) {s : List Char} (hs : Written x.lines s) (depth : Nat)
    (t : List Char) : afterClose depth (s ++ t) = afterClose depth t := by
  cases x with
  | statement x =>
    rw [Nested.lines] at hs
    obtain ⟨i, r, rfl, hr⟩ := hs.exists_of_cons
    cases hr
    simp only [List.append_nil, List.cons_append, List.append_assoc]
    rw [afterClose_indent, afterClose_append depth x.no_brace]
  | block head body =>
    rw [Nested.lines] at hs
    obtain ⟨i, r, rfl, hr⟩ := hs.exists_of_cons
    obtain ⟨b, u, rfl, hb, hu⟩ := hr.exists_of_append
    obtain ⟨j, v, rfl, hv⟩ := hu.exists_of_cons
    cases hv
    calc afterClose depth (('\n' :: (i.chars ++ (head.text ++ [' ', '\x7b'] ++
            (b ++ '\n' :: (j.chars ++ (['\x7d'] ++ [])))))) ++ t)
      _ = afterClose depth ('\n' :: (i.chars ++ (head.text ++
            ' ' :: '\x7b' :: (b ++ '\n' :: (j.chars ++ '\x7d' :: t))))) := by simp
      _ = afterClose depth (' ' :: '\x7b' :: (b ++ '\n' :: (j.chars ++ '\x7d' :: t))) := by
        rw [afterClose_indent, afterClose_append depth head.no_brace]
      -- The brace opens the next depth, at which the inside is passed over.
      _ = afterClose (depth + 1) (b ++ '\n' :: (j.chars ++ '\x7d' :: t)) := rfl
      _ = afterClose (depth + 1) ('\x7d' :: t) := by
        rw [Nested.afterClose_linesOf body hb, afterClose_indent]
      _ = afterClose depth t := rfl

theorem Nested.afterClose_linesOf (xs : List Nested) {s : List Char} (hs : Written (Nested.linesOf xs) s)
    (depth : Nat) (t : List Char) : afterClose depth (s ++ t) = afterClose depth t := by
  cases xs with
  | nil => cases hs; rfl
  | cons x xs =>
    rw [Nested.linesOf] at hs
    obtain ⟨u, v, rfl, hu, hv⟩ := hs.exists_of_append
    rw [List.append_assoc, x.afterClose_lines hu, Nested.afterClose_linesOf xs hv]

end

/-! ## Headers of nested declarations -/

theorem nestedKeyword?_of_ne {c : Char} (he : c ≠ 'e') (hm : c ≠ 'm') (s : List Char) :
    nestedKeyword? (c :: s) = none := by
  simp [nestedKeyword?, Text.dropLead?, Ne.symm he, Ne.symm hm]

theorem readNested?_of_ne {c : Char} (he : c ≠ 'e') (hm : c ≠ 'm') (s : List Char) :
    readNested? (c :: s) = none := by
  rw [readNested?, nestedKeyword?_of_ne he hm]
  rfl

/-- The parts of a header, each behind the one before. -/
theorem readNested?_eq_some_iff {s r : List Char} : readNested? s = some r ↔
    ∃ c cs a as, nestedKeyword? s = some (c :: cs) ∧ Text.isBlank c = true ∧
      cs.dropWhile Text.isBlank = a :: as ∧ Text.isWord a = true ∧
      (as.dropWhile Text.isWord).dropWhile Text.isBlank = '\x7b' :: r := by
  constructor
  · intro h
    simp only [readNested?, Option.bind_eq_bind, Option.bind_eq_some_iff] at h
    obtain ⟨t, ht, h⟩ := h
    grind
  · rintro ⟨c, cs, a, as, hkeyword, hc, hcs, ha, has⟩
    simp [readNested?, hkeyword, hc, hcs, ha, has]

theorem nestedKeyword?_eq_some_iff {s r : List Char} :
    nestedKeyword? s = some r ↔ s = "enum".toList ++ r ∨ s = "message".toList ++ r := by
  unfold nestedKeyword?
  split
  · next t ht =>
    rw [Text.dropLead?_eq_some_iff] at ht
    subst ht
    constructor
    · rintro ⟨⟩
      exact .inl rfl
    · rintro (h | h)
      · rw [List.append_cancel_left h]
      · simp at h
  · next hnone =>
    rw [Text.dropLead?_eq_some_iff]
    refine ⟨.inr, fun h => h.resolve_left fun henum => ?_⟩
    rw [Text.dropLead?_eq_some_iff.2 henum] at hnone
    cases hnone

/-- A keyword is part of a word. -/
theorem exists_of_nestedKeyword? {s r : List Char} (h : nestedKeyword? s = some r) :
    ∃ k, s = k ++ r ∧ k.all isAsciiWord = true := by
  rcases nestedKeyword?_eq_some_iff.1 h with heq | heq
  · exact ⟨_, heq, by simp; decide⟩
  · exact ⟨_, heq, by simp; decide⟩

/-- The header of a nested declaration: the keyword, white space, a word, perhaps more white space, and the
brace. -/
def IsNestedHeader (header : List Char) : Prop :=
  ∃ keyword c gap a word gap', (keyword = "enum".toList ∨ keyword = "message".toList) ∧
    header = keyword ++ c :: (gap ++ a :: (word ++ (gap' ++ ['\x7b']))) ∧
    Text.isBlank c = true ∧ gap.all Text.isBlank = true ∧ Text.isWord a = true ∧ word.all Text.isWord = true ∧
    gap'.all Text.isBlank = true

/-- What is read is a header. -/
theorem exists_header_of_readNested? {s r : List Char} (h : readNested? s = some r) :
    ∃ header, IsNestedHeader header ∧ s = header ++ r := by
  obtain ⟨c, cs, a, as, hkeyword, hc, hcs, ha, has⟩ := readNested?_eq_some_iff.1 h
  obtain ⟨keyword, hmem, rfl⟩ :
      ∃ keyword, (keyword = "enum".toList ∨ keyword = "message".toList) ∧ s = keyword ++ c :: cs := by
    rcases nestedKeyword?_eq_some_iff.1 hkeyword with heq | heq
    · exact ⟨_, .inl rfl, heq⟩
    · exact ⟨_, .inr rfl, heq⟩
  refine ⟨_, ⟨keyword, c, cs.takeWhile Text.isBlank, a, as.takeWhile Text.isWord,
    (as.dropWhile Text.isWord).takeWhile Text.isBlank, hmem, rfl, hc, List.all_takeWhile, ha, List.all_takeWhile,
    List.all_takeWhile⟩, ?_⟩
  calc keyword ++ c :: cs
    _ = keyword ++ c :: (cs.takeWhile Text.isBlank ++ a :: as) := by
      rw [← hcs, List.takeWhile_append_dropWhile]
    _ = keyword ++ c :: (cs.takeWhile Text.isBlank ++ a :: (as.takeWhile Text.isWord ++
        ((as.dropWhile Text.isWord).takeWhile Text.isBlank ++ '\x7b' :: r))) := by
      rw [← has, List.takeWhile_append_dropWhile, List.takeWhile_append_dropWhile]
    _ = _ := by simp only [List.append_assoc, List.cons_append, List.nil_append]

theorem IsNestedHeader.exists_of_brace {header : List Char} (h : IsNestedHeader header) :
    ∃ p, header = p ++ ['\x7b'] ∧ ∀ c ∈ p, Text.isWord c = true ∨ Text.isBlank c = true := by
  obtain ⟨keyword, c, gap, a, word, gap', hkeyword, rfl, hc, hgap, ha, hword, hgap'⟩ := h
  refine ⟨keyword ++ c :: (gap ++ a :: (word ++ gap')), by simp, fun x hx => ?_⟩
  have hk : keyword.all Text.isWord = true := by
    rcases hkeyword with rfl | rfl <;> (simp; decide)
  simp only [List.mem_append, List.mem_cons] at hx
  rcases hx with hx | rfl | hx | rfl | hx | hx
  · exact .inl (List.all_eq_true.1 hk x hx)
  · exact .inr hc
  · exact .inr (List.all_eq_true.1 hgap x hx)
  · exact .inl ha
  · exact .inl (List.all_eq_true.1 hword x hx)
  · exact .inr (List.all_eq_true.1 hgap' x hx)

/-- Before the brace of a header stand only words and white space. -/
theorem exists_of_readNested? {s r : List Char} (h : readNested? s = some r) :
    ∃ p, s = p ++ '\x7b' :: r ∧ ∀ c ∈ p, Text.isWord c = true ∨ Text.isBlank c = true := by
  obtain ⟨header, hheader, rfl⟩ := exists_header_of_readNested? h
  obtain ⟨p, rfl, hp⟩ := hheader.exists_of_brace
  exact ⟨p, by simp, hp⟩

/-- No header starts where a mark comes before the next brace. -/
theorem readNested?_of_mem {s t : List Char} {c : Char} (hc : c ∈ s) (hword : Text.isWord c = false)
    (hblank : Text.isBlank c = false) (hs : '\x7b' ∉ s) : readNested? (s ++ t) = none := by
  cases hr : readNested? (s ++ t) with
  | none => rfl
  | some r =>
    obtain ⟨p, hp, hall⟩ := exists_of_readNested? hr
    have hmem : c ∈ p := by
      rcases List.append_eq_append_iff.1 hp with ⟨u, rfl, -⟩ | ⟨u, rfl, hu⟩
      · exact List.mem_append_left _ hc
      · cases u with
        | nil => simpa using hc
        | cons x xs => cases hu; simp at hs
    have := hall c hmem
    simp [hword, hblank] at this

/-- No header starts at the last word before a brace. -/
theorem readNested?_of_word {w : List Char} (hw : w.all isAsciiWord = true) (t : List Char) :
    readNested? (w ++ ' ' :: '\x7b' :: t) = none := by
  cases hr : readNested? (w ++ ' ' :: '\x7b' :: t) with
  | none => rfl
  | some r =>
    obtain ⟨c, cs, a, as, hkeyword, hc, hcs, ha, -⟩ := readNested?_eq_some_iff.1 hr
    obtain ⟨k, hkr, hk⟩ := exists_of_nestedKeyword? hkeyword
    -- Behind the whole word there is no further word.
    have hwhole : ' ' :: '\x7b' :: t ≠ c :: cs := by
      rintro ⟨⟩
      rw [List.dropWhile_cons_of_neg (by decide)] at hcs
      cases hcs
      exact absurd ha (by decide)
    rcases List.append_eq_append_iff.1 hkr with ⟨u, rfl, hu⟩ | ⟨u, rfl, hu⟩
    · cases u with
      | nil => exact absurd hu hwhole
      | cons x xs =>
        obtain ⟨rfl, -⟩ := List.cons.inj hu
        exact absurd (List.all_eq_true.1 hk ' ' (by simp)) (by decide)
    · cases u with
      | nil => exact absurd hu.symm hwhole
      | cons x xs =>
        cases hu
        have := not_isBlank_of_isAsciiWord (List.all_eq_true.1 hw c (by simp))
        rw [hc] at this
        cases this

/-! ## Lines that are kept -/

/-- A text that stays as it is in front of another one. -/
def Kept (s t : List Char) : Prop :=
  ∀ fresh, ∃ fresh', dropNestedFrom fresh (s ++ t) = s ++ dropNestedFrom fresh' t

theorem dropNestedFrom_cons {c : Char} {s : List Char} (h : readNested? (c :: s) = none) (fresh : Bool) :
    dropNestedFrom fresh (c :: s) = c :: dropNestedFrom (!Text.isWord c) s := by
  rw [dropNestedFrom]
  split
  · next body hbody =>
    split at hbody
    · rw [h] at hbody; cases hbody
    · cases hbody
  · rfl

theorem dropNestedFrom_of_readNested? {s body : List Char} (h : readNested? s = some body) :
    dropNestedFrom true s = dropNestedFrom true (afterClose 0 body) := by
  cases s with
  | nil => simp [readNested?, nestedKeyword?, Text.dropLead?] at h
  | cons c cs =>
    rw [dropNestedFrom]
    split
    · next b hb => rw [if_pos rfl, h] at hb; cases hb; rfl
    · next hb => rw [if_pos rfl, h] at hb; cases hb

namespace Kept

theorem nil (t : List Char) : Kept [] t := fun fresh => ⟨fresh, rfl⟩

theorem cons {c : Char} {s t : List Char} (hc : readNested? (c :: (s ++ t)) = none) (h : Kept s t) :
    Kept (c :: s) t := fun fresh => by
  obtain ⟨fresh', hs⟩ := h (!Text.isWord c)
  exact ⟨fresh', by rw [List.cons_append, dropNestedFrom_cons hc, hs, List.cons_append]⟩

theorem cons_of_ne {c : Char} {s t : List Char} (he : c ≠ 'e') (hm : c ≠ 'm') (h : Kept s t) :
    Kept (c :: s) t := cons (readNested?_of_ne he hm _) h

/-- A text that ends in a mark and has no brace. -/
theorem of_mark {s : List Char} {c : Char} (hword : Text.isWord c = false) (hblank : Text.isBlank c = false)
    (hs : '\x7b' ∉ s ++ [c]) (t : List Char) : Kept (s ++ [c]) t := by
  induction s with
  | nil => exact cons (readNested?_of_mem (s := [c]) (by simp) hword hblank hs) (nil t)
  | cons a as ih =>
    refine cons ?_ (ih fun h => hs (List.mem_cons_of_mem _ h))
    exact readNested?_of_mem (s := a :: (as ++ [c])) (by simp) hword hblank hs

/-- A word with a brace behind it. -/
theorem of_word {w : List Char} (hw : w.all isAsciiWord = true) (t : List Char) :
    Kept (w ++ [' ', '\x7b']) t := by
  induction w with
  | nil => exact cons_of_ne (by decide) (by decide) (cons_of_ne (by decide) (by decide) (nil t))
  | cons a as ih =>
    have hall : as.all isAsciiWord = true := (Bool.and_eq_true_iff.1 hw).2
    refine cons ?_ (ih hall)
    simpa using readNested?_of_word hw t

end Kept

theorem FieldDecl.kept (f : FieldDecl) (t : List Char) : Kept f.line t :=
  .of_mark (by decide) (by decide) (f.not_mem_line (by decide)) t

/-- A row before the type arguments of its maps are dropped. -/
theorem Row.kept (r : Row) (t : List Char) : Kept (r.lineWith FieldType.chars) t := by
  cases r with
  | field f => exact f.kept t
  | opening name =>
    have hname : name.chars.all isAsciiWord = true := List.all_eq_true.2 fun _ h => Name.word_of_mem h
    have heof : readNested? ('e' :: 'o' :: 'f' :: ' ' :: (name.chars ++ [' ', '\x7b'] ++ t)) = none := by
      simp [readNested?, nestedKeyword?, Text.dropLead?]
    refine .cons_of_ne (by decide) (by decide) (.cons_of_ne (by decide) (by decide) (.cons heof ?_))
    refine .cons_of_ne (by decide) (by decide) (.cons_of_ne (by decide) (by decide) ?_)
    exact .cons_of_ne (by decide) (by decide) (.of_word hname t)
  | closing => exact .cons_of_ne (by decide) (by decide) (.nil t)
  | blank => exact .nil t

/-! ## The rows of a message -/

end LuaStubs.Proto
