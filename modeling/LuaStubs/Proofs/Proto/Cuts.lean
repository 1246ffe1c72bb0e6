import Mathlib.Data.List.Infix
import Mathlib.Data.Nat.Find
import LuaStubs.Proofs.Proto.NestedTokens

/-!
# Which text is dropped

A text is cut at its nested declarations, from left to right: each starts at the
first header of what is left of the text and ends at the brace that closes it
(`CutInto`). There is just one way to cut a text so, and `dropNested` leaves what
is kept between the declarations (`dropNested_eq_kept`), whether or not its braces
are balanced.
-/

namespace LuaStubs.Proto

/-! ## Headers -/

/-- No word goes on behind the text. -/
def endsApart (s : List Char) : Bool := s.getLast?.all fun c => !Text.isWord c

theorem endsApart_append_singleton (s : List Char) (c : Char) : endsApart (s ++ [c]) = !Text.isWord c := by
  rw [endsApart, List.getLast?_concat]
  rfl

/-- The text has a header at the start of a word, `kept` being before and `rest` behind it. -/
structure HeaderAt (s kept header rest : List Char) : Prop where
  eq_append : s = kept ++ (header ++ rest)
  isHeader : IsNestedHeader header
  apart : endsApart kept = true

/-- The text has no complete header. -/
def NoHeader (s : List Char) : Prop := ∀ kept header rest, ¬HeaderAt s kept header rest

/-- The header at that place is the first one of the text. -/
structure FirstHeader (s kept header rest : List Char) : Prop extends HeaderAt s kept header rest where
  leftmost : ∀ kept' header' rest', HeaderAt s kept' header' rest' → kept.length ≤ kept'.length

/-- The parts of a header are read as they are written. -/
theorem readNested?_of_isNestedHeader {header : List Char} (h : IsNestedHeader header) (rest : List Char) :
    readNested? (header ++ rest) = some rest := by
  obtain ⟨keyword, c, gap, a, word, gap', hkeyword, rfl, hc, hgap, ha, hword, hgap'⟩ := h
  have hstart : ∀ x ∈ (a :: (word ++ (gap' ++ '\x7b' :: rest))).head?, Text.isBlank x = false := by
    rintro x ⟨⟩
    exact isBlank_of_isWord ha
  have hbrace := (takeWhile_word_brace (fun _ => isWord_of_isBlank) (by decide) hword hgap' rest).2
  simp only [List.append_assoc, List.cons_append, List.nil_append]
  exact readNested?_eq_some_iff.2 ⟨_, _, _, _, nestedKeyword?_append hkeyword, hc,
    (takeWhile_append_of_ends hgap hstart).2, ha, hbrace⟩

/-- Text at which no header starts is kept. -/
theorem dropNestedFrom_append (before s t : List Char)
    (h : ∀ p q, s = p ++ q → q ≠ [] → endsApart (before ++ p) = true → readNested? (q ++ t) = none) :
    dropNestedFrom (endsApart before) (s ++ t) = s ++ dropNestedFrom (endsApart (before ++ s)) t := by
  induction s generalizing before with
  | nil => rw [List.append_nil, List.nil_append, List.nil_append]
  | cons c cs ih =>
    have hstep : dropNestedFrom (endsApart before) (c :: (cs ++ t)) =
        c :: dropNestedFrom (endsApart (before ++ [c])) (cs ++ t) := by
      rw [endsApart_append_singleton]
      cases hbefore : endsApart before with
      | false => exact dropNestedFrom_false_cons c _
      | true =>
        refine dropNestedFrom_cons (h [] (c :: cs) rfl (List.cons_ne_nil c cs) ?_) true
        rwa [List.append_nil]
    have hrest := ih (before ++ [c]) fun p q hcs hq hapart =>
      h (c :: p) q (by rw [hcs, List.cons_append]) hq (by simpa using hapart)
    rw [List.cons_append, hstep, hrest, List.append_assoc, List.singleton_append, List.cons_append]

theorem dropNested_of_noHeader {s : List Char} (h : NoHeader s) : dropNested s = s := by
  have hkept := dropNestedFrom_append [] s [] fun p q hs hq hapart => by
    cases hread : readNested? (q ++ []) with
    | none => rfl
    | some rest =>
      obtain ⟨header, hheader, hq'⟩ := exists_header_of_readNested? hread
      exact absurd ⟨by rw [hs, ← hq', List.append_nil], hheader, hapart⟩ (h p header rest)
  rw [dropNestedFrom.eq_def _ [], List.append_nil] at hkept
  exact hkept

/-- What is before the first header is kept, and from the header on the text is dropped up to where the
declaration ends. -/
theorem dropNested_of_firstHeader {s kept header rest : List Char} (h : FirstHeader s kept header rest) :
    dropNested s = kept ++ dropNested (afterClose 0 rest) := by
  have hkept := dropNestedFrom_append [] kept (header ++ rest) fun p q hp hq hapart => by
    cases hread : readNested? (q ++ (header ++ rest)) with
    | none => rfl
    | some rest' =>
      obtain ⟨header', hheader', hq'⟩ := exists_header_of_readNested? hread
      have hle := h.leftmost p header' rest' ⟨by rw [h.eq_append, hp, List.append_assoc, hq'], hheader', hapart⟩
      have hpos := List.length_pos_iff.2 hq
      rw [hp, List.length_append] at hle
      omega
  rw [List.nil_append, h.apart, ← h.eq_append] at hkept
  rw [dropNested, show dropNestedFrom true s = _ from hkept,
    dropNestedFrom_of_readNested? (readNested?_of_isNestedHeader h.isHeader rest), dropNested]

theorem exists_firstHeader {s : List Char} (h : ¬NoHeader s) : ∃ kept header rest, FirstHeader s kept header rest := by
  classical
  simp only [NoHeader, not_forall, not_not] at h
  obtain ⟨kept, header, rest, hat⟩ := h
  have hsome : ∃ n kept header rest, HeaderAt s kept header rest ∧ kept.length = n := ⟨_, _, _, _, hat, rfl⟩
  obtain ⟨kept, header, rest, hat, hlength⟩ := Nat.find_spec hsome
  refine ⟨kept, header, rest, hat, fun kept' header' rest' hat' => ?_⟩
  rw [hlength]
  exact Nat.find_min' hsome ⟨_, _, _, hat', rfl⟩

/-- There is one first header. -/
theorem FirstHeader.unique {s kept header rest kept' header' rest' : List Char}
    (h : FirstHeader s kept header rest) (h' : FirstHeader s kept' header' rest') :
    kept = kept' ∧ header = header' ∧ rest = rest' := by
  have hlength := Nat.le_antisymm (h.leftmost _ _ _ h'.toHeaderAt) (h'.leftmost _ _ _ h.toHeaderAt)
  obtain ⟨rfl, hbehind⟩ := List.append_inj (h.eq_append.symm.trans h'.eq_append) hlength
  have hread := readNested?_of_isNestedHeader h.isHeader rest
  rw [hbehind, readNested?_of_isNestedHeader h'.isHeader] at hread
  cases hread
  exact ⟨rfl, List.append_cancel_right hbehind, rfl⟩

/-! ## Braces -/

/-- How many more braces a text opens than it closes. -/
def braceDepth (s : List Char) : Int := s.count '\x7b' - s.count '\x7d'

theorem braceDepth_append (s t : List Char) : braceDepth (s ++ t) = braceDepth s + braceDepth t := by
  simp only [braceDepth, List.count_append]
  omega

theorem braceDepth_cons (c : Char) (s : List Char) : braceDepth (c :: s) = braceDepth [c] + braceDepth s :=
  braceDepth_append [c] s

/-- Of `depth` open braces some are open all along the text. -/
def LeavesOpen (depth : Int) (s : List Char) : Prop := ∀ p, p <+: s → 0 < depth + braceDepth p

/-- The last character of the text closes the last of `depth` open braces, and none does so before. -/
def Closes (depth : Int) (s : List Char) : Prop :=
  ∃ t, s = t ++ ['\x7d'] ∧ LeavesOpen depth t ∧ depth + braceDepth s = 0

/-- The text starts with `inside`, which closes the last of `depth` open braces, or is all of the text if none
does, and `rest` is behind that. -/
structure HasInside (depth : Int) (s inside rest : List Char) : Prop where
  eq_append : s = inside ++ rest
  ends : Closes depth inside ∨ LeavesOpen depth inside ∧ rest = []

theorem leavesOpen_cons {depth : Int} {c : Char} {s : List Char} :
    LeavesOpen depth (c :: s) ↔ 0 < depth ∧ LeavesOpen (depth + braceDepth [c]) s := by
  constructor
  · refine fun h => ⟨by simpa [braceDepth] using h [] List.nil_prefix, fun p hp => ?_⟩
    have := h (c :: p) (List.cons_prefix_cons.2 ⟨rfl, hp⟩)
    rw [braceDepth_cons] at this
    omega
  · rintro ⟨hpos, h⟩ p hp
    rcases List.prefix_cons_iff.1 hp with rfl | ⟨q, rfl, hq⟩
    · simpa [braceDepth] using hpos
    · have := h q hq
      rw [braceDepth_cons]
      omega

theorem leavesOpen_nil {depth : Int} : LeavesOpen depth [] ↔ 0 < depth := by
  simp [LeavesOpen, braceDepth]

theorem Closes.cons {depth : Int} {c : Char} {s : List Char} (hpos : 0 < depth)
    (h : Closes (depth + braceDepth [c]) s) : Closes depth (c :: s) := by
  obtain ⟨t, rfl, hopen, hzero⟩ := h
  refine ⟨c :: t, rfl, leavesOpen_cons.2 ⟨hpos, hopen⟩, ?_⟩
  rw [braceDepth_cons]
  omega

theorem HasInside.cons {depth : Int} {c : Char} {s inside rest : List Char} (hpos : 0 < depth)
    (h : HasInside (depth + braceDepth [c]) s inside rest) : HasInside depth (c :: s) (c :: inside) rest := by
  obtain ⟨rfl, hends⟩ := h
  exact ⟨rfl, hends.imp (Closes.cons hpos) fun ⟨hopen, hrest⟩ => ⟨leavesOpen_cons.2 ⟨hpos, hopen⟩, hrest⟩⟩

/-- What `afterClose` leaves is behind the closing brace. -/
theorem exists_hasInside (depth : Nat) (s : List Char) :
    ∃ inside, HasInside (depth + 1) s inside (afterClose depth s) := by
  induction s generalizing depth with
  | nil => exact ⟨[], rfl, .inr ⟨leavesOpen_nil.2 (by omega), rfl⟩⟩
  | cons c cs ih =>
    have hpos : (0 : Int) < depth + 1 := by omega
    -- The first character changes the depth, and the rest is read at the new one.
    rw [afterClose.eq_def]
    dsimp only
    split
    · next hopens =>
      obtain ⟨inside, h⟩ := ih (depth + 1)
      exact ⟨c :: inside, .cons hpos (by simpa [braceDepth, hopens] using h)⟩
    · split
      · next hcloses =>
        cases depth with
        | zero =>
          refine ⟨[c], rfl, .inl ⟨[], by rw [hcloses, List.nil_append], leavesOpen_nil.2 hpos, ?_⟩⟩
          simp [braceDepth, hcloses]
        | succ depth =>
          obtain ⟨inside, h⟩ := ih depth
          exact ⟨c :: inside, .cons hpos (by simpa [braceDepth, hcloses, Int.add_neg_cancel_right] using h)⟩
      · next hopens hcloses =>
        obtain ⟨inside, h⟩ := ih depth
        exact ⟨c :: inside, .cons hpos (by simpa [braceDepth, hopens, hcloses] using h)⟩

/-- A text in which a brace is left open has no closed one at its beginning. -/
theorem LeavesOpen.not_closes {depth : Int} {s t : List Char} (h : LeavesOpen depth s) (ht : t <+: s) :
    ¬Closes depth t := by
  rintro ⟨-, -, -, hzero⟩
  have := h t ht
  omega

theorem Closes.eq_of_prefix {depth : Int} {s t : List Char} (hs : Closes depth s) (ht : Closes depth t)
    (h : t <+: s) : t = s := by
  obtain ⟨r, rfl, hopen, -⟩ := hs
  rcases List.prefix_concat_iff.1 h with heq | hr
  · exact heq
  · exact absurd ht (hopen.not_closes hr)

/-- There is one inside. -/
theorem HasInside.unique {depth : Int} {s inside rest inside' rest' : List Char}
    (h : HasInside depth s inside rest) (h' : HasInside depth s inside' rest') :
    inside = inside' ∧ rest = rest' := by
  obtain ⟨heq, hend⟩ := h
  obtain ⟨heq', hend'⟩ := h'
  have hprefix : inside <+: s := heq ▸ List.prefix_append inside rest
  have hprefix' : inside' <+: s := heq' ▸ List.prefix_append inside' rest'
  have hsame : inside = inside' → inside = inside' ∧ rest = rest' := by
    rintro rfl
    exact ⟨rfl, List.append_cancel_left (heq.symm.trans heq')⟩
  rcases hend with hcloses | ⟨hopen, rfl⟩ <;> rcases hend' with hcloses' | ⟨hopen', rfl⟩
  · refine hsame ?_
    rcases List.prefix_or_prefix_of_prefix hprefix hprefix' with hle | hle
    · exact hcloses'.eq_of_prefix hcloses hle
    · exact (hcloses.eq_of_prefix hcloses' hle).symm
  · rw [List.append_nil] at heq'
    exact absurd hcloses (hopen'.not_closes (heq' ▸ hprefix))
  · rw [List.append_nil] at heq
    exact absurd hcloses' (hopen.not_closes (heq ▸ hprefix'))
  · rw [List.append_nil] at heq heq'
    exact ⟨heq.symm.trans heq', rfl⟩

/-! ## Cuts -/

/-- A declaration in a text, and the text that is kept before it. -/
structure Cut where
  kept : List Char
  header : List Char
  inside : List Char
  deriving DecidableEq, Repr

/-- The text of a declaration. -/
def Cut.declaration (c : Cut) : List Char := c.header ++ c.inside

/-- The text is cut at its nested declarations, one after the other, and `last` is behind them. -/
inductive CutInto : List Char → List Cut → List Char → Prop where
  | last {s : List Char} : NoHeader s → CutInto s [] s
  | cut {s kept header behind inside rest last : List Char} {cuts : List Cut} :
    FirstHeader s kept header behind → HasInside 1 behind inside rest → CutInto rest cuts last →
      CutInto s (⟨kept, header, inside⟩ :: cuts) last

theorem IsNestedHeader.ne_nil {header : List Char} (h : IsNestedHeader header) : header ≠ [] := by
  obtain ⟨p, rfl, -⟩ := h.exists_of_brace
  exact List.append_ne_nil_of_right_ne_nil p (List.cons_ne_nil _ _)

/-- No header is in front of the first one. -/
theorem FirstHeader.noHeader_kept {s kept header rest : List Char} (h : FirstHeader s kept header rest) :
    NoHeader kept := by
  intro kept' header' rest' hat
  have hle := h.leftmost kept' header' (rest' ++ (header ++ rest))
    ⟨by rw [h.eq_append, hat.eq_append]; simp, hat.isHeader, hat.apart⟩
  have hpos := List.length_pos_iff.2 hat.isHeader.ne_nil
  rw [hat.eq_append, List.length_append, List.length_append] at hle
  omega

namespace CutInto

variable {s last last' : List Char} {cuts cuts' : List Cut}

/-- The cuts are parts of the text, in their order. -/
theorem eq_flatMap (h : CutInto s cuts last) : s = cuts.flatMap (fun c => c.kept ++ c.declaration) ++ last := by
  induction h with
  | last _ => rfl
  | cut hfirst hinside _ ih =>
    rw [hfirst.eq_append, hinside.eq_append, List.flatMap_cons, Cut.declaration]
    conv_lhs => rw [ih]
    simp only [List.append_assoc]

theorem dropNested_eq (h : CutInto s cuts last) : dropNested s = cuts.flatMap Cut.kept ++ last := by
  induction h with
  | last hnone => exact dropNested_of_noHeader hnone
  | @cut s kept header behind inside rest last cuts hfirst hinside _ ih =>
    obtain ⟨inside', hinside'⟩ := exists_hasInside 0 behind
    rw [dropNested_of_firstHeader hfirst, (hinside'.unique hinside).2, ih, List.flatMap_cons, List.append_assoc]

theorem noHeader (h : CutInto s cuts last) : ∀ t ∈ cuts.map Cut.kept ++ [last], NoHeader t := by
  induction h with
  | last hnone => simpa using hnone
  | cut hfirst _ _ ih =>
    rw [List.map_cons, List.cons_append, List.forall_mem_cons]
    exact ⟨hfirst.noHeader_kept, ih⟩

theorem unique (h : CutInto s cuts last) (h' : CutInto s cuts' last') : cuts' = cuts ∧ last' = last := by
  induction h generalizing cuts' with
  | last hnone =>
    cases h' with
    | last _ => exact ⟨rfl, rfl⟩
    | cut hfirst _ _ => exact absurd hfirst.toHeaderAt (hnone _ _ _)
  | cut hfirst hinside _ ih =>
    cases h' with
    | last hnone => exact absurd hfirst.toHeaderAt (hnone _ _ _)
    | cut hfirst' hinside' hrest' =>
      obtain ⟨rfl, rfl, rfl⟩ := hfirst.unique hfirst'
      obtain ⟨rfl, rfl⟩ := hinside.unique hinside'
      obtain ⟨rfl, rfl⟩ := ih hrest'
      exact ⟨rfl, rfl⟩

end CutInto

/-- Each declaration takes text away, so the cuts come to an end. -/
theorem exists_cutInto (s : List Char) : ∃ cuts last, CutInto s cuts last := by
  induction h : s.length using Nat.strongRecOn generalizing s with
  | _ n ih =>
    subst h
    by_cases hnone : NoHeader s
    · exact ⟨[], s, .last hnone⟩
    · obtain ⟨kept, header, behind, hfirst⟩ := exists_firstHeader hnone
      obtain ⟨inside, hinside⟩ := exists_hasInside 0 behind
      have hshorter : (afterClose 0 behind).length < s.length := by
        have hclose := length_afterClose 0 behind
        have hpos := List.length_pos_iff.2 hfirst.isHeader.ne_nil
        rw [hfirst.eq_append, List.length_append, List.length_append]
        omega
      obtain ⟨cuts, last, hrest⟩ := ih _ hshorter _ rfl
      exact ⟨_, last, .cut hfirst hinside hrest⟩

/-! ## Balanced braces -/

/-- The text closes all of `depth` open braces and those that it opens, and no brace that is not open. -/
structure Balanced (depth : Int) (s : List Char) : Prop where
  nonneg : ∀ p, p <+: s → 0 ≤ depth + braceDepth p
  closed : depth + braceDepth s = 0

instance (depth : Int) (s : List Char) : Decidable (Balanced depth s) :=
  decidable_of_iff ((∀ p ∈ s.inits, 0 ≤ depth + braceDepth p) ∧ depth + braceDepth s = 0)
    ⟨fun h => ⟨fun p hp => h.1 p ((List.mem_inits p s).2 hp), h.2⟩,
      fun h => ⟨fun p hp => h.nonneg p ((List.mem_inits p s).1 hp), h.closed⟩⟩

theorem balanced_append {depth : Int} {s t : List Char} : Balanced depth (s ++ t) ↔
    (∀ p, p <+: s → 0 ≤ depth + braceDepth p) ∧ Balanced (depth + braceDepth s) t := by
  constructor
  · refine fun h => ⟨fun p hp => h.nonneg p (hp.trans (List.prefix_append s t)), fun p hp => ?_, ?_⟩
    · have := h.nonneg (s ++ p) ((List.prefix_append_right_inj s).2 hp)
      rw [braceDepth_append] at this
      omega
    · have := h.closed
      rw [braceDepth_append] at this
      omega
  · rintro ⟨hs, ht⟩
    refine ⟨fun p hp => ?_, ?_⟩
    · rcases List.prefix_or_prefix_of_prefix hp (List.prefix_append s t) with hps | ⟨q, rfl⟩
      · exact hs p hps
      · have := ht.nonneg q ((List.prefix_append_right_inj s).1 hp)
        rw [braceDepth_append]
        omega
    · have := ht.closed
      rw [braceDepth_append]
      omega

theorem IsNestedHeader.braceDepth_eq {header : List Char} (h : IsNestedHeader header) : braceDepth header = 1 := by
  obtain ⟨p, rfl, hp⟩ := h.exists_of_brace
  have hopen : p.count '\x7b' = 0 := List.count_eq_zero.2 fun hmem => absurd (hp _ hmem) (by decide)
  have hclose : p.count '\x7d' = 0 := List.count_eq_zero.2 fun hmem => absurd (hp _ hmem) (by decide)
  rw [braceDepth_append, braceDepth, hopen, hclose]
  decide

/-- In balanced text every declaration has its closing brace. -/
theorem HasInside.braceDepth_eq {depth : Int} {s inside rest : List Char} (h : HasInside 1 s inside rest)
    (hdepth : 0 ≤ depth) (hs : Balanced (depth + 1) s) : braceDepth inside = -1 := by
  obtain ⟨rfl, ⟨-, -, -, hzero⟩ | ⟨hopen, rfl⟩⟩ := h
  · omega
  · have hclosed := hs.closed
    have hlast := hopen inside (List.prefix_refl inside)
    rw [List.append_nil] at hclosed
    omega

/-- What is kept of balanced text is balanced: where a declaration is dropped, as many braces are open behind
it as before it. -/
theorem CutInto.balanced {depth : Int} {s last : List Char} {cuts : List Cut} (h : CutInto s cuts last)
    (hs : Balanced depth s) : Balanced depth (cuts.flatMap Cut.kept ++ last) := by
  induction h generalizing depth with
  | last _ => exact hs
  | @cut s kept header behind inside rest last cuts hfirst hinside _ ih =>
    rw [hfirst.eq_append, balanced_append, balanced_append, hfirst.isHeader.braceDepth_eq] at hs
    obtain ⟨hkept, -, hbehind⟩ := hs
    have hinner := hinside.braceDepth_eq (hkept kept (List.prefix_refl kept)) hbehind
    rw [hinside.eq_append, balanced_append, hinner, Int.add_neg_cancel_right] at hbehind
    rw [List.flatMap_cons, List.append_assoc, balanced_append]
    exact ⟨hkept, ih hbehind.2⟩

/-! ## Dropping nested declarations -/

/-- Every text can be cut at its nested declarations in just one way. What is left of it is the text before,
between and behind them. No header is in any piece of that, and its braces are balanced if those of the text
are. -/
theorem dropNested_eq_kept (s : List Char) :
    ∃ cuts last, CutInto s cuts last ∧ (∀ cuts' last', CutInto s cuts' last' → cuts' = cuts ∧ last' = last) ∧
      s = cuts.flatMap (fun c => c.kept ++ c.declaration) ++ last ∧
      dropNested s = cuts.flatMap Cut.kept ++ last ∧
      (∀ t ∈ cuts.map Cut.kept ++ [last], NoHeader t) ∧
      (Balanced 0 s → Balanced 0 (dropNested s)) := by
  obtain ⟨cuts, last, h⟩ := exists_cutInto s
  refine ⟨cuts, last, h, fun _ _ => h.unique, h.eq_flatMap, h.dropNested_eq, h.noHeader, fun hs => ?_⟩
  rw [h.dropNested_eq]
  exact h.balanced hs

/-- Two declarations of a balanced text, one inside of the other. -/
theorem dropNested_eq_kept_balanced :
    Balanced 0 "ä; message Ö \x7b enum E\x7b\x7d \x7d ü".toList ∧
      Balanced 0 (dropNested "ä; message Ö \x7b enum E\x7b\x7d \x7d ü".toList) := by
  have hs : Balanced 0 "ä; message Ö \x7b enum E\x7b\x7d \x7d ü".toList := by decide
  obtain ⟨-, -, -, -, -, -, -, hdrop⟩ := dropNested_eq_kept "ä; message Ö \x7b enum E\x7b\x7d \x7d ü".toList
  exact ⟨hs, hdrop hs⟩

end LuaStubs.Proto
