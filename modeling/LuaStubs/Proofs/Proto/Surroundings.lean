import LuaStubs.Proofs.Attempt
import LuaStubs.Proofs.Proto.Blocks
import LuaStubs.Proofs.Proto.Lookup
import LuaStubs.Proofs.Proto.Tokens
import LuaStubs.Proofs.Text.Search

/-!
# The surroundings of a block

A header stands on one line (`readHeader?_eq_some_iff`), so what is before that
line and what is behind the header have no part in it. Text before a block that
ends its last line and has no header of the name, and any text behind the block,
leave a message as it is, however broken they are (`message_surrounded`).
-/

namespace LuaStubs.Proto

/-- The header of a block of a name: the keyword, a gap, the name, perhaps another gap, and the brace. -/
def IsHeader (name header : List Char) : Prop :=
  ∃ c gap a word gap', name = a :: word ∧
    header = "message".toList ++ c :: (gap ++ a :: (word ++ (gap' ++ ['\x7b']))) ∧
    isGap c = true ∧ gap.all isGap = true ∧ Text.isNameStart a = true ∧ word.all Text.isWord = true ∧
    gap'.all isGap = true

variable {name header s t rest : List Char} {start : Bool}

/-! ## Headers -/

theorem not_isWord_of_isGap {c : Char} (h : isGap c = true) : Text.isWord c = false := by
  simp only [isGap, Bool.or_eq_true, beq_iff_eq] at h
  rcases h with rfl | rfl <;> decide

/-- The parts of a header are read as they are written. -/
theorem readHeader?_of_isHeader (h : IsHeader name header) (s : List Char) :
    readHeader? (header ++ s) = some (name, s) := by
  obtain ⟨c, gap, a, word, gap', rfl, rfl, hc, hgap, ha, hword, hgap'⟩ := h
  have hlead : Text.dropLead? "message".toList
      ("message".toList ++ c :: (gap ++ a :: (word ++ (gap' ++ ['\x7b']))) ++ s) =
      some (c :: (gap ++ a :: (word ++ (gap' ++ '\x7b' :: s)))) :=
    Text.dropLead?_eq_some_iff.2 (by simp only [List.append_assoc, List.cons_append, List.nil_append])
  have hstart : ∀ x ∈ (a :: (word ++ (gap' ++ '\x7b' :: s))).head?, isGap x = false := by
    rintro x ⟨⟩
    exact not_isGap_of_isAsciiWord (isAsciiWord_of_isNameStart ha)
  obtain ⟨hname, hbrace⟩ := takeWhile_word_brace (fun _ => not_isWord_of_isGap) (by decide) hword hgap' s
  rw [readHeader?_of_parts hlead hc (takeWhile_append_of_ends hgap hstart).2 ha hbrace, hname]

theorem parts_of_readHeader? (h : readHeader? s = some (name, rest)) :
    ∃ c cs a as, s = "message".toList ++ c :: cs ∧ isGap c = true ∧ cs.dropWhile isGap = a :: as ∧
      Text.isNameStart a = true ∧ (as.dropWhile Text.isWord).dropWhile isGap = '\x7b' :: rest ∧
      name = a :: as.takeWhile Text.isWord := by
  simp only [readHeader?, Option.bind_eq_bind, Option.bind_eq_some_iff] at h
  obtain ⟨t, ht, h⟩ := h
  rw [Text.dropLead?_eq_some_iff] at ht
  split at h
  · next c cs =>
    split at h
    · next hc =>
      split at h
      · next a as hcs =>
        split at h
        · next ha =>
          split at h
          · next r has =>
            cases h
            exact ⟨c, cs, a, as, ht, hc, hcs, ha, has, rfl⟩
          · cases h
        · cases h
      · cases h
    · cases h
  · cases h

/-- A header is read just where one stands. -/
theorem readHeader?_eq_some_iff :
    readHeader? s = some (name, rest) ↔ ∃ header, IsHeader name header ∧ s = header ++ rest := by
  constructor
  · intro h
    obtain ⟨c, cs, a, as, rfl, hc, hcs, ha, has, rfl⟩ := parts_of_readHeader? h
    refine ⟨_, ⟨c, cs.takeWhile isGap, a, as.takeWhile Text.isWord, (as.dropWhile Text.isWord).takeWhile isGap,
      rfl, rfl, hc, List.all_takeWhile, ha, List.all_takeWhile, List.all_takeWhile⟩, ?_⟩
    calc "message".toList ++ c :: cs
      _ = "message".toList ++ c :: (cs.takeWhile isGap ++ a :: as) := by
        rw [← hcs, List.takeWhile_append_dropWhile]
      _ = "message".toList ++ c :: (cs.takeWhile isGap ++ a :: (as.takeWhile Text.isWord ++
          ((as.dropWhile Text.isWord).takeWhile isGap ++ '\x7b' :: rest))) := by
        rw [← has, List.takeWhile_append_dropWhile, List.takeWhile_append_dropWhile]
      _ = _ := by simp only [List.append_assoc, List.cons_append, List.nil_append]
  · rintro ⟨header, hheader, rfl⟩
    exact readHeader?_of_isHeader hheader rest

/-- A header stands on one line. -/
theorem IsHeader.no_break (h : IsHeader name header) : '\n' ∉ header := by
  obtain ⟨c, gap, a, word, gap', rfl, rfl, hc, hgap, ha, hword, hgap'⟩ := h
  have hnot {p : Char → Bool} (hp : p '\n' = false) {x : Char} (hx : p x = true) : '\n' ≠ x := by
    rintro rfl
    rw [hp] at hx
    cases hx
  have hall {p : Char → Bool} (hp : p '\n' = false) {l : List Char} (hl : l.all p = true) : '\n' ∉ l :=
    fun hmem => hnot hp (List.all_eq_true.1 hl _ hmem) rfl
  have hkeyword : '\n' ∉ "message".toList := by decide
  simp only [List.mem_append, List.mem_cons, List.not_mem_nil, or_false, not_or]
  exact ⟨hkeyword, hnot (by decide) hc, hall (by decide) hgap, hnot (by decide) ha, hall (by decide) hword,
    hall (by decide) hgap', by decide⟩

/-- What is behind a header is not read with it. -/
theorem readHeader?_append (h : readHeader? s = some (name, rest)) (t : List Char) :
    readHeader? (s ++ t) = some (name, rest ++ t) := by
  obtain ⟨header, hheader, rfl⟩ := readHeader?_eq_some_iff.1 h
  rw [List.append_assoc]
  exact readHeader?_of_isHeader hheader (rest ++ t)

/-- No header starts on a line that goes no further if none does without the text behind that line. -/
theorem readHeader?_append_eq_none (h : readHeader? s = none) (hs : '\n' ∈ s) (t : List Char) :
    readHeader? (s ++ t) = none := by
  cases hread : readHeader? (s ++ t) with
  | none => rfl
  | some p =>
    obtain ⟨header, hheader, heq⟩ := readHeader?_eq_some_iff.1 hread
    rcases List.append_eq_append_iff.1 heq with ⟨u, rfl, -⟩ | ⟨u, rfl, -⟩
    · exact absurd (List.mem_append_left u hs) hheader.no_break
    · rw [readHeader?_of_isHeader hheader u] at h
      cases h

/-! ## The first header of a name -/

theorem afterHeader?_of_none {c : Char} {cs : List Char} (h : readHeader? (c :: cs) = none) :
    afterHeader? name start (c :: cs) = afterHeader? name (c == '\n') cs := by
  rw [afterHeader?, h, ite_self]

theorem afterHeader?_of_some {c : Char} {cs n r : List Char} (h : readHeader? (c :: cs) = some (n, r)) :
    afterHeader? name true (c :: cs) = if n = name then some r else afterHeader? name (c == '\n') cs := by
  rw [afterHeader?, h, if_pos rfl]

/-- Without a line feed there is no header behind the start of the line. -/
theorem afterHeader?_false_of_no_break (h : '\n' ∉ s) : afterHeader? name false s = none := by
  rw [← List.append_nil s, afterHeader?_false_append h, afterHeader?]

/-- Lines without a header of the name are passed over. -/
theorem afterHeader?_append_of_none (h : afterHeader? name start s = none) (hs : s.getLast? = some '\n')
    (t : List Char) : afterHeader? name start (s ++ t) = afterHeader? name true t := by
  induction s generalizing start with
  | nil => cases hs
  | cons c cs ih =>
    -- The rest of the text, if any, ends with a line feed too; the line feed itself starts no header.
    have hrest (hnone : afterHeader? name (c == '\n') cs = none) :
        afterHeader? name (c == '\n') (cs ++ t) = afterHeader? name true t := by
      cases cs with
      | nil =>
        cases hs
        rfl
      | cons d ds => exact ih hnone (by simpa using hs)
    rw [List.cons_append]
    cases hread : readHeader? (c :: cs) with
    | none =>
      have happend : readHeader? (c :: (cs ++ t)) = none :=
        readHeader?_append_eq_none hread (List.mem_of_getLast? hs) t
      rw [afterHeader?_of_none happend]
      exact hrest (by rwa [afterHeader?_of_none hread] at h)
    | some p =>
      cases start with
      | false => exact hrest h
      | true =>
        have happend : readHeader? (c :: (cs ++ t)) = some (p.1, p.2 ++ t) := readHeader?_append hread t
        rw [afterHeader?_of_some hread] at h
        rw [afterHeader?_of_some happend]
        split at h
        · cases h
        · next hne =>
          rw [if_neg hne]
          exact hrest h

/-- The first header of the name stays the first one when more text follows. -/
theorem afterHeader?_append (h : afterHeader? name start s = some rest) (t : List Char) :
    afterHeader? name start (s ++ t) = some (rest ++ t) := by
  induction s generalizing start with
  | nil => cases h
  | cons c cs ih =>
    rw [List.cons_append]
    cases start with
    | false => exact ih h
    | true =>
      cases hread : readHeader? (c :: cs) with
      | none =>
        rw [afterHeader?_of_none hread] at h
        -- The header is on a later line, so this line is whole.
        have hbreak : '\n' ∈ c :: cs := by
          by_cases hc : c = '\n'
          · simp [hc]
          · refine List.mem_cons_of_mem _ (Classical.byContradiction fun hcs => ?_)
            rw [beq_false_of_ne hc, afterHeader?_false_of_no_break hcs] at h
            cases h
        have happend : readHeader? (c :: (cs ++ t)) = none := readHeader?_append_eq_none hread hbreak t
        rw [afterHeader?_of_none happend]
        exact ih h
      | some p =>
        have happend : readHeader? (c :: (cs ++ t)) = some (p.1, p.2 ++ t) := readHeader?_append hread t
        rw [afterHeader?_of_some hread] at h
        rw [afterHeader?_of_some happend]
        split at h
        · next hname =>
          cases h
          rw [if_pos hname]
        · next hne =>
          rw [if_neg hne]
          exact ih h

/-! ## Documents -/

namespace Document

variable {name before text after : String} {body : List Char} {kind : EntityKind}

/-- A text in which no comment is opened is the text of its document. -/
theorem text_ofText (h : opensComment text.toList = false) : (ofText text).text = text.toList :=
  dropComments_eq_self h

theorem block_eq_ok_iff {d : Document} : d.block kind name = .ok body ↔
    ∃ rest tail, d.afterHeader? name = some rest ∧ Text.splitAt? blockEnd rest = some (body, tail) := by
  rw [block]
  split
  · next hnone => simp [hnone]
  · next rest hrest =>
    split
    · next hnone => simp [hrest, hnone]
    · next b tail hsplit => simp [hrest, hsplit]

/-- A block stays as it is between lines without its header and any text. -/
theorem block_surrounded (hcomment : opensComment (before ++ text ++ after).toList = false)
    (hbefore : before = "" ∨ ∃ lines, before = lines ++ "\n") (hnone : (ofText before).contains name = false)
    (h : (ofText text).block kind name = .ok body) :
    (ofText (before ++ text ++ after)).block kind name = .ok body := by
  have hpart {part : String} (hin : part.toList <:+: (before ++ text ++ after).toList) :
      (ofText part).text = part.toList := by
    obtain ⟨hline, hblock⟩ := opensComment_eq_false_iff.1 hcomment
    exact text_ofText (opensComment_eq_false_iff.2 ⟨fun hp => hline (hp.trans hin), fun hp => hblock (hp.trans hin)⟩)
  have htext : (ofText text).text = text.toList := hpart ⟨before.toList, after.toList, by simp⟩
  have hall : (ofText (before ++ text ++ after)).text = before.toList ++ (text.toList ++ after.toList) := by
    rw [hpart List.infix_rfl, String.toList_append, String.toList_append, List.append_assoc]
  obtain ⟨rest, tail, hheader, hsplit⟩ := block_eq_ok_iff.1 h
  rw [afterHeader?, htext] at hheader
  refine block_eq_ok_iff.2 ⟨rest ++ after.toList, tail ++ after.toList, ?_, Text.splitAt?_append hsplit _⟩
  rw [afterHeader?, hall]
  have hfound := afterHeader?_append hheader after.toList
  rcases hbefore with rfl | ⟨lines, rfl⟩
  · exact hfound
  · rw [contains, Option.isSome_eq_false_iff, Option.isNone_iff_eq_none, afterHeader?,
      hpart ⟨[], text.toList ++ after.toList, by simp⟩] at hnone
    rw [afterHeader?_append_of_none hnone (by simp), hfound]

/-- A message stays as it is between any two texts, if no comment is opened, the text before ends its last
line and has no header of the name. A name without a header is not found, neither as a message nor as an
event; with one it is found as both, or malformed as both. -/
theorem message_surrounded :
    (∀ (before text after name : String) (m : Message),
      ¬ ['/', '/'] <:+: (before ++ text ++ after).toList →
      ¬ ['/', '*'] <:+: (before ++ text ++ after).toList →
      (before = "" ∨ ∃ lines, before = lines ++ "\n") →
      (ofText before).contains name = false →
      (ofText text).message name = .ok m →
      (ofText (before ++ text ++ after)).message name = .ok m) ∧
    ∀ text name : String,
      ((ofText text).contains name = false ↔
        (ofText text).message name = .error (.entityNotFound .message name) ∧
        (ofText text).event name = .error (.entityNotFound .event name)) ∧
      ((ofText text).contains name = true →
        ((∃ m, (ofText text).message name = .ok m) ∧ ∃ e, (ofText text).event name = .ok e) ∨
        (∃ reason, (ofText text).message name = .error (.malformedEntity .message name reason)) ∧
        ∃ reason, (ofText text).event name = .error (.malformedEntity .event name reason)) := by
  constructor
  · intro before text after name m hline hblock hbefore hnone hm
    rw [message] at hm ⊢
    cases hbody : (ofText text).block .message name with
    | error e =>
      rw [hbody] at hm
      cases hm
    | ok body =>
      rw [block_surrounded (opensComment_eq_false_iff.2 ⟨hline, hblock⟩) hbefore hnone hbody, ← hm, hbody]
  · intro text name
    rw [message_eq, event_eq]
    cases hcontains : (ofText text).contains name with
    | false =>
      have hblock : (ofText text).hasBlock name = false := by
        rw [contains, Option.isSome_eq_false_iff, Option.isNone_iff_eq_none] at hcontains
        rw [hasBlock, hcontains]
      simp [hblock, missing, hcontains]
    | true =>
      cases hblock : (ofText text).hasBlock name with
      | true => simp
      | false => simp [missing, hcontains]

/-- A message between a block that is not closed and another header of its name. -/
theorem message_surrounded_broken :
    (ofText "\x7d\nmessage B \x7b\n").contains "A" = false ∧
    (ofText "message A \x7b\nT a = 1;\n\x7d").message "A" = .ok (.ofFields "A" [⟨"a", "T", false⟩]) ∧
    (ofText ("\x7d\nmessage B \x7b\n" ++ "message A \x7b\nT a = 1;\n\x7d" ++ "\nmessage A \x7b")).message "A" =
      .ok (.ofFields "A" [⟨"a", "T", false⟩]) := by
  have hbefore : (ofText "\x7d\nmessage B \x7b\n").contains "A" = false := by decide +kernel
  have hm : (ofText "message A \x7b\nT a = 1;\n\x7d").message "A" = .ok (.ofFields "A" [⟨"a", "T", false⟩]) :=
    toOption_eq_some_iff.1 (by decide +kernel)
  obtain ⟨hline, hblock⟩ := opensComment_eq_false_iff.1 (by decide +kernel :
    opensComment ("\x7d\nmessage B \x7b\n" ++ "message A \x7b\nT a = 1;\n\x7d" ++ "\nmessage A \x7b").toList = false)
  exact ⟨hbefore, hm,
    message_surrounded.1 _ _ _ "A" _ hline hblock (.inr ⟨"\x7d\nmessage B \x7b", rfl⟩) hbefore hm⟩

end Document

end LuaStubs.Proto
