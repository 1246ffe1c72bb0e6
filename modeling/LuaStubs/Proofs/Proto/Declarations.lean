import LuaStubs.Proofs.Proto.Fields
import LuaStubs.Proofs.Proto.OwnTokens
import LuaStubs.Proto.Document

/-!
# Declarations read from tokens

`declaration?` reads a field declaration from tokens, as `readField?` does from text
(`declaration?_tokensFrom`), and `declarations` those that begin a line. So the fields of a message
body are read from its own tokens (`bodyFields_eq`): white space in the body matters only as far as these
say how they stand.
-/

namespace LuaStubs.Proto

/-! ## Readers of tokens -/

/-- The tokens behind options, if there are any, and a semicolon. -/
def ending? (xs : List Token) : Option (List Token) :=
  match dropMark? '[' xs with
  | some inside => (behind? ']' inside).bind (dropMark? ';')
  | none => dropMark? ';' xs

/-- The tokens behind a number, options and a semicolon. -/
def tagged? : List Token → Option (List Token)
  | [] => none
  | x :: xs => if x.text.all Text.isDecimal then ending? xs else none

/-- Reads a name and all that follows it up to the semicolon. -/
def named? : List Token → Option (List Char × List Token)
  | [] => none
  | x :: xs =>
    if x.text.head?.any Text.isNameStart ∧ x.text.all Text.isWord then
      ((dropMark? '=' xs).bind tagged?).map fun rest => (x.text, rest)
    else none

/-- Reads a type and a name, with all that follows it. -/
def unqualified? (repeated : Bool) : List Token → Option (Field × List Token)
  | [] => none
  | x :: xs =>
    if x.text.head?.any isTypeStart then
      (named? xs).map fun p => (⟨String.ofList p.1, String.ofList x.text, repeated⟩, p.2)
    else none

/-- Reads a qualifier and a declaration behind it. -/
def qualified? : List Token → Option (Field × List Token)
  | [] => none
  | x :: xs => (qualifier? x.text).bind fun repeated => unqualified? repeated xs

/-- Reads a field declaration. -/
def declaration? (xs : List Token) : Option (Field × List Token) := (qualified? xs).or (unqualified? false xs)

theorem length_ending? {xs ys : List Token} (h : ending? xs = some ys) : ys.length < xs.length := by
  unfold ending? at h
  split at h
  · next inside hinside =>
    obtain ⟨zs, hzs, h⟩ := Option.bind_eq_some_iff.1 h
    have h1 := length_dropMark? hinside
    have h2 := length_behind? hzs
    have h3 := length_dropMark? h
    omega
  · exact length_dropMark? h

theorem length_tagged? {xs ys : List Token} (h : tagged? xs = some ys) : ys.length < xs.length := by
  cases xs with
  | nil => cases h
  | cons x xs =>
    rw [tagged?] at h
    split at h
    · exact Nat.lt_succ_of_lt (length_ending? h)
    · cases h

theorem length_named? {xs : List Token} {p : List Char × List Token} (h : named? xs = some p) :
    p.2.length < xs.length := by
  cases xs with
  | nil => cases h
  | cons x xs =>
    rw [named?] at h
    split at h
    · obtain ⟨rest, hrest, rfl⟩ := Option.map_eq_some_iff.1 h
      obtain ⟨ys, hys, hrest⟩ := Option.bind_eq_some_iff.1 hrest
      exact Nat.lt_succ_of_lt (Nat.lt_trans (length_tagged? hrest) (length_dropMark? hys))
    · cases h

theorem length_unqualified? {repeated : Bool} {xs : List Token} {p : Field × List Token}
    (h : unqualified? repeated xs = some p) : p.2.length < xs.length := by
  cases xs with
  | nil => cases h
  | cons x xs =>
    rw [unqualified?] at h
    split at h
    · obtain ⟨q, hq, rfl⟩ := Option.map_eq_some_iff.1 h
      exact Nat.lt_succ_of_lt (length_named? hq)
    · cases h

/-- A declaration takes at least one token. -/
theorem length_declaration? {xs : List Token} {p : Field × List Token} (h : declaration? xs = some p) :
    p.2.length < xs.length := by
  rw [declaration?, Option.or_eq_some_iff] at h
  rcases h with h | ⟨-, h⟩
  · cases xs with
    | nil => cases h
    | cons x xs =>
      obtain ⟨repeated, -, h⟩ := Option.bind_eq_some_iff.1 h
      exact Nat.lt_succ_of_lt (length_unqualified? h)
  · exact length_unqualified? h

/-- The declarations that begin a line, from the left. -/
def declarations (xs : List Token) : List Field :=
  match xs with
  | [] => []
  | x :: xs =>
    match _h : if x.first then declaration? (x :: xs) else none with
    | some (field, rest) => field :: declarations rest
    | none => declarations xs
termination_by xs.length
decreasing_by
  · split at _h
    · exact length_declaration? _h
    · cases _h
  · simp

theorem declarations_of_declaration? {x : Token} {xs rest : List Token} {f : Field} (hx : x.first = true)
    (h : declaration? (x :: xs) = some (f, rest)) : declarations (x :: xs) = f :: declarations rest := by
  rw [declarations]
  split
  · next heq => rw [if_pos hx, h] at heq; cases heq; rfl
  · next heq => rw [if_pos hx, h] at heq; cases heq

theorem declarations_cons {x : Token} {xs : List Token} (h : x.first = true → declaration? (x :: xs) = none) :
    declarations (x :: xs) = declarations xs := by
  rw [declarations]
  split
  · next heq =>
    split at heq
    · next hx => rw [h hx] at heq; cases heq
    · cases heq
  · rfl

/-! ## Reading a declaration -/

/-- A longer word follows if one of other characters is not read as a whole. -/
theorem takeWhile_isTypePart {p : Char → Bool} (hp : ∀ c, p c = true → isTypePart c = true) (cs : List Char) :
    (cs.takeWhile isTypePart).all p = true ∧ cs.takeWhile isTypePart = cs.takeWhile p ∧
        cs.dropWhile isTypePart = cs.dropWhile p ∨
      (cs.takeWhile isTypePart).all p = false ∧ ∃ d ds, cs.dropWhile p = d :: ds ∧ isTypePart d = true := by
  induction cs with
  | nil => exact .inl ⟨rfl, rfl, rfl⟩
  | cons c cs ih =>
    by_cases hc : isTypePart c = true
    · by_cases hpc : p c = true
      · simpa [List.takeWhile_cons_of_pos hc, List.takeWhile_cons_of_pos hpc, List.dropWhile_cons_of_pos hc,
          List.dropWhile_cons_of_pos hpc, hpc] using ih
      · refine .inr ⟨?_, c, cs, List.dropWhile_cons_of_neg hpc, hc⟩
        rw [List.takeWhile_cons_of_pos hc, List.all_cons, Bool.eq_false_iff.2 hpc, Bool.false_and]
    · have hpc : ¬p c = true := fun h => hc (hp c h)
      refine .inl ⟨?_, ?_, ?_⟩
      · rw [List.takeWhile_cons_of_neg hc]
        rfl
      · rw [List.takeWhile_cons_of_neg hc, List.takeWhile_cons_of_neg hpc]
      · rw [List.dropWhile_cons_of_neg hc, List.dropWhile_cons_of_neg hpc]

theorem isTypePart_of_isWord {c : Char} (h : Text.isWord c = true) : isTypePart c = true := by
  simp [isTypePart, h]

theorem isNameStart_of_not_isTypePart {c : Char} (hc : isTypePart c = false) : Text.isNameStart c = false :=
  Bool.eq_false_iff.2 fun h => by
    rw [isTypePart_of_isAsciiWord (isAsciiWord_of_isNameStart h)] at hc
    cases hc

theorem isTypeStart_of_not_isTypePart {c : Char} (hc : isTypePart c = false) : isTypeStart c = false := by
  have hdot : (c == '.') = false := (Bool.or_eq_false_iff.1 hc).2
  rw [isTypeStart, isNameStart_of_not_isTypePart hc, hdot]
  rfl

theorem dropLead?_of_isTypePart {mark c : Char} (hmark : isTypePart mark = false) (hc : isTypePart c = true)
    (cs : List Char) : Text.dropLead? [mark] (c :: cs) = none :=
  dropLead?_mark_eq_none fun _ heq => word_ne_mark hmark hc [] (by rw [(List.cons.inj heq).1])

/-- The text behind options, if there are any, and a semicolon. -/
def afterEnding? (s : List Char) : Option (List Char) := Text.dropLead? [';'] (skipOptions (skipBlanks s))

theorem afterEnding?_of_isTypePart {c : Char} (hc : isTypePart c = true) (cs : List Char) :
    afterEnding? (c :: cs) = none := by
  have hskip : skipOptions (c :: cs) = c :: cs := by
    unfold skipOptions
    split
    · next heq =>
      cases heq
      exact absurd hc (by decide)
    · rfl
  rw [afterEnding?, skipBlanks_of_not_blank (isBlank_of_isTypePart hc), hskip]
  exact dropLead?_of_isTypePart (by decide) hc cs

theorem ending?_tokensFrom (apart first : Bool) (s : List Char) :
    ending? (tokensFrom isTypePart apart first s) =
      (afterEnding? s).map (tokensFrom isTypePart false false) := by
  rw [ending?, afterEnding?, dropMark?_tokensFrom (by decide)]
  cases hopen : Text.dropLead? ['['] (skipBlanks s) with
  | some cs =>
    have hs : skipBlanks s = '[' :: cs := Text.dropLead?_eq_some_iff.1 hopen
    simp only [Option.map_some]
    rw [hs, skipOptions, behind?_tokensFrom (by decide) (by decide)]
    split
    · next rest hrest =>
      rw [hrest]
      exact dropMark?_tokensFrom (by decide) false false rest
    · next hnot => rw [dropWhile_ne_eq_nil hnot]; rfl
  | none =>
    have hskip : skipOptions (skipBlanks s) = skipBlanks s := by
      unfold skipOptions
      split
      · next cs hs => rw [hs] at hopen; cases hopen
      · rfl
    simp only [Option.map_none]
    rw [hskip, dropMark?_tokensFrom (by decide)]

/-- The text behind a number, options and a semicolon. -/
def afterTag? (s : List Char) : Option (List Char) :=
  (readWord? Text.isDecimal Text.isDecimal s).bind fun p => afterEnding? p.2

theorem tagged?_tokensFrom (apart first : Bool) (s : List Char) :
    tagged? (tokensFrom isTypePart apart first s) =
      (afterTag? (skipBlanks s)).map (tokensFrom isTypePart false false) := by
  rw [afterTag?]
  have hstart := start_tokensFrom isTypePart apart first s
  generalize tokensFrom isTypePart apart first s = xs at hstart
  cases hstart with
  | nil hs =>
    rw [hs]
    rfl
  | @word c cs _ _ hs _ =>
    rw [hs, tagged?, readWord?]
    by_cases hdecimal : Text.isDecimal c = true
    · rw [if_pos hdecimal, Option.bind_some]
      rcases takeWhile_isTypePart (fun _ h => isTypePart_of_isWord (isWord_of_isDecimal h)) cs with
        ⟨hall, -, hrest⟩ | ⟨hall, d, ds, hrest, hd⟩
      · rw [if_pos (by simp [hdecimal, hall]), hrest, ending?_tokensFrom]
      · rw [if_neg (by simp [hall]), hrest, afterEnding?_of_isTypePart hd]
        rfl
    · rw [if_neg (by simp [hdecimal]), if_neg hdecimal]
      rfl
  | @mark c _ _ _ hs hc =>
    have hdecimal : ¬Text.isDecimal c = true := fun h => by
      rw [isTypePart_of_isWord (isWord_of_isDecimal h)] at hc
      cases hc
    rw [hs, tagged?, readWord?, if_neg (by simp [hdecimal]), if_neg hdecimal]
    rfl

/-- Reads a name and all that follows it up to the semicolon. -/
def readNamed? (s : List Char) : Option (List Char × List Char) :=
  (readWord? Text.isNameStart Text.isWord s).bind fun name =>
    ((Text.dropLead? ['='] (skipBlanks name.2)).bind fun t => afterTag? (skipBlanks t)).map fun rest =>
      (name.1, rest)

theorem named?_tokensFrom (apart first : Bool) (s : List Char) :
    named? (tokensFrom isTypePart apart first s) =
      (readNamed? (skipBlanks s)).map (Prod.map id (tokensFrom isTypePart false false)) := by
  rw [readNamed?]
  have hstart := start_tokensFrom isTypePart apart first s
  generalize tokensFrom isTypePart apart first s = xs at hstart
  cases hstart with
  | nil hs =>
    rw [hs]
    rfl
  | @word c cs _ _ hs _ =>
    rw [hs, named?, readWord?]
    by_cases hname : Text.isNameStart c = true
    · have hword := isWord_of_isAsciiWord (isAsciiWord_of_isNameStart hname)
      rw [if_pos hname, Option.bind_some]
      rcases takeWhile_isTypePart (fun _ => isTypePart_of_isWord) cs with
        ⟨hall, htext, hrest⟩ | ⟨hall, d, ds, hrest, hd⟩
      · rw [if_pos (by simp [hname, hword, hall]), hrest, htext, dropMark?_tokensFrom (by decide)]
        cases Text.dropLead? ['='] (skipBlanks (cs.dropWhile Text.isWord)) with
        | none => rfl
        | some t =>
          rw [Option.map_some, Option.bind_some, Option.bind_some, tagged?_tokensFrom, Option.map_map, Option.map_map]
          rfl
      · rw [if_neg (by simp [hall]), hrest, skipBlanks_of_not_blank (isBlank_of_isTypePart hd),
          dropLead?_of_isTypePart (by decide) hd]
        rfl
    · rw [if_neg (by simp [hname]), if_neg hname]
      rfl
  | mark _ _ hs hc =>
    have hname := isNameStart_of_not_isTypePart hc
    rw [hs, named?, readWord?, if_neg (by simp [hname]), if_neg (by simp [hname])]
    rfl

theorem readNamed?_of_head {s : List Char} (h : ∀ c ∈ s.head?, isTypePart c = false) : readNamed? s = none := by
  cases s with
  | nil => rfl
  | cons c cs => rw [readNamed?, readWord?, if_neg (by simp [isNameStart_of_not_isTypePart (h c rfl)])]; rfl

theorem readUnqualified?_of_head {s : List Char} (repeated : Bool) (h : ∀ c ∈ s.head?, isTypePart c = false) :
    readUnqualified? repeated s = none := by
  cases s with
  | nil => rfl
  | cons c cs => rw [readUnqualified?, readWord?, if_neg (by simp [isTypeStart_of_not_isTypePart (h c rfl)])]; rfl

theorem readUnqualified?_eq (repeated : Bool) (s : List Char) : readUnqualified? repeated s =
    (readWord? isTypeStart isTypePart s).bind fun type =>
      ((skipSomeBlanks? type.2).bind readNamed?).map fun p =>
        (⟨String.ofList p.1, String.ofList type.1, repeated⟩, p.2) := by
  rw [readUnqualified?]
  simp only [Option.bind_eq_bind]
  congr 1
  funext type
  cases skipSomeBlanks? type.2 with
  | none => rfl
  | some t =>
    simp only [Option.bind_some, readNamed?]
    cases readWord? Text.isNameStart Text.isWord t with
    | none => rfl
    | some name =>
      simp only [Option.bind_some]
      split
      · next u hu =>
        have hequals : Text.dropLead? ['='] ('=' :: u) = some u := rfl
        rw [hu, hequals, Option.bind_some, afterTag?]
        cases readWord? Text.isDecimal Text.isDecimal (skipBlanks u) with
        | none => rfl
        | some tag =>
          simp only [Option.bind_some, afterEnding?]
          split
          · next rest hrest => rw [hrest]; rfl
          · next hnot => rw [dropLead?_mark_eq_none hnot]; rfl
      · next hnot => rw [dropLead?_mark_eq_none hnot]; rfl

theorem unqualified?_tokensFrom (repeated apart first : Bool) (s : List Char) :
    unqualified? repeated (tokensFrom isTypePart apart first s) =
      (readUnqualified? repeated (skipBlanks s)).map (Prod.map id (tokensFrom isTypePart false false)) := by
  rw [readUnqualified?_eq]
  have hstart := start_tokensFrom isTypePart apart first s
  generalize tokensFrom isTypePart apart first s = xs at hstart
  cases hstart with
  | nil hs =>
    rw [hs]
    rfl
  | @word c cs _ _ hs _ =>
    rw [hs, unqualified?, readWord?]
    by_cases htype : isTypeStart c = true
    · rw [if_pos (by simp [htype]), if_pos htype, Option.bind_some,
        tokensFrom_behindWord named?_tokensFrom (fun _ => readNamed?_of_head) fun _ => of_mem_head?_dropWhile]
      simp only [Option.map_map]
      rfl
    · rw [if_neg (by simp [htype]), if_neg htype]
      rfl
  | mark _ _ hs hc =>
    have htype := isTypeStart_of_not_isTypePart hc
    rw [hs, unqualified?, readWord?, if_neg (by simp [htype]), if_neg (by simp [htype])]
    rfl

theorem qualified?_tokensFrom (apart first : Bool) (s : List Char) :
    qualified? (tokensFrom isTypePart apart first s) =
      ((readQualifier? (skipBlanks s)).bind fun q => readUnqualified? q.1 q.2).map
        (Prod.map id (tokensFrom isTypePart false false)) := by
  have hempty : qualifier? [] = none := by simp [qualifier?]
  rw [readQualifier?]
  have hstart := start_tokensFrom isTypePart apart first s
  generalize tokensFrom isTypePart apart first s = xs at hstart
  cases hstart with
  | nil hs =>
    rw [hs, List.takeWhile_nil, hempty]
    rfl
  | @word c cs _ _ hs hc =>
    rw [hs, qualified?, List.takeWhile_cons_of_pos hc, List.dropWhile_cons_of_pos hc]
    cases qualifier? (c :: cs.takeWhile isTypePart) with
    | none => rfl
    | some repeated =>
      simp only [Option.bind_some]
      rw [tokensFrom_behindWord (unqualified?_tokensFrom repeated) (fun _ => readUnqualified?_of_head repeated)
        fun _ => of_mem_head?_dropWhile]
      cases skipSomeBlanks? (cs.dropWhile isTypePart) <;> rfl
  | @mark c _ _ _ hs hc =>
    have hmark : qualifier? [c] = none := by simp [qualifier?]
    rw [hs, qualified?, hmark, List.takeWhile_cons_of_neg (by simp [hc]), hempty]
    rfl

theorem readField?_eq (s : List Char) : readField? s =
    ((readQualifier? (skipBlanks s)).bind fun q => readUnqualified? q.1 q.2).or
      (readUnqualified? false (skipBlanks s)) := by
  rw [readField?]
  split
  · next p hp => rw [hp, Option.some_or]
  · next hp => rw [hp, Option.none_or]

/-- A declaration is read from the tokens of a text just as it is from the text. -/
theorem declaration?_tokensFrom (apart first : Bool) (s : List Char) :
    declaration? (tokensFrom isTypePart apart first s) =
      (readField? s).map (Prod.map id (tokensFrom isTypePart false false)) := by
  rw [declaration?, qualified?_tokensFrom, unqualified?_tokensFrom, readField?_eq, Option.map_or]

/-! ## Fields of a body -/

/-- A token is on one line. -/
theorem no_break_of_leads {c : Char} {w s : List Char} (h : Leads isTypePart (c :: w) s) : '\n' ∉ w := by
  cases h with
  | word _ hword _ => exact fun h => absurd (List.all_eq_true.1 hword _ (List.mem_cons_of_mem c h)) (by decide)
  | mark => exact List.not_mem_nil

/-- The fields found in a text are those that its tokens declare. -/
theorem scanFields_eq (apart first : Bool) (s : List Char) :
    scanFields first s = declarations (tokensFrom isTypePart apart first s) := by
  induction h : s.length using Nat.strongRecOn generalizing s apart first with
  | _ n ih =>
    subst h
    cases s with
    | nil => rw [scanFields, tokensFrom_nil, declarations]
    | cons c cs =>
      by_cases hblank : Text.isBlank c = true
      · rw [tokensFrom_blank hblank, ← ih cs.length (by simp) _ _ cs rfl]
        cases first with
        | true => exact scanFields_blank hblank cs
        | false => exact scanFields_false_cons c cs
      · obtain ⟨w, r, rfl, hw⟩ := exists_leads isTypePart (Bool.eq_false_iff.2 hblank) cs
        have hc : (c == '\n') = false := beq_false_of_ne (by rintro rfl; revert hblank; decide)
        have hnext : scanFields false (w ++ r) = declarations (tokensFrom isTypePart false false r) := by
          rw [scanFields_false_append (no_break_of_leads hw), ih r.length hw.length_lt _ _ r rfl]
        have hread := declaration?_tokensFrom apart first (c :: (w ++ r))
        have htokens := tokensFrom_of_leads hw apart first
        rw [List.cons_append] at htokens
        rw [htokens] at hread ⊢
        cases first with
        | false => rw [scanFields_false_cons, hc, hnext, declarations_cons fun h => by cases h]
        | true =>
          cases hfield : readField? (c :: (w ++ r)) with
          | none =>
            rw [hfield] at hread
            rw [scanFields_cons_of_none hfield, hc, hnext, declarations_cons fun _ => hread]
          | some p =>
            rw [hfield] at hread
            rw [scanFields_of_readField? hfield, declarations_of_declaration? rfl hread,
              ih p.2.length (length_readField? hfield) false _ p.2 rfl]
            rfl

/-- The fields of a message body are those that its own tokens declare, each name once. -/
theorem bodyFields_eq (body : List Char) :
    Document.bodyFields body = firstOfEachName (declarations (joined (ownTokens body))) := by
  rw [Document.bodyFields, fields, scanFields_eq true, tokensFrom_own]

end LuaStubs.Proto
