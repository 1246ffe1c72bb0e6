import Mathlib.Data.List.Forall2
import LuaStubs.Json.Reader
import LuaStubs.Json.Writer
import LuaStubs.Proofs.Json.Numeral

/-!
# What JSON text denotes

A text of JSON denotes a datum (`Datum.ofText`), which may be nested to any depth
and in which numbers stay as they are written. White space between tokens is of
no account: whatever stands between the entries of the containers in the text of
a value, the text denotes the datum of the value (`Denotes`). So the text on one
line and the indented one denote the same (`Value.ofText_compact`,
`Value.ofText_indented`).
-/

namespace LuaStubs.Json

/-! ## Data -/

/-- What a text denotes. Numbers are kept as they are written, and objects with all of their members. -/
inductive Datum where
  | null
  | bool (b : Bool)
  | number (literal : String)
  | string (s : String)
  | array (items : List Datum)
  | object (members : List (String × Datum))
  deriving Inhabited, Repr

/-- What has been read of a text, where `rest` is left. -/
def readPart (s rest : List Char) : String := String.ofList (s.take (s.length - rest.length))

/-- Adds one more member. -/
def appendEntry {α : Type} (value : Reader α) (acc : Entries α) (key : String) : Except Fault (Reader (Entries α)) :=
  .ok fun s => do
    let (v, s) ← value s
    .ok (acc ++ [(key, v)], s)

/-- Reads a datum. -/
def readDatum : (fuel : Nat) → Reader Datum
  | 0, s => .error (unexpected s)
  | fuel + 1, s =>
    match skipSpace s with
    | [] => .error .truncated
    | 'n' :: rest => do
      let rest ← readWord ['u', 'l', 'l'] rest
      .ok (.null, rest)
    | 't' :: rest => do
      let rest ← readWord ['r', 'u', 'e'] rest
      .ok (.bool true, rest)
    | 'f' :: rest => do
      let rest ← readWord ['a', 'l', 's', 'e'] rest
      .ok (.bool false, rest)
    | '"' :: rest => do
      let (text, rest) ← readString rest
      .ok (.string (String.ofList text), rest)
    | '[' :: rest => do
      let (items, rest) ← readItems (readDatum fuel) fuel true rest
      .ok (.array items, rest)
    | '\x7b' :: rest => do
      let (members, rest) ← readMembers (appendEntry (readDatum fuel)) fuel true [] rest
      .ok (.object members, rest)
    | '-' :: digits => do
      let rest ← skipNumber digits
      .ok (.number (readPart ('-' :: digits) rest), rest)
    | c :: digits =>
      if c.isDigit then do
        let rest ← skipNumber (c :: digits)
        .ok (.number (readPart (c :: digits) rest), rest)
      else .error .malformed

/-- The datum that a text denotes. -/
def Datum.ofText (text : String) : Except Fault Datum := do
  let s := text.toList
  readEnd (← readDatum (s.length + 1) s)

mutual

/-- A value as a datum. -/
def Value.datum : Value → Datum
  | .null => .null
  | .bool b => .bool b
  | .number n => .number n.text
  | .string s => .string s
  | .array items => .array (datumItems items)
  | .object members => .object (datumMembers members)

/-- Values as data. -/
def Value.datumItems : List Value → List Datum
  | [] => []
  | v :: vs => v.datum :: datumItems vs

/-- Members with data. -/
def Value.datumMembers : List (String × Value) → List (String × Datum)
  | [] => []
  | (k, v) :: rest => (k, v.datum) :: datumMembers rest

end

/-! ## Strings -/

theorem hexQuad?_control : ∀ n < 32, hexQuad? '0' '0' (Nat.digitChar (n / 16)) (Nat.digitChar (n % 16)) = some n := by
  decide

theorem readString_controlEscape {c : Char} (hc : c.toNat < 32) (s : List Char) :
    readString (controlEscape c ++ s) = consTo c (readString s) := by
  rw [controlEscape.eq_def]
  split
  · rfl
  · rfl
  · rfl
  · rfl
  · rfl
  · have hquad := hexQuad?_control _ hc
    have hlow : isLowSurrogate c.toNat = false := by
      simp only [isLowSurrogate, Bool.and_eq_false_iff, decide_eq_false_iff_not]
      omega
    have hhigh : isHighSurrogate c.toNat = false := by
      simp only [isHighSurrogate, Bool.and_eq_false_iff, decide_eq_false_iff_not]
      omega
    simp only [List.cons_append, List.nil_append, readString, hquad, hlow, hhigh, Bool.false_eq_true, if_false,
      Char.ofNat_toNat]

/-- A character is read back from how it stands in a string. -/
theorem readString_writeChar (c : Char) (s : List Char) : readString (writeChar c ++ s) = consTo c (readString s) := by
  rw [writeChar]
  split
  · next hc =>
    subst hc
    rfl
  · next hquote =>
    split
    · next hc =>
      subst hc
      rfl
    · next hbackslash =>
      split
      · next hcontrol => exact readString_controlEscape hcontrol s
      · next hvisible =>
        rw [List.singleton_append, readString, if_neg hvisible]
        all_goals simp_all

theorem readString_flatMap_writeChar (cs rest : List Char) :
    readString (cs.flatMap writeChar ++ '"' :: rest) = .ok (cs, rest) := by
  induction cs with
  | nil => rfl
  | cons c cs ih => rw [List.flatMap_cons, List.append_assoc, readString_writeChar, ih, consTo]

/-! ## White space -/

/-- A text of white space only, or none at all. -/
def White (s : List Char) : Prop := ∀ c ∈ s, isSpace c = true

/-- A text starts with a token that does not end an array. -/
def Starts (t : List Char) : Prop := ∃ c cs, t = c :: cs ∧ isSpace c = false ∧ c ≠ ']'

theorem skipSpace_append {w : List Char} (hw : White w) (s : List Char) : skipSpace (w ++ s) = skipSpace s :=
  List.dropWhile_append_of_pos hw

theorem skipSpace_cons {c : Char} (hc : isSpace c = false) (s : List Char) : skipSpace (c :: s) = c :: s :=
  List.dropWhile_cons_of_neg (by simp [hc])

theorem Starts.skipSpace {t : List Char} (h : Starts t) (s : List Char) : skipSpace (t ++ s) = t ++ s := by
  obtain ⟨c, cs, rfl, hc, -⟩ := h
  exact skipSpace_cons hc _

/-! ## Containers -/

/-- The inside of a container: its entries, each with a text before it, and another text behind the last one. -/
def inside (sep last : List Char) : List (List Char) → List Char
  | [] => []
  | texts => sep ++ withCommas sep texts ++ last

/-- The entries behind the first one of a container. -/
def furtherEntries (sep : List Char) (texts : List (List Char)) : List Char := texts.flatMap fun t => ',' :: sep ++ t

theorem withCommas_cons (sep t : List Char) (ts : List (List Char)) :
    withCommas sep (t :: ts) = t ++ furtherEntries sep ts := by
  induction ts generalizing t with
  | nil => simp [withCommas, furtherEntries]
  | cons t' ts ih => simp [withCommas, furtherEntries, ih]

theorem inside_cons (sep last t : List Char) (ts : List (List Char)) :
    inside sep last (t :: ts) = sep ++ (t ++ (furtherEntries sep ts ++ last)) := by
  simp [inside, withCommas_cons]

theorem furtherEntries_cons_append (sep last t : List Char) (ts : List (List Char)) (s : List Char) :
    furtherEntries sep (t :: ts) ++ last ++ s = ',' :: (sep ++ (t ++ (furtherEntries sep ts ++ last ++ s))) := by
  simp [furtherEntries]

/-- The inside of a container starts with its first entry, where white space is passed over. -/
theorem skipSpace_inside {sep t : List Char} (hsep : White sep) (ht : ∀ s, skipSpace (t ++ s) = t ++ s)
    (last : List Char) (ts : List (List Char)) (s : List Char) :
    skipSpace (inside sep last (t :: ts) ++ s) = t ++ (furtherEntries sep ts ++ last ++ s) := by
  rw [inside_cons, List.append_assoc, skipSpace_append hsep, List.append_assoc, ht]

theorem delimited_furtherEntries {sep last s : List Char} {closing : Char} (hlast : White last)
    (hclosing : closing = ']' ∨ closing = '\x7d') (ts : List (List Char)) :
    Delimited (furtherEntries sep ts ++ last ++ closing :: s) := by
  rintro c hc
  cases ts with
  | cons t ts => exact .inr (.inl (Option.some.inj hc).symm)
  | nil =>
    cases last with
    | cons w last =>
      obtain rfl := Option.some.inj hc
      exact .inl (hlast w (List.mem_cons_self ..))
    | nil =>
      obtain rfl := Option.some.inj hc
      exact .inr (.inr hclosing)

/-- A text, wherever it stands, denotes a datum. -/
structure Denotes (t : List Char) (d : Datum) : Prop where
  starts : Starts t
  -- A container is longer than what it contains, so the length of a text is fuel enough.
  reads : ∀ fuel s, t.length ≤ fuel → Delimited s → readDatum fuel (t ++ s) = .ok (d, s)

theorem Denotes.ne_nil {t : List Char} {d : Datum} (h : Denotes t d) : t ≠ [] := by
  obtain ⟨c, cs, rfl, -, -⟩ := h.starts
  exact List.cons_ne_nil _ _

/-- White space in front of a datum is passed over. -/
theorem Denotes.reads_gap {t gap : List Char} {d : Datum} (h : Denotes t d) (hgap : White gap) {size : Nat}
    (hsize : t.length ≤ size) {s : List Char} (hs : Delimited s) : readDatum size (gap ++ (t ++ s)) = .ok (d, s) := by
  have hread := h.reads size s hsize hs
  obtain ⟨c, cs, rfl, -, -⟩ := h.starts
  obtain ⟨size, rfl⟩ := Nat.exists_eq_succ_of_ne_zero (Nat.ne_zero_of_lt hsize)
  rw [readDatum] at hread ⊢
  rw [skipSpace_append hgap]
  exact hread

section Items

variable {α : Type} {item : Reader α} {fuel : Nat} {first : Bool} {s s₁ s₂ r : List Char} {y : α} {ys : List α}

theorem readItems_nil (hs : skipSpace s = ']' :: r) : readItems item (fuel + 1) first s = .ok ([], r) := by
  simp only [readItems, hs]

theorem readItems_cons (hs : ∀ rest, skipSpace s ≠ ']' :: rest) (hcomma : readComma first (skipSpace s) = .ok s₁)
    (hitem : item s₁ = .ok (y, s₂)) (hitems : readItems item fuel false s₂ = .ok (ys, r)) :
    readItems item (fuel + 1) first s = .ok (y :: ys, r) := by
  rw [readItems]
  dsimp only
  split
  · next hclosing => exact absurd hclosing (hs _)
  · simp only [hcomma, hitem, hitems, bind, Except.bind]

end Items

section Members

variable {σ : Type} {member : σ → String → Except Fault (Reader σ)} {value : Reader σ} {acc acc' x : σ} {fuel : Nat}
  {first : Bool} {key s s₁ s₂ s₃ s₄ r : List Char}

theorem readMembers_nil (hs : skipSpace s = '\x7d' :: r) : readMembers member (fuel + 1) first acc s = .ok (acc, r) := by
  simp only [readMembers, hs]

theorem readMembers_cons (hs : ∀ rest, skipSpace s ≠ '\x7d' :: rest)
    (hcomma : readComma first (skipSpace s) = .ok ('"' :: s₁)) (hkey : readString s₁ = .ok (key, s₂))
    (hmember : member acc (String.ofList key) = .ok value) (hcolon : readColon s₂ = .ok s₃)
    (hvalue : value s₃ = .ok (acc', s₄)) (hmembers : readMembers member fuel false acc' s₄ = .ok (x, r)) :
    readMembers member (fuel + 1) first acc s = .ok (x, r) := by
  rw [readMembers]
  dsimp only
  split
  · next hclosing => exact absurd hclosing (hs _)
  · simp only [hcomma, hkey, hmember, hcolon, hvalue, hmembers, bind, Except.bind]

end Members

variable {sep last : List Char} {texts : List (List Char)}

theorem readComma_comma (s : List Char) : readComma false (',' :: s) = .ok (skipSpace s) := rfl

theorem readItems_furtherEntries {data : List Datum} (h : List.Forall₂ Denotes texts data) (hsep : White sep)
    (hlast : White last) {size fuel : Nat} (hsize : ∀ t ∈ texts, t.length ≤ size) (hfuel : texts.length < fuel)
    (s : List Char) :
    readItems (readDatum size) fuel false (furtherEntries sep texts ++ last ++ ']' :: s) = .ok (data, s) := by
  induction h generalizing fuel with
  | nil =>
    obtain ⟨fuel, rfl⟩ := Nat.exists_eq_succ_of_ne_zero (Nat.ne_zero_of_lt hfuel)
    refine readItems_nil ?_
    rw [furtherEntries, List.flatMap_nil, List.nil_append, skipSpace_append hlast]
    rfl
  | @cons t d texts data ht _ ih =>
    obtain ⟨fuel, rfl⟩ := Nat.exists_eq_succ_of_ne_zero (Nat.ne_zero_of_lt hfuel)
    have hread := ht.reads size (furtherEntries sep texts ++ last ++ ']' :: s) (hsize t (List.mem_cons_self ..))
      (delimited_furtherEntries hlast (.inl rfl) texts)
    have hrest := ih (fun t ht => hsize t (List.mem_cons_of_mem _ ht)) (Nat.lt_of_succ_lt_succ hfuel)
    rw [furtherEntries_cons_append]
    refine readItems_cons ?_ ?_ hread hrest
    · rw [skipSpace_cons (by decide)]
      exact nofun
    · rw [skipSpace_cons (by decide), readComma_comma, skipSpace_append hsep, ht.starts.skipSpace]

/-- The inside of an array is read to its end. -/
theorem readItems_inside {data : List Datum} (h : List.Forall₂ Denotes texts data) (hsep : White sep)
    (hlast : White last) {size fuel : Nat} (hsize : ∀ t ∈ texts, t.length ≤ size) (hfuel : texts.length < fuel)
    (s : List Char) :
    readItems (readDatum size) fuel true (inside sep last texts ++ ']' :: s) = .ok (data, s) := by
  obtain ⟨fuel, rfl⟩ := Nat.exists_eq_succ_of_ne_zero (Nat.ne_zero_of_lt hfuel)
  cases h with
  | nil => exact readItems_nil rfl
  | @cons t d texts data ht htexts =>
    have hread := ht.reads size (furtherEntries sep texts ++ last ++ ']' :: s) (hsize t (List.mem_cons_self ..))
      (delimited_furtherEntries hlast (.inl rfl) texts)
    have hrest := readItems_furtherEntries htexts hsep hlast (fun t ht => hsize t (List.mem_cons_of_mem _ ht))
      (Nat.lt_of_succ_lt_succ hfuel) s
    have hskip := skipSpace_inside hsep ht.starts.skipSpace last texts (']' :: s)
    refine readItems_cons ?_ (congrArg Except.ok hskip) hread hrest
    rw [hskip]
    obtain ⟨c, cs, rfl, -, hc⟩ := ht.starts
    exact fun rest heq => hc (List.cons.inj heq).1

/-- A text denotes a member: its key, and behind a colon the text of its datum. -/
def DenotesMember (t : List Char) (m : String × Datum) : Prop :=
  ∃ gap value, White gap ∧ Denotes value m.2 ∧ t = writeString m.1 ++ ':' :: (gap ++ value)

/-- One member more is read, wherever a member is due. -/
theorem readMembers_member {t : List Char} {m : String × Datum} (ht : DenotesMember t m) {size fuel : Nat}
    (hsize : t.length ≤ size) {first : Bool} {s s' r : List Char} {acc x : Entries Datum} (hs' : Delimited s')
    (hs : ∀ rest, skipSpace s ≠ '\x7d' :: rest) (hcomma : readComma first (skipSpace s) = .ok (t ++ s'))
    (hrest : readMembers (appendEntry (readDatum size)) fuel false (acc ++ [m]) s' = .ok (x, r)) :
    readMembers (appendEntry (readDatum size)) (fuel + 1) first acc s = .ok (x, r) := by
  obtain ⟨gap, value, hgap, hvalue, rfl⟩ := ht
  have hlength : value.length ≤ size := by
    simp only [List.length_append, List.length_cons] at hsize
    omega
  have hread := hvalue.reads size s' hlength hs'
  have hkey : readString (m.1.toList.flatMap writeChar ++ '"' :: (':' :: (gap ++ (value ++ s')))) =
      .ok (m.1.toList, ':' :: (gap ++ (value ++ s'))) := readString_flatMap_writeChar _ _
  have hcomma' : readComma first (skipSpace s) =
      .ok ('"' :: (m.1.toList.flatMap writeChar ++ '"' :: (':' :: (gap ++ (value ++ s'))))) := by
    rw [hcomma, writeString]
    simp
  refine readMembers_cons hs hcomma' hkey rfl rfl ?_ hrest
  simp only [hvalue.reads_gap hgap hlength hs', String.ofList_toList, bind, Except.bind]

theorem DenotesMember.exists_cons {t : List Char} {m : String × Datum} (h : DenotesMember t m) :
    ∃ cs, t = '"' :: cs := by
  obtain ⟨gap, value, -, -, rfl⟩ := h
  exact ⟨_, rfl⟩

theorem DenotesMember.ne_nil {t : List Char} {m : String × Datum} (h : DenotesMember t m) : t ≠ [] := by
  obtain ⟨cs, rfl⟩ := h.exists_cons
  exact List.cons_ne_nil _ _

theorem DenotesMember.skipSpace {t : List Char} {m : String × Datum} (h : DenotesMember t m) (s : List Char) :
    skipSpace (t ++ s) = t ++ s := by
  obtain ⟨cs, rfl⟩ := h.exists_cons
  exact skipSpace_cons (by decide) _

theorem readMembers_furtherEntries {members : Entries Datum} (h : List.Forall₂ DenotesMember texts members)
    (hsep : White sep) (hlast : White last) {size fuel : Nat} (hsize : ∀ t ∈ texts, t.length ≤ size)
    (hfuel : texts.length < fuel) (acc : Entries Datum) (s : List Char) :
    readMembers (appendEntry (readDatum size)) fuel false acc (furtherEntries sep texts ++ last ++ '\x7d' :: s) =
      .ok (acc ++ members, s) := by
  induction h generalizing fuel acc with
  | nil =>
    obtain ⟨fuel, rfl⟩ := Nat.exists_eq_succ_of_ne_zero (Nat.ne_zero_of_lt hfuel)
    rw [List.append_nil]
    refine readMembers_nil ?_
    rw [furtherEntries, List.flatMap_nil, List.nil_append, skipSpace_append hlast]
    rfl
  | @cons t m texts members ht _ ih =>
    obtain ⟨fuel, rfl⟩ := Nat.exists_eq_succ_of_ne_zero (Nat.ne_zero_of_lt hfuel)
    have hrest := ih (fun t ht => hsize t (List.mem_cons_of_mem _ ht)) (Nat.lt_of_succ_lt_succ hfuel) (acc ++ [m])
    rw [List.append_assoc acc] at hrest
    rw [furtherEntries_cons_append]
    refine readMembers_member ht (hsize t (List.mem_cons_self ..)) (delimited_furtherEntries hlast (.inr rfl) texts)
      ?_ ?_ hrest
    · rw [skipSpace_cons (by decide)]
      exact nofun
    · rw [skipSpace_cons (by decide), readComma_comma, skipSpace_append hsep, ht.skipSpace]

/-- The inside of an object is read to its end. -/
theorem readMembers_inside {members : Entries Datum} (h : List.Forall₂ DenotesMember texts members) (hsep : White sep)
    (hlast : White last) {size fuel : Nat} (hsize : ∀ t ∈ texts, t.length ≤ size) (hfuel : texts.length < fuel)
    (s : List Char) :
    readMembers (appendEntry (readDatum size)) fuel true [] (inside sep last texts ++ '\x7d' :: s) =
      .ok (members, s) := by
  obtain ⟨fuel, rfl⟩ := Nat.exists_eq_succ_of_ne_zero (Nat.ne_zero_of_lt hfuel)
  cases h with
  | nil => exact readMembers_nil rfl
  | @cons t m texts members ht htexts =>
    have hrest := readMembers_furtherEntries htexts hsep hlast (fun t ht => hsize t (List.mem_cons_of_mem _ ht))
      (Nat.lt_of_succ_lt_succ hfuel) [m] s
    have hskip := skipSpace_inside hsep ht.skipSpace last texts ('\x7d' :: s)
    refine readMembers_member ht (hsize t (List.mem_cons_self ..)) (delimited_furtherEntries hlast (.inr rfl) texts)
      ?_ (congrArg Except.ok hskip) hrest
    rw [hskip]
    obtain ⟨cs, rfl⟩ := ht.exists_cons
    exact nofun

/-! ## Values -/

theorem le_length_furtherEntries (sep : List Char) (ts : List (List Char)) :
    ts.length ≤ (furtherEntries sep ts).length ∧ ∀ t ∈ ts, t.length ≤ (furtherEntries sep ts).length := by
  induction ts with
  | nil => simp
  | cons t ts ih =>
    obtain ⟨hcount, hlength⟩ := ih
    have hcons : (furtherEntries sep (t :: ts)).length = sep.length + t.length + 1 + (furtherEntries sep ts).length := by
      simp [furtherEntries]
      omega
    refine ⟨by rw [hcons, List.length_cons]; omega, fun t' ht' => ?_⟩
    rcases List.mem_cons.1 ht' with rfl | ht'
    · omega
    · have := hlength t' ht'
      omega

/-- The length of a container without a bracket is fuel enough to count its entries and to read each. -/
theorem fuel_inside (hne : ∀ t ∈ texts, t ≠ []) {opening closing : Char} {fuel : Nat}
    (hfuel : (opening :: inside sep last texts ++ [closing]).length ≤ fuel + 1) :
    texts.length < fuel ∧ ∀ t ∈ texts, t.length ≤ fuel := by
  simp only [List.length_append, List.length_cons, List.length_nil] at hfuel
  cases texts with
  | nil => simp only [List.length_nil, List.not_mem_nil, false_imp_iff, implies_true, and_true]; omega
  | cons t ts =>
    obtain ⟨hcount, hlength⟩ := le_length_furtherEntries sep ts
    have hpos : 0 < t.length := List.length_pos_iff.2 (hne t (List.mem_cons_self ..))
    have hcons : (inside sep last (t :: ts)).length =
        sep.length + (t.length + ((furtherEntries sep ts).length + last.length)) := by
      simp [inside_cons]
    refine ⟨by rw [List.length_cons]; omega, fun t' ht' => ?_⟩
    rcases List.mem_cons.1 ht' with rfl | ht'
    · omega
    · have := hlength t' ht'
      omega

theorem ne_nil_of_forall₂ {β : Type} {R : List Char → β → Prop} (hR : ∀ t y, R t y → t ≠ []) {ys : List β}
    (h : List.Forall₂ R texts ys) : ∀ t ∈ texts, t ≠ [] := by
  induction h with
  | nil => exact nofun
  | cons ht _ ih => exact List.forall_mem_cons.2 ⟨hR _ _ ht, ih⟩

theorem denotes_array {data : List Datum} (h : List.Forall₂ Denotes texts data) (hsep : White sep)
    (hlast : White last) : Denotes ('[' :: inside sep last texts ++ [']']) (.array data) where
  starts := ⟨'[', _, rfl, by decide, by decide⟩
  reads := by
    intro fuel s hfuel hs
    obtain ⟨fuel, rfl⟩ := Nat.exists_eq_succ_of_ne_zero (Nat.ne_zero_of_lt hfuel)
    obtain ⟨hmany, hsize⟩ := fuel_inside (ne_nil_of_forall₂ (fun _ _ => Denotes.ne_nil) h) hfuel
    have hread := readItems_inside h hsep hlast hsize hmany s
    rw [readDatum, List.append_assoc, List.cons_append, skipSpace_cons (by decide)]
    simp only [List.singleton_append, hread, bind, Except.bind]

theorem denotes_object {members : Entries Datum} (h : List.Forall₂ DenotesMember texts members) (hsep : White sep)
    (hlast : White last) : Denotes ('\x7b' :: inside sep last texts ++ ['\x7d']) (.object members) where
  starts := ⟨'\x7b', _, rfl, by decide, by decide⟩
  reads := by
    intro fuel s hfuel hs
    obtain ⟨fuel, rfl⟩ := Nat.exists_eq_succ_of_ne_zero (Nat.ne_zero_of_lt hfuel)
    obtain ⟨hmany, hsize⟩ := fuel_inside (ne_nil_of_forall₂ (fun _ _ => DenotesMember.ne_nil) h) hfuel
    have hread := readMembers_inside h hsep hlast hsize hmany s
    rw [readDatum, List.append_assoc, List.cons_append, skipSpace_cons (by decide)]
    simp only [List.singleton_append, hread, bind, Except.bind]

theorem denotes_string (s : String) : Denotes (writeString s) (.string s) where
  starts := ⟨'"', _, rfl, by decide, by decide⟩
  reads := by
    intro fuel rest hfuel _
    have hread := readString_flatMap_writeChar s.toList rest
    rw [writeString] at hfuel ⊢
    obtain ⟨fuel, rfl⟩ := Nat.exists_eq_succ_of_ne_zero (Nat.ne_zero_of_lt hfuel)
    rw [readDatum, List.append_assoc, List.cons_append, skipSpace_cons (by decide)]
    simp only [List.singleton_append, hread, bind, Except.bind, String.ofList_toList]

theorem readPart_append (t s : List Char) : readPart (t ++ s) s = String.ofList t := by
  simp [readPart]

theorem readDatum_numeral {t s : List Char} (ht : Numeral t) (hs : Delimited s) (fuel : Nat) :
    readDatum (fuel + 1) (t ++ s) = .ok (.number (String.ofList t), s) := by
  have hread := skipNumber_numeral ht hs
  have hpart := readPart_append t s
  obtain ⟨c, cs, rfl, hc⟩ := ht.exists_cons
  rw [List.cons_append] at hread hpart ⊢
  rw [readDatum, skipSpace_cons (not_delimiter_of_isDigit hc).1]
  split <;> rename_i heq <;> cases heq
  -- A digit starts none of the other data.
  any_goals contradiction
  simp only [hc, if_true, hread, hpart, bind, Except.bind]

theorem readDatum_minus_numeral {t s : List Char} (ht : Numeral t) (hs : Delimited s) (fuel : Nat) :
    readDatum (fuel + 1) ('-' :: t ++ s) = .ok (.number (String.ofList ('-' :: t)), s) := by
  have hread := skipNumber_numeral ht hs
  have hpart := readPart_append ('-' :: t) s
  rw [List.cons_append] at hpart ⊢
  rw [readDatum, skipSpace_cons (by decide)]
  simp only [hread, hpart, bind, Except.bind]

theorem denotes_number (n : Number) : Denotes n.text.toList (.number n.text) := by
  obtain ⟨t, ht, htext⟩ := n.exists_numeral
  rw [← String.ofList_toList (s := n.text)]
  rcases htext with htext | htext
  · rw [htext, String.toList_ofList]
    refine ⟨?_, fun fuel s hfuel hs => ?_⟩
    · obtain ⟨c, cs, rfl, hc⟩ := ht.exists_cons
      obtain ⟨hspace, hnot⟩ := not_delimiter_of_isDigit hc
      refine ⟨c, cs, rfl, hspace, ?_⟩
      rintro rfl
      exact absurd hnot (by decide)
    · obtain ⟨c, cs, rfl, -⟩ := ht.exists_cons
      obtain ⟨fuel, rfl⟩ := Nat.exists_eq_succ_of_ne_zero (Nat.ne_zero_of_lt hfuel)
      exact readDatum_numeral ht hs fuel
  · rw [htext, String.toList_ofList]
    refine ⟨⟨'-', t, rfl, by decide, by decide⟩, fun fuel s hfuel hs => ?_⟩
    obtain ⟨fuel, rfl⟩ := Nat.exists_eq_succ_of_ne_zero (Nat.ne_zero_of_lt hfuel)
    exact readDatum_minus_numeral ht hs fuel

theorem denotes_null : Denotes ['n', 'u', 'l', 'l'] .null where
  starts := ⟨'n', _, rfl, by decide, by decide⟩
  reads
    | _ + 1, _, _, _ => rfl

theorem denotes_true : Denotes ['t', 'r', 'u', 'e'] (.bool true) where
  starts := ⟨'t', _, rfl, by decide, by decide⟩
  reads
    | _ + 1, _, _, _ => rfl

theorem denotes_false : Denotes ['f', 'a', 'l', 's', 'e'] (.bool false) where
  starts := ⟨'f', _, rfl, by decide, by decide⟩
  reads
    | _ + 1, _, _, _ => rfl

/-! ## Layouts -/

theorem inside_nil_nil (texts : List (List Char)) : inside [] [] texts = withCommas [] texts := by
  cases texts <;> simp [inside, withCommas]

theorem white_nil : White [] := nofun

namespace Value

mutual

/-- A value on one line denotes its datum. -/
theorem denotes_compactChars : ∀ v : Value, Denotes v.compactChars v.datum
  | .null => denotes_null
  | .bool true => denotes_true
  | .bool false => denotes_false
  | .number n => denotes_number n
  | .string s => denotes_string s
  | .array items => by
    have h := denotes_array (denotes_compactItems items) white_nil white_nil
    rwa [inside_nil_nil] at h
  | .object members => by
    have h := denotes_object (denotes_compactMembers members) white_nil white_nil
    rwa [inside_nil_nil] at h

theorem denotes_compactItems : ∀ vs : List Value, List.Forall₂ Denotes (compactItems vs) (datumItems vs)
  | [] => .nil
  | v :: vs => .cons (denotes_compactChars v) (denotes_compactItems vs)

theorem denotes_compactMembers :
    ∀ ms : List (String × Value), List.Forall₂ DenotesMember (compactMembers ms) (datumMembers ms)
  | [] => .nil
  | (_, v) :: ms => .cons ⟨[], v.compactChars, white_nil, denotes_compactChars v, rfl⟩ (denotes_compactMembers ms)

end

theorem white_newLine (level : Nat) : White (newLine level) := by
  intro c hc
  rcases List.mem_cons.1 hc with rfl | hc
  · rfl
  · rw [List.eq_of_mem_replicate hc]
    rfl

theorem block_eq (opening closing : Char) (level : Nat) (texts : List (List Char)) :
    block opening closing level texts =
      opening :: inside (newLine (level + 1)) (newLine level) texts ++ [closing] := by
  cases texts <;> simp [block, inside]

mutual

/-- So does a value with one entry a line, at any level of indentation. -/
theorem denotes_indentedChars : ∀ (v : Value) (level : Nat), Denotes (v.indentedChars level) v.datum
  | .null, _ => denotes_null
  | .bool true, _ => denotes_true
  | .bool false, _ => denotes_false
  | .number n, _ => denotes_number n
  | .string s, _ => denotes_string s
  | .array items, level => by
    rw [indentedChars, block_eq]
    exact denotes_array (denotes_indentedItems items (level + 1)) (white_newLine _) (white_newLine _)
  | .object members, level => by
    rw [indentedChars, block_eq]
    exact denotes_object (denotes_indentedMembers members (level + 1)) (white_newLine _) (white_newLine _)

theorem denotes_indentedItems :
    ∀ (vs : List Value) (level : Nat), List.Forall₂ Denotes (indentedItems level vs) (datumItems vs)
  | [], _ => .nil
  | v :: vs, level => .cons (denotes_indentedChars v level) (denotes_indentedItems vs level)

theorem denotes_indentedMembers : ∀ (ms : List (String × Value)) (level : Nat),
    List.Forall₂ DenotesMember (indentedMembers level ms) (datumMembers ms)
  | [], _ => .nil
  | (_, v) :: ms, level =>
    .cons ⟨[' '], v.indentedChars level, by simp [White, isSpace], denotes_indentedChars v level, rfl⟩
      (denotes_indentedMembers ms level)

end

/-- What stands for a datum wherever it stands, stands for it as a whole text. -/
theorem ofText_of_denotes {t : List Char} {d : Datum} (h : Denotes t d) : Datum.ofText (String.ofList t) = .ok d := by
  have hread := h.reads (t.length + 1) [] (Nat.le_succ _) nofun
  rw [List.append_nil] at hread
  rw [Datum.ofText, String.toList_ofList]
  simp only [hread, bind, Except.bind]
  rfl

theorem ofText_compact (v : Value) : Datum.ofText v.compact = .ok v.datum := ofText_of_denotes v.denotes_compactChars

theorem ofText_indented (v : Value) : Datum.ofText v.indented = .ok v.datum :=
  ofText_of_denotes (v.denotes_indentedChars 0)

end Value

end LuaStubs.Json
