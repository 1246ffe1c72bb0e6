import LuaStubs.Lua.Name
import LuaStubs.Proofs.Identifier
import LuaStubs.Text.Word

/-!
# Names in Lua

`isName` says what a name is. A text becomes one in snake case
(`isName_normalize_iff`), behind a lead (`isName_lead_normalize_iff`) or in upper
case (`isName_constantName_iff`) if its characters are parts of names already, but
for the few that become such parts with the change of case. The names of
arguments always are names (`isName_argumentName`).
-/

namespace LuaStubs.Lua

open Text (lower toUpper kelvin capitalSharpS upperToAscii)

/-- The words that the language keeps for itself. -/
def reservedWords : List String :=
  ["and", "break", "do", "else", "elseif", "end", "false", "for", "function", "goto", "if", "in", "local",
   "nil", "not", "or", "repeat", "return", "then", "true", "until", "while"]

/-- Letters, digits and underscores of ASCII that do not start with a digit and are no reserved word. -/
def isName (s : String) : Bool :=
  match s.toList with
  | [] => false
  | c :: cs => Text.isNameStart c && cs.all isNamePart && !reservedWords.contains s

/-- There is a first character, and it is no digit. -/
def startsUndigit (s : List Char) : Bool := s.head?.any fun c => !c.isDigit

/-- A character that is part of a name in lower case. -/
def isLowerPart (c : Char) : Bool := isNamePart c || c == kelvin

/-- A character that is part of a name in upper case. -/
def isUpperPart (c : Char) : Bool := isNamePart c || (kelvin :: capitalSharpS :: upperToAscii).contains c

/-- The text with its first character in lower case. -/
def decapitalize : List Char → List Char
  | [] => []
  | c :: cs => lower c ++ cs

/-- A text that is a name once it is in snake case: there is a first character and it is no digit, all
characters are parts of names in lower case, and with a small initial it is no reserved word. -/
def BecomesName (s : String) : Prop :=
  startsUndigit s.toList = true ∧ s.toList.all isLowerPart = true ∧
    String.ofList (decapitalize s.toList) ∉ reservedWords

/-! ## Names -/

theorem isNamePart_eq (c : Char) : isNamePart c = (Text.isNameStart c || c.isDigit) := by
  rw [isNamePart, Text.isNameStart, Char.isAlphanum, separator, Bool.or_right_comm]

theorem not_isDigit_of_isNameStart {c : Char} (h : Text.isNameStart c = true) : c.isDigit = false := by
  have hascii : c.toNat < 128 := by
    simp only [Text.isNameStart, Bool.or_eq_true, beq_iff_eq] at h
    rcases h with h | rfl
    · exact Text.toNat_lt_of_isAlphanum (by simp [Char.isAlphanum, h])
    · decide
  revert h
  exact Text.of_ascii (p := fun c => Text.isNameStart c = true → c.isDigit = false) (by decide) hascii

theorem isName_iff {s : String} : isName s = true ↔
    startsUndigit s.toList = true ∧ s.toList.all isNamePart = true ∧ s ∉ reservedWords := by
  rw [isName]
  split
  · next hs => simp [hs, startsUndigit]
  · next c cs hs =>
    have hfirst : Text.isNameStart c = true ↔ c.isDigit = false ∧ isNamePart c = true := by
      rw [isNamePart_eq, Bool.or_eq_true]
      refine ⟨fun h => ⟨not_isDigit_of_isNameStart h, .inl h⟩, fun ⟨hdigit, h⟩ => h.resolve_right ?_⟩
      simp [hdigit]
    simp only [hs, startsUndigit, List.head?_cons, Option.any_some, List.all_cons, Bool.and_eq_true, hfirst,
      Bool.not_eq_true', List.contains_eq_mem, decide_eq_false_iff_not, and_assoc]

theorem isName_of_separator {s : String} (h : separator ∈ s.toList) :
    isName s = true ↔ startsUndigit s.toList = true ∧ s.toList.all isNamePart = true := by
  have hwords : ∀ w ∈ reservedWords, separator ∉ w.toList := by decide
  rw [isName_iff, ← and_assoc]
  exact and_iff_left fun hs => hwords s hs h

/-! ## Characters -/

theorem not_isNamePart {c : Char} (h : 128 ≤ c.toNat) : isNamePart c = false := by
  rw [← Bool.not_eq_true]
  intro hpart
  rw [isNamePart, Bool.or_eq_true, beq_iff_eq] at hpart
  rcases hpart with hpart | rfl
  · have hc := Text.toNat_lt_of_isAlphanum hpart
    omega
  · exact absurd h (by decide)

theorem all_isNamePart_eq_false {s : List Char} (h : ∃ x ∈ s, 128 ≤ x.toNat) : s.all isNamePart = false := by
  obtain ⟨x, hx, hle⟩ := h
  exact List.all_eq_false.2 ⟨x, hx, by simp [not_isNamePart hle]⟩

theorem all_isNamePart_lower (c : Char) : (lower c).all isNamePart = isLowerPart c := by
  rcases Nat.lt_or_ge c.toNat 128 with hc | hc
  · exact Text.of_ascii (p := fun c => (lower c).all isNamePart = isLowerPart c) (by decide) hc
  · by_cases hk : c = kelvin
    · subst hk
      decide
    · rw [all_isNamePart_eq_false (Text.exists_lower_beyond_ascii hc hk)]
      simp [isLowerPart, not_isNamePart hc, hk]

theorem all_isNamePart_upper (c : Char) : (toUpper (lower c)).all isNamePart = isUpperPart c := by
  rcases Nat.lt_or_ge c.toNat 128 with hc | hc
  · exact Text.of_ascii (p := fun c => (toUpper (lower c)).all isNamePart = isUpperPart c) (by decide) hc
  · by_cases hs : c ∈ kelvin :: capitalSharpS :: upperToAscii
    · have hall : ((kelvin :: capitalSharpS :: upperToAscii).all fun c =>
          (toUpper (lower c)).all isNamePart == isUpperPart c) = true := by
        decide
      exact eq_of_beq (List.all_eq_true.1 hall c hs)
    · rw [all_isNamePart_eq_false (Text.exists_upper_lower_beyond_ascii hc hs)]
      simp only [isUpperPart, not_isNamePart hc, Bool.false_or, List.contains_eq_mem, hs, decide_false]

/-- A change of case makes no digit and takes none away. -/
theorem head?_lower {c : Char} (h : isLowerPart c = true) :
    (lower c).head?.map Char.isDigit = some c.isDigit := by
  rcases Nat.lt_or_ge c.toNat 128 with hc | hc
  · exact Text.of_ascii (p := fun c => (lower c).head?.map Char.isDigit = some c.isDigit) (by decide) hc
  · rw [isLowerPart, not_isNamePart hc, Bool.false_or, beq_iff_eq] at h
    subst h
    decide

theorem head?_upper {c : Char} (h : isUpperPart c = true) :
    (toUpper (lower c)).head?.map Char.isDigit = some c.isDigit := by
  rcases Nat.lt_or_ge c.toNat 128 with hc | hc
  · exact Text.of_ascii (p := fun c => (toUpper (lower c)).head?.map Char.isDigit = some c.isDigit)
      (by decide) hc
  · rw [isUpperPart, not_isNamePart hc, Bool.false_or, List.contains_iff_mem] at h
    have hall : ((kelvin :: capitalSharpS :: upperToAscii).all fun c =>
        (toUpper (lower c)).head?.map Char.isDigit == some c.isDigit) = true := by
      decide
    exact eq_of_beq (List.all_eq_true.1 hall c h)

/-! ## Snake case

A text in snake case, and that in upper case, are both what `normalizeFrom` makes
of the text with a mapping `f` of its characters behind it.
-/

section Mapped

variable {f : Char → List Char} {part : Char → Bool}

/-- Snake case has parts of names only just if the text has such characters only. -/
theorem all_isNamePart_normalizeFrom (hsep : f separator = [separator])
    (hpart : ∀ c, ((lower c).flatMap f).all isNamePart = part c) (start sep : Bool) (s : List Char) :
    ((normalizeFrom start sep s).flatMap f).all isNamePart = s.all part := by
  have hseppart : part separator = true := by
    rw [← hpart, lower_separator, List.flatMap_singleton, hsep]
    decide
  have hsepall : [separator].all isNamePart = true := by decide
  fun_induction normalizeFrom start sep s with
  | case1 => rfl
  | case2 start cs ih => rw [ih, List.all_cons, hseppart, Bool.true_and]
  | case3 start sep cs hsep' ih =>
    rw [List.flatMap_cons, List.all_append, hsep, hsepall, ih, List.all_cons, hseppart]
  | case4 start sep c cs hc hupper ih =>
    rw [List.flatMap_cons, List.flatMap_append, List.all_append, List.all_append, hsep, hsepall, hpart, ih,
      Bool.true_and, List.all_cons]
  | case5 start sep c cs hc hupper ih =>
    rw [List.flatMap_append, List.all_append, hpart, ih, List.all_cons]

/-- Snake case starts with a digit just if the text does. -/
theorem head?_normalizeFrom (hsep : f separator = [separator])
    (hhead : ∀ c, part c = true → ((lower c).flatMap f).head?.map Char.isDigit = some c.isDigit)
    {s : List Char} (hs : s.all part = true) :
    ((normalizeFrom true false s).flatMap f).head?.map Char.isDigit = s.head?.map Char.isDigit := by
  cases s with
  | nil => rfl
  | cons c cs =>
    rw [List.all_cons, Bool.and_eq_true] at hs
    by_cases hc : c = separator
    · subst hc
      simp [normalizeFrom, hsep]
    · obtain ⟨x, hx, hdigit⟩ := Option.map_eq_some_iff.1 (hhead c hs.1)
      simp [normalizeFrom, hc, hx, hdigit]

end Mapped

theorem startsUndigit_congr {s t : List Char} (h : s.head?.map Char.isDigit = t.head?.map Char.isDigit) :
    startsUndigit s = startsUndigit t := by
  have hany (s : List Char) : startsUndigit s = (s.head?.map Char.isDigit).any not := by
    rw [startsUndigit, Option.any_map]
  rw [hany, hany, h]

/-! ## Reserved words -/

theorem lower_of_isLower {c : Char} (h : c.isLower = true) :
    c ≠ separator ∧ Text.isUpper c = false ∧ lower c = [c] := by
  have hc := Text.toNat_of_isLower h
  revert h
  exact Text.of_ascii (p := fun c => c.isLower = true → c ≠ separator ∧ Text.isUpper c = false ∧ lower c = [c])
    (by decide) (by omega)

theorem isLower_of_lower {c : Char} (hupper : Text.isUpper c = false) (h : (lower c).all Char.isLower = true) :
    c.isLower = true := by
  rcases Nat.lt_or_ge c.toNat 128 with hc | hc
  · revert hupper h
    exact Text.of_ascii (p := fun c => Text.isUpper c = false → (lower c).all Char.isLower = true → c.isLower = true)
      (by decide) hc
  · have hk : c ≠ kelvin := by
      rintro rfl
      exact absurd hupper (by decide)
    obtain ⟨x, hx, hle⟩ := Text.exists_lower_beyond_ascii hc hk
    have hx := Text.toNat_of_isLower (List.all_eq_true.1 h x hx)
    omega

theorem separator_cons_ne {w : List Char} (hw : w.all Char.isLower = true) (t : List Char) : separator :: t ≠ w := by
  rintro rfl
  rw [List.all_cons] at hw
  exact absurd (Bool.and_eq_true_iff.1 hw).1 (by decide)

/-- Behind its first character, only what is in lower case becomes lower-case letters. -/
theorem normalizeFrom_eq_iff {w : List Char} (hw : w.all Char.isLower = true) (s : List Char) :
    normalizeFrom false false s = w ↔ s = w := by
  induction s generalizing w with
  | nil => rfl
  | cons c cs ih =>
    by_cases hc : c.isLower = true
    · obtain ⟨hne, hupper, hlower⟩ := lower_of_isLower hc
      have hcons : normalizeFrom false false (c :: cs) = c :: normalizeFrom false false cs := by
        simp [normalizeFrom, hne, hupper, hlower]
      rw [hcons]
      cases w with
      | nil => simp
      | cons x xs =>
        rw [List.cons.injEq, List.cons.injEq, ih (Bool.and_eq_true_iff.1 hw).2]
    · refine iff_of_false (fun h => ?_) fun h => hc (List.all_eq_true.1 hw c (h ▸ List.mem_cons_self ..))
      rw [normalizeFrom] at h
      split at h
      · exact separator_cons_ne hw _ h
      split at h
      · exact separator_cons_ne hw _ h
      · next hupper =>
        refine hc (isLower_of_lower (by simpa using hupper) ?_)
        rw [← h, List.all_append, Bool.and_eq_true] at hw
        exact hw.1

/-- A text is a word of lower-case letters in snake case just if it is one with its first character in
lower case. -/
theorem normalizeFrom_eq_iff_decapitalize {w : List Char} (hw : w.all Char.isLower = true) (s : List Char) :
    normalizeFrom true false s = w ↔ decapitalize s = w := by
  cases s with
  | nil => rfl
  | cons c cs =>
    by_cases hc : c = separator
    · subst hc
      refine iff_of_false (fun h => ?_) fun h => ?_
      · simp only [normalizeFrom, if_true, Bool.false_eq_true, if_false] at h
        exact separator_cons_ne hw _ h
      · rw [decapitalize, lower_separator] at h
        exact separator_cons_ne hw _ h
    · have hcons : normalizeFrom true false (c :: cs) = lower c ++ normalizeFrom false false cs := by
        simp [normalizeFrom, hc]
      rw [hcons, decapitalize]
      constructor
      · intro h
        rw [← h, List.all_append, Bool.and_eq_true] at hw
        rw [← h, ← (normalizeFrom_eq_iff hw.2 cs).1 rfl]
      · intro h
        rw [← h, List.all_append, Bool.and_eq_true] at hw
        rw [(normalizeFrom_eq_iff hw.2 cs).2 rfl, h]

theorem normalize_mem_reservedWords_iff (s : String) :
    normalize s ∈ reservedWords ↔ String.ofList (decapitalize s.toList) ∈ reservedWords := by
  have hletters : ∀ w ∈ reservedWords, w.toList.all Char.isLower = true := by decide
  have hiff {w : String} (hw : w ∈ reservedWords) :
      normalize s = w ↔ String.ofList (decapitalize s.toList) = w := by
    rw [normalize, ← String.toList_inj, ← String.toList_inj, String.toList_ofList, String.toList_ofList]
    exact normalizeFrom_eq_iff_decapitalize (hletters w hw) s.toList
  constructor
  · intro h
    rw [(hiff h).1 rfl]
    exact h
  · intro h
    rw [(hiff h).2 rfl]
    exact h

/-! ## Generated names -/

theorem all_isNamePart_lowerCase (s : List Char) :
    (normalizeFrom true false s).all isNamePart = s.all isLowerPart := by
  rw [← List.flatMap_singleton' (normalizeFrom true false s)]
  exact all_isNamePart_normalizeFrom rfl (fun c => by rw [List.flatMap_singleton', all_isNamePart_lower]) true false s

theorem all_isNamePart_normalize (s : String) : (normalize s).toList.all isNamePart = s.toList.all isLowerPart := by
  rw [normalize, String.toList_ofList, all_isNamePart_lowerCase]

theorem isName_normalize_iff (s : String) : isName (normalize s) = true ↔ BecomesName s := by
  rw [BecomesName, isName_iff, all_isNamePart_normalize, normalize_mem_reservedWords_iff]
  refine and_congr_left fun ⟨hall, _⟩ => ?_
  rw [startsUndigit_congr (t := s.toList)]
  rw [normalize, String.toList_ofList, ← List.flatMap_singleton' (normalizeFrom true false s.toList)]
  exact head?_normalizeFrom rfl (fun c hc => by rw [List.flatMap_singleton']; exact head?_lower hc) hall

/-- What becomes the rest of a name, in snake case behind a lead that ends with an underscore. -/
theorem isName_lead_normalize_iff {lead : String} (hstart : startsUndigit lead.toList = true)
    (hlead : lead.toList.all isNamePart = true) (hsep : separator ∈ lead.toList) (s : String) :
    isName (lead ++ normalize s) = true ↔ s.toList.all isLowerPart = true := by
  have hfirst : startsUndigit (lead ++ normalize s).toList = true := by
    rw [startsUndigit] at hstart ⊢
    cases hl : lead.toList with
    | nil => rw [hl] at hstart; cases hstart
    | cons c cs =>
      rw [hl] at hstart
      simpa [hl] using hstart
  rw [isName_of_separator (by simp [hsep]), String.toList_append, List.all_append, hlead, Bool.true_and,
    all_isNamePart_normalize, ← String.toList_append]
  exact and_iff_right hfirst

/-- What becomes a name in upper case with an underscore and further parts of a name behind it. -/
theorem isName_constantName_iff {rest : List Char} (hrest : rest.all isNamePart = true) (s : String) :
    isName (constantName s ++ String.ofList (separator :: rest)) = true ↔
      (s.toList.head?.all fun c => !c.isDigit) = true ∧ s.toList.all isUpperPart = true := by
  have hsep : Text.upper separator = [separator] := by decide
  have hall : (constantName s).toList.all isNamePart = s.toList.all isUpperPart := by
    rw [constantName, String.toList_ofList]
    exact all_isNamePart_normalizeFrom hsep all_isNamePart_upper true false _
  rw [isName_of_separator (by simp), String.toList_append, List.all_append, hall, String.toList_ofList,
    List.all_cons, hrest, Bool.and_true, show isNamePart separator = true by decide, Bool.and_true]
  refine and_congr_left fun hpart => ?_
  have hhead : (constantName s).toList.head?.map Char.isDigit = s.toList.head?.map Char.isDigit := by
    rw [constantName, String.toList_ofList]
    exact head?_normalizeFrom hsep (fun c => head?_upper) hpart
  rw [startsUndigit_congr (t := s.toList ++ separator :: rest)]
  · cases s.toList <;> simp [startsUndigit, separator]
  · rw [List.head?_append, List.head?_append]
    cases hs : s.toList.head? with
    | none =>
      rw [hs, Option.map_none, Option.map_eq_none_iff] at hhead
      rw [hhead]
    | some c =>
      rw [hs] at hhead
      obtain ⟨x, hx, hdigit⟩ := Option.map_eq_some_iff.1 hhead
      simp [hx, hdigit]

theorem argumentBase_isName (name : String) :
    startsUndigit (argumentBase name) = true ∧ (argumentBase name).all isNamePart = true := by
  have hall : (normalizeFrom true false (name.toList.filter isNamePart)).all isNamePart = true := by
    rw [all_isNamePart_lowerCase, List.all_eq_true]
    intro c hc
    rw [isLowerPart, (List.mem_filter.1 hc).2, Bool.true_or]
  rw [argumentBase]
  split
  · exact ⟨by decide, by decide⟩
  · next c cs hbase =>
    rw [hbase] at hall
    split
    · exact ⟨rfl, by rw [List.all_cons, hall]; decide⟩
    · next hdigit => exact ⟨by simpa [startsUndigit] using hdigit, hall⟩

/-- The name of an argument is a name, whatever it is made of. -/
theorem isName_argumentName (name : String) (category : Category) : isName (argumentName name category) = true := by
  have hlist : (argumentName name category).toList = argumentBase name ++ separator :: category.luaType.toList :=
    String.toList_ofList
  have htype : category.luaType.toList.all isNamePart = true := by
    cases category <;> decide
  obtain ⟨hstart, hall⟩ := argumentBase_isName name
  rw [isName_of_separator (by simp [hlist]), hlist, List.all_append, hall, List.all_cons, htype]
  refine ⟨?_, by decide⟩
  rw [startsUndigit] at hstart ⊢
  cases hbase : argumentBase name with
  | nil => rw [hbase] at hstart; cases hstart
  | cons c cs =>
    rw [hbase] at hstart
    exact hstart

end LuaStubs.Lua
