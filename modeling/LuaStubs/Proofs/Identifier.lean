import LuaStubs.Identifier
import LuaStubs.Proofs.Text.Case
import Mathlib.Data.List.Chain

/-!
# Snake case as a normal form

`InSnakeCase` says when a text is in snake case. `normalize` makes such texts, and
they are the ones that it keeps (`normalize_eq_self_iff`); all it changes is the
case of characters and the separators (`filter_normalizeFrom`). What is behind a
lead of an identifier is in snake case as well, so that `dropLeads` removes the
lead and changes nothing else (`dropLeads_ofName`).
-/

namespace LuaStubs

open Text (lower isUpper toLower)

/-- Two neighbours in snake case: not both are separators, and an upper-case character stands behind a
separator. -/
def MayFollow (a c : Char) : Prop :=
  ¬ (a = separator ∧ c = separator) ∧ (isUpper c = true → a = separator)

/-- Snake case: all characters are in lower case, separators are single, and an upper-case character
that has no other form stands at the start or behind a separator. -/
structure InSnakeCase (s : List Char) : Prop where
  lower : ∀ c ∈ s, Text.lower c = [c]
  single : ¬ [separator, separator] <:+: s
  opened : ∀ a c, [a, c] <:+: s → isUpper c = true → a = separator

theorem inSnakeCase_iff {s : List Char} : InSnakeCase s ↔ (∀ c ∈ s, lower c = [c]) ∧ s.IsChain MayFollow := by
  rw [List.isChain_iff_forall_rel_of_append_cons_cons]
  constructor
  · intro h
    refine ⟨h.lower, fun a c l₁ l₂ heq => ?_⟩
    have hpair : [a, c] <:+: s := ⟨l₁, l₂, by rw [heq]; simp⟩
    refine ⟨?_, h.opened a c hpair⟩
    rintro ⟨rfl, rfl⟩
    exact h.single hpair
  · rintro ⟨hlower, hchain⟩
    have hpair {a c : Char} (h : [a, c] <:+: s) : MayFollow a c := by
      obtain ⟨l₁, l₂, heq⟩ := h
      exact @hchain a c l₁ l₂ (by rw [← heq]; simp)
    exact ⟨hlower, fun h => (hpair h).1 ⟨rfl, rfl⟩, fun a c h => (hpair h).2⟩

/-- A text in snake case may be cut anywhere. -/
theorem InSnakeCase.of_suffix {s t : List Char} (h : InSnakeCase s) (ht : t <:+ s) : InSnakeCase t where
  lower c hc := h.lower c (ht.subset hc)
  single hpair := h.single (hpair.trans ht.isInfix)
  opened a c hpair := h.opened a c (hpair.trans ht.isInfix)

/-! ## Characters -/

theorem lower_separator : lower separator = [separator] := by decide

theorem ne_separator_of_mem_lower {c x : Char} (hc : c ≠ separator) (hx : x ∈ lower c) : x ≠ separator := by
  rintro rfl
  rcases Nat.lt_or_ge c.toNat 128 with hascii | hbeyond
  · have hback : separator = c.toLower → c = separator :=
      Text.of_ascii (p := fun c => separator = c.toLower → c = separator) (by decide) hascii
    rw [lower, if_pos hascii, List.mem_singleton] at hx
    exact hc (hback hx)
  · exact absurd (Text.isLower_of_mem_lower hbeyond hx (by decide)) (by decide)

theorem mayFollow_of_small {a x : Char} (hx : x ≠ separator) (hupper : isUpper x = false) : MayFollow a x :=
  ⟨fun h => hx h.2, fun h => by simp [hupper] at h⟩

theorem mayFollow_separator {a : Char} (ha : a ≠ separator) : MayFollow a separator :=
  ⟨fun h => ha h.1, fun h => absurd h (by decide)⟩

/-- At the start a character is only brought into lower case. -/
theorem normalizeFrom_true_cons (c : Char) (cs : List Char) :
    normalizeFrom true false (c :: cs) = lower c ++ normalizeFrom false (c == separator) cs := by
  by_cases hc : c = separator
  · simp [normalizeFrom, hc, lower_separator]
  · simp [normalizeFrom, hc, beq_false_of_ne hc]

/-! ## Snake case is reached -/

theorem lower_of_mem_normalizeFrom {start sep : Bool} {s : List Char} {x : Char}
    (hx : x ∈ normalizeFrom start sep s) : lower x = [x] := by
  fun_induction normalizeFrom start sep s with
  | case1 => cases hx
  | case2 start cs ih => exact ih hx
  | case3 start sep cs _ ih =>
    rcases List.mem_cons.1 hx with rfl | hx
    · exact lower_separator
    · exact ih hx
  | case4 start sep c cs _ _ ih =>
    rcases List.mem_cons.1 hx with rfl | hx
    · exact lower_separator
    · exact (List.mem_append.1 hx).elim (fun hx => (Text.of_mem_lower hx).1) ih
  | case5 start sep c cs _ _ ih =>
    exact (List.mem_append.1 hx).elim (fun hx => (Text.of_mem_lower hx).1) ih

/-- The lower case of a character fits behind `a` if the character does. -/
theorem isChain_lower_append {a c : Char} {t : List Char} (hc : c ≠ separator) (ha : isUpper c = true → a = separator)
    (ht : ∀ b, b ≠ separator → (b :: t).IsChain MayFollow) : (a :: (lower c ++ t)).IsChain MayFollow := by
  rcases Text.lower_eq c with ⟨x, hlower⟩ | hlower
  · have hx : x ∈ lower c := by rw [hlower]; exact List.mem_singleton_self x
    have hsep : x ≠ separator := ne_separator_of_mem_lower hc hx
    rw [hlower, List.singleton_append, List.isChain_cons_cons]
    refine ⟨⟨fun h => hsep h.2, fun hupper => ha ?_⟩, ht x hsep⟩
    rwa [← (Text.of_mem_lower hx).2 hupper]
  · simp only [hlower, List.cons_append, List.nil_append, List.isChain_cons_cons]
    exact ⟨mayFollow_of_small (by decide) (by decide), mayFollow_of_small (by decide) (by decide),
      ht _ (by decide)⟩

/-- Behind `a`, a separator or not, the rest of a text is written so that all neighbours fit. -/
theorem isChain_normalizeFrom {a : Char} {sep : Bool} (ha : sep = true ↔ a = separator) (s : List Char) :
    (a :: normalizeFrom false sep s).IsChain MayFollow := by
  induction s generalizing a sep with
  | nil => exact .singleton a
  | cons c cs ih =>
    have hrest : ∀ b, b ≠ separator → (b :: normalizeFrom false false cs).IsChain MayFollow :=
      fun b hb => ih (by simp [hb])
    rw [normalizeFrom]
    split
    · split
      · next hsep => exact ih (by simp [← ha, hsep])
      · next hsep => exact List.isChain_cons_cons.2 ⟨mayFollow_separator (ha.not.1 hsep), ih (by simp)⟩
    · next hc =>
      split
      · next hupper =>
        have hsep : ¬ sep = true := by simpa using (Bool.and_eq_true_iff.1 hupper).2
        exact List.isChain_cons_cons.2 ⟨mayFollow_separator (ha.not.1 hsep), isChain_lower_append hc (fun _ => rfl) hrest⟩
      · next hupper => exact isChain_lower_append hc (fun h => ha.1 (by simpa [h] using hupper)) hrest

theorem inSnakeCase_normalizeFrom (s : List Char) : InSnakeCase (normalizeFrom true false s) := by
  refine inSnakeCase_iff.2 ⟨fun x hx => lower_of_mem_normalizeFrom hx, ?_⟩
  cases s with
  | nil => exact .nil
  | cons c cs =>
    rw [normalizeFrom_true_cons]
    by_cases hc : c = separator
    · rw [hc, lower_separator]
      exact isChain_normalizeFrom (by simp) cs
    · -- At the start any character may stand, as it may behind a separator.
      exact (isChain_lower_append (a := separator) hc (fun _ => rfl)
        fun b hb => isChain_normalizeFrom (by simp [hb, hc]) cs).tail

theorem inSnakeCase_normalize (s : String) : InSnakeCase (normalize s).toList := by
  rw [normalize, String.toList_ofList]
  exact inSnakeCase_normalizeFrom s.toList

/-! ## Snake case is kept -/

/-- Behind `a`, a separator or not, a text of neighbours that fit is written as it is. -/
theorem normalizeFrom_eq_self {a : Char} {sep : Bool} {s : List Char} (ha : sep = true ↔ a = separator)
    (hlower : ∀ c ∈ s, lower c = [c]) (hs : (a :: s).IsChain MayFollow) : normalizeFrom false sep s = s := by
  induction s generalizing a sep with
  | nil => rfl
  | cons c cs ih =>
    obtain ⟨hac, hcs⟩ := List.isChain_cons_cons.1 hs
    have hrest (b : Bool) (hb : b = true ↔ c = separator) : normalizeFrom false b cs = cs :=
      ih hb (fun d hd => hlower d (List.mem_cons_of_mem _ hd)) hcs
    by_cases hc : c = separator
    · have hsep : sep = false := by
        rw [← Bool.not_eq_true, ha]
        exact fun h => hac.1 ⟨h, hc⟩
      simp [normalizeFrom, hc, hsep, hrest true (by simp [hc])]
    · have hupper : (isUpper c && !false && !sep) = false := by
        cases hu : isUpper c with
        | false => rfl
        | true => simp [ha.2 (hac.2 hu)]
      rw [normalizeFrom, if_neg hc, hupper, if_neg Bool.false_ne_true, hlower c (List.mem_cons_self ..),
        hrest false (by simp [hc]), List.singleton_append]

theorem normalize_eq_self {s : String} (h : InSnakeCase s.toList) : normalize s = s := by
  obtain ⟨hlower, hchain⟩ := inSnakeCase_iff.1 h
  rw [normalize, ← String.toList_inj, String.toList_ofList]
  cases hs : s.toList with
  | nil => rfl
  | cons c cs =>
    rw [hs] at hlower hchain
    have hrest : normalizeFrom false (c == separator) cs = cs :=
      normalizeFrom_eq_self beq_iff_eq (fun d hd => hlower d (List.mem_cons_of_mem _ hd)) hchain
    rw [normalizeFrom_true_cons, hlower c (List.mem_cons_self ..), hrest, List.singleton_append]

/-- What snake case keeps are the texts in snake case. -/
theorem normalize_eq_self_iff {s : String} : normalize s = s ↔ InSnakeCase s.toList :=
  ⟨fun h => h ▸ inSnakeCase_normalize s, normalize_eq_self⟩

/-! ## What is lost -/

/-- Without separators, snake case is lower case. -/
theorem filter_normalizeFrom (start sep : Bool) (s : List Char) :
    (normalizeFrom start sep s).filter (· ≠ separator) = toLower (s.filter (· ≠ separator)) := by
  have hkept {c : Char} (hc : c ≠ separator) : (lower c).filter (· ≠ separator) = lower c :=
    List.filter_eq_self.2 fun x hx => decide_eq_true (ne_separator_of_mem_lower hc hx)
  fun_induction normalizeFrom start sep s with
  | case1 => rfl
  | case2 start cs ih => simpa using ih
  | case3 start sep cs _ ih => simpa using ih
  | case4 start sep c cs hc _ ih =>
    rw [List.filter_cons_of_neg (by simp), List.filter_append, hkept hc, ih,
      List.filter_cons_of_pos (by simpa using hc), toLower, toLower, List.flatMap_cons]
  | case5 start sep c cs hc _ ih =>
    rw [List.filter_append, hkept hc, ih, List.filter_cons_of_pos (by simpa using hc), toLower, toLower,
      List.flatMap_cons]

/-- Snake case is a canonical form that keeps the content of a name. It is reached at once, has single
separators only, is the lower case of the name where separators are left out, and is the name itself just
if that is in snake case. -/
theorem normalize_canonical (s : String) :
    normalize (normalize s) = normalize s ∧
    ¬ [separator, separator] <:+: (normalize s).toList ∧
    (normalize s).toList.filter (· ≠ separator) = toLower (s.toList.filter (· ≠ separator)) ∧
    (normalize s = s ↔ InSnakeCase s.toList) := by
  have hnormal : InSnakeCase (normalize s).toList := inSnakeCase_normalize s
  refine ⟨normalize_eq_self hnormal, hnormal.single, ?_, normalize_eq_self_iff⟩
  rw [normalize, String.toList_ofList]
  exact filter_normalizeFrom true false s.toList

/-! ## Leads -/

namespace Identifier

/-- The identifier begins with `lead`, and `rest`, which is not empty, is what follows. -/
def GoesOn (id : Identifier) (lead rest : String) : Prop := id.text = lead ++ rest ∧ rest ≠ ""

variable {id : Identifier} {lead rest : String} {leads : List String}

theorem remainder?_singleton : id.remainder? [lead] = some rest ↔ id.GoesOn lead rest := by
  have hdrop (t : List Char) : Text.dropLead? lead.toList id.text.toList = some t ↔
      id.text = lead ++ String.ofList t := by
    rw [Text.dropLead?_eq_some_iff, ← String.toList_inj, String.toList_append, String.toList_ofList]
  rw [remainder?, List.findSome?_singleton, GoesOn]
  split
  · next c cs h =>
    rw [hdrop] at h
    rw [h, Option.some.injEq]
    constructor
    · rintro rfl
      exact ⟨rfl, by simp⟩
    · exact fun hrest => (String.append_right_inj lead).1 hrest.1
  · next hnone =>
    refine iff_of_false (fun h => by cases h) fun ⟨htext, hrest⟩ => ?_
    obtain ⟨c, cs, hcs⟩ := List.exists_cons_of_ne_nil (mt String.toList_eq_nil_iff.1 hrest)
    exact hnone c cs ((hdrop _).2 (by rw [htext, ← hcs, String.ofList_toList]))

theorem remainder?_singleton_eq_none : id.remainder? [lead] = none ↔ ∀ r, ¬ id.GoesOn lead r := by
  simp only [Option.eq_none_iff_forall_ne_some, ← remainder?_singleton, ne_eq]

theorem remainder?_eq_findSome? : id.remainder? leads = leads.findSome? fun lead => id.remainder? [lead] := by
  simp only [remainder?, List.findSome?_singleton]

/-- A rest is what follows the first lead that the identifier goes beyond. -/
theorem remainder?_eq_some_iff : id.remainder? leads = some rest ↔
    ∃ before lead after, leads = before ++ lead :: after ∧ id.GoesOn lead rest ∧
      ∀ x ∈ before, ∀ r, ¬ id.GoesOn x r := by
  rw [remainder?_eq_findSome?]
  simp only [List.findSome?_eq_some_iff, remainder?_singleton, remainder?_singleton_eq_none]

theorem remainder?_eq_none_iff : id.remainder? leads = none ↔ ∀ lead ∈ leads, ∀ r, ¬ id.GoesOn lead r := by
  rw [remainder?_eq_findSome?]
  simp only [List.findSome?_eq_none_iff, remainder?_singleton_eq_none]

theorem GoesOn.inSnakeCase (h : id.GoesOn lead rest) (hid : InSnakeCase id.text.toList) :
    InSnakeCase rest.toList :=
  hid.of_suffix ⟨lead.toList, by rw [h.1, String.toList_append]⟩

/-- The rest is not changed by bringing it into snake case once more. -/
theorem text_dropLeads (hid : InSnakeCase id.text.toList) :
    (id.dropLeads leads).text = (id.remainder? leads).getD id.text := by
  rw [dropLeads]
  split
  · next rest h =>
    obtain ⟨_, lead, _, -, hrest, -⟩ := remainder?_eq_some_iff.1 h
    rw [h, Option.getD_some, ofName, normalize_eq_self (hrest.inSnakeCase hid)]
  · next h => rw [h, Option.getD_none]

/-- The first lead that an identifier goes beyond is removed, and nothing else is changed; without such a
lead nothing is. What is left is in snake case, and is empty only if the identifier is. -/
theorem dropLeads_ofName (name : String) (leads : List String) :
    (∀ before lead after rest, leads = before ++ lead :: after →
      (∀ x ∈ before, ∀ r, ¬ (ofName name).GoesOn x r) → (ofName name).GoesOn lead rest →
      ((ofName name).dropLeads leads).text = rest) ∧
    ((∀ lead ∈ leads, ∀ r, ¬ (ofName name).GoesOn lead r) → (ofName name).dropLeads leads = ofName name) ∧
    normalize ((ofName name).dropLeads leads).text = ((ofName name).dropLeads leads).text ∧
    (((ofName name).dropLeads leads).text = "" → (ofName name).text = "") := by
  have hid : InSnakeCase (ofName name).text.toList := inSnakeCase_normalize name
  have htext : ((ofName name).dropLeads leads).text = ((ofName name).remainder? leads).getD (ofName name).text :=
    text_dropLeads hid
  refine ⟨fun before lead after rest hleads hbefore hrest => ?_, fun hnone => ?_, ?_⟩
  · rw [htext, remainder?_eq_some_iff.2 ⟨before, lead, after, hleads, hrest, hbefore⟩, Option.getD_some]
  · rw [dropLeads, remainder?_eq_none_iff.2 hnone]
  · rw [htext]
    cases h : (ofName name).remainder? leads with
    | none => exact ⟨normalize_eq_self hid, id⟩
    | some rest =>
      obtain ⟨_, lead, _, -, hrest, -⟩ := remainder?_eq_some_iff.1 h
      exact ⟨normalize_eq_self (hrest.inSnakeCase hid), fun hempty => absurd hempty hrest.2⟩

/-- The second lead is removed; the first one is not there. -/
theorem dropLeads_ofName_nakama :
    (ofName "Nakama_Send").GoesOn "nakama_" "send" ∧
    ((ofName "Nakama_Send").dropLeads ["satori_", "nakama_"]).text = "send" := by
  have hsend : (ofName "Nakama_Send").GoesOn "nakama_" "send" := ⟨by decide, by decide⟩
  have hsatori : ∀ x ∈ ["satori_"], ∀ r, ¬ (ofName "Nakama_Send").GoesOn x r := by
    intro x hx r hr
    rw [List.mem_singleton.1 hx, GoesOn, hsend.1] at hr
    exact absurd (congrArg (fun s => s.toList.head?) hr.1) (by simp)
  exact ⟨hsend, (dropLeads_ofName "Nakama_Send" ["satori_", "nakama_"]).1 ["satori_"] "nakama_" [] "send" rfl
    hsatori hsend⟩

end Identifier

end LuaStubs
