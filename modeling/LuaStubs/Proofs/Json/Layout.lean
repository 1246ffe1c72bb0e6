import Mathlib.Data.List.Basic
import LuaStubs.Json.Pretty
import LuaStubs.Json.Writer
import LuaStubs.Proofs.Json.Numeral

/-!
# Layouts of JSON text

A value on one line has no control characters (`Value.all_printable_compactChars`).
With one entry a line, and for people to read but without colours, a value has the
same text unless something in it is escaped (`Value.prettyChars_eq_indentedChars`).
-/

namespace LuaStubs.Json

/-! ## One line -/

/-- A text without control characters below `U+0020`, and so without line breaks. -/
def Printable (s : List Char) : Prop := ∀ c ∈ s, 32 ≤ c.toNat

instance (s : List Char) : Decidable (Printable s) :=
  decidable_of_iff (s.all fun c => decide (32 ≤ c.toNat)) (by simp [Printable])

theorem printable_nil : Printable [] := nofun

theorem printable_cons {c : Char} {s : List Char} : Printable (c :: s) ↔ 32 ≤ c.toNat ∧ Printable s :=
  List.forall_mem_cons

theorem printable_append {s t : List Char} : Printable (s ++ t) ↔ Printable s ∧ Printable t :=
  List.forall_mem_append

theorem printable_of_all_isDigit {ds : List Char} (h : ds.all Char.isDigit = true) : Printable ds := fun c hc => by
  have := Text.toNat_of_isDigit (List.all_eq_true.1 h c hc)
  omega

theorem Numeral.printable {t : List Char} (h : Numeral t) : Printable t := by
  obtain ⟨hwhole, hplaces, hexponent⟩ := h
  simp only [printable_append]
  refine ⟨⟨printable_of_all_isDigit hwhole.isDigits.2, ?_⟩, ?_⟩
  · rcases hplaces with rfl | ⟨ds, hds, rfl⟩
    · exact printable_nil
    · exact printable_cons.2 ⟨by decide, printable_of_all_isDigit hds.2⟩
  · rcases hexponent with rfl | ⟨sign, ds, hsign, hds, rfl⟩
    · exact printable_nil
    · have hsign' : 32 ≤ sign.toNat := by
        simp only [List.mem_cons, List.not_mem_nil, or_false] at hsign
        rcases hsign with rfl | rfl <;> decide
      exact printable_cons.2 ⟨by decide, printable_cons.2 ⟨hsign', printable_of_all_isDigit hds.2⟩⟩

theorem printable_number (n : Number) : Printable n.text.toList := by
  obtain ⟨t, ht, htext | htext⟩ := n.exists_numeral
  · exact htext ▸ ht.printable
  · exact htext ▸ printable_cons.2 ⟨by decide, ht.printable⟩

theorem printable_controlEscape : ∀ n < 32, Printable (controlEscape (Char.ofNat n)) := by decide

theorem printable_writeChar (c : Char) : Printable (writeChar c) := by
  rw [writeChar]
  split
  · decide
  · split
    · decide
    · split
      · next hcontrol =>
        have h := printable_controlEscape c.toNat hcontrol
        rwa [Char.ofNat_toNat] at h
      · next hvisible => exact printable_cons.2 ⟨Nat.not_lt.1 hvisible, printable_nil⟩

theorem printable_writeString (s : String) : Printable (writeString s) := by
  rw [writeString, printable_append, printable_cons]
  refine ⟨⟨by decide, fun c hc => ?_⟩, by decide⟩
  obtain ⟨d, -, hc⟩ := List.mem_flatMap.1 hc
  exact printable_writeChar d c hc

theorem printable_withCommas : ∀ texts : List (List Char), (∀ t ∈ texts, Printable t) → Printable (withCommas [] texts)
  | [], _ => printable_nil
  | [t], h => h t (List.mem_singleton_self t)
  | t :: t' :: texts, h => by
    obtain ⟨ht, htexts⟩ := List.forall_mem_cons.1 h
    have htail := printable_withCommas (t' :: texts) htexts
    exact printable_append.2 ⟨printable_append.2 ⟨ht, by decide⟩, htail⟩

namespace Value

mutual

theorem printable_compactChars : ∀ v : Value, Printable v.compactChars
  | .null => by decide
  | .bool true => by decide
  | .bool false => by decide
  | .number n => printable_number n
  | .string s => printable_writeString s
  | .array items => by
    rw [compactChars, printable_append, printable_cons]
    exact ⟨⟨by decide, printable_withCommas _ (printable_compactItems items)⟩, by decide⟩
  | .object members => by
    rw [compactChars, printable_append, printable_cons]
    exact ⟨⟨by decide, printable_withCommas _ (printable_compactMembers members)⟩, by decide⟩

theorem printable_compactItems : ∀ vs : List Value, ∀ t ∈ compactItems vs, Printable t
  | [] => nofun
  | v :: vs => List.forall_mem_cons.2 ⟨printable_compactChars v, printable_compactItems vs⟩

theorem printable_compactMembers : ∀ ms : List (String × Value), ∀ t ∈ compactMembers ms, Printable t
  | [] => nofun
  | (k, v) :: ms => by
    have hmember : Printable (writeString k ++ ':' :: v.compactChars) :=
      printable_append.2 ⟨printable_writeString k, printable_cons.2 ⟨by decide, printable_compactChars v⟩⟩
    exact List.forall_mem_cons.2 ⟨hmember, printable_compactMembers ms⟩

end

end Value

/-! ## One entry a line -/

/-- Nothing in a text is escaped in a string. -/
def Unescaped (s : String) : Prop := ∀ c ∈ s.toList, c ≠ '"' ∧ c ≠ '\\' ∧ 32 ≤ c.toNat

instance (s : String) : Decidable (Unescaped s) :=
  decidable_of_iff (s.toList.all fun c => decide (c ≠ '"' ∧ c ≠ '\\' ∧ 32 ≤ c.toNat)) (by simp [Unescaped])

theorem paintQuoted_of_unescaped {s : String} (h : Unescaped s) (kind : Kind) :
    paintQuoted false kind s.toList = writeString s := by
  have hchar : ∀ c ∈ s.toList, writeChar c = [c] := fun c hc => by
    obtain ⟨hquote, hbackslash, hvisible⟩ := h c hc
    rw [writeChar, if_neg hquote, if_neg hbackslash, if_neg (Nat.not_lt.2 hvisible)]
  have hchars : s.toList.flatMap writeChar = s.toList := by
    rw [List.flatMap_congr hchar, List.flatMap_singleton']
  rw [writeString, hchars]
  rfl

/-- Lines of entries are entries with commas and line breaks between them. -/
theorem cons_entryLines (level : Nat) : ∀ texts : List (List Char), texts ≠ [] →
    '\n' :: entryLines level texts = newLine level ++ withCommas (newLine level) texts ++ ['\n']
  | [], h => absurd rfl h
  | [t], _ => by simp [entryLines, withCommas, newLine, indent]
  | t :: t' :: texts, _ => by
    have ih := cons_entryLines level (t' :: texts) (List.cons_ne_nil _ _)
    have hlines : '\n' :: entryLines level (t :: t' :: texts) =
        newLine level ++ t ++ [','] ++ '\n' :: entryLines level (t' :: texts) := by
      simp [entryLines, newLine, indent]
    rw [hlines, ih]
    simp [withCommas]

theorem bracketed_eq_block (opening closing : Char) (level : Nat) (texts : List (List Char)) :
    bracketed opening closing level texts = block opening closing level texts := by
  cases texts with
  | nil => rfl
  | cons t texts =>
    have hlines := cons_entryLines (level + 1) (t :: texts) (List.cons_ne_nil _ _)
    have hbracketed : bracketed opening closing level (t :: texts) =
        opening :: ('\n' :: entryLines (level + 1) (t :: texts)) ++ indent level ++ [closing] := rfl
    rw [hbracketed, hlines]
    simp [block, newLine, indent]

namespace Value

mutual

/-- The strings and keys in a value. -/
def texts : Value → List String
  | .string s => [s]
  | .array items => textsOfItems items
  | .object members => textsOfMembers members
  | _ => []

/-- The strings and keys in values. -/
def textsOfItems : List Value → List String
  | [] => []
  | v :: vs => texts v ++ textsOfItems vs

/-- The keys of members, and the strings and keys in their values. -/
def textsOfMembers : List (String × Value) → List String
  | [] => []
  | (k, v) :: rest => k :: texts v ++ textsOfMembers rest

end

mutual

theorem prettyChars_eq_indentedChars :
    ∀ (v : Value) (level : Nat), (∀ s ∈ v.texts, Unescaped s) → v.prettyChars false level = v.indentedChars level
  | .null, _, _ => rfl
  | .bool true, _, _ => rfl
  | .bool false, _, _ => rfl
  | .number _, _, _ => rfl
  | .string s, _, h => paintQuoted_of_unescaped (h s (List.mem_singleton_self s)) .text
  | .array items, level, h => by
    rw [prettyChars, indentedChars, bracketed_eq_block, prettyItems_eq_indentedItems items (level + 1) h]
  | .object members, level, h => by
    rw [prettyChars, indentedChars, bracketed_eq_block, prettyMembers_eq_indentedMembers members (level + 1) h]

theorem prettyItems_eq_indentedItems : ∀ (vs : List Value) (level : Nat), (∀ s ∈ textsOfItems vs, Unescaped s) →
    prettyItems false level vs = indentedItems level vs
  | [], _, _ => rfl
  | v :: vs, level, h => by
    obtain ⟨hv, hvs⟩ := List.forall_mem_append.1 h
    rw [prettyItems, indentedItems, prettyChars_eq_indentedChars v level hv, prettyItems_eq_indentedItems vs level hvs]

theorem prettyMembers_eq_indentedMembers : ∀ (ms : List (String × Value)) (level : Nat),
    (∀ s ∈ textsOfMembers ms, Unescaped s) → prettyMembers false level ms = indentedMembers level ms
  | [], _, _ => rfl
  | (k, v) :: ms, level, h => by
    obtain ⟨hkv, hms⟩ := List.forall_mem_append.1 h
    obtain ⟨hk, hv⟩ := List.forall_mem_cons.1 hkv
    rw [prettyMembers, indentedMembers, prettyChars_eq_indentedChars v level hv,
      prettyMembers_eq_indentedMembers ms level hms, paintQuoted_of_unescaped hk]

end

/-- Without colours, the pretty text is the indented one, if nothing in it is escaped. -/
theorem pretty_eq_indented {v : Value} (h : ∀ s ∈ v.texts, Unescaped s) : v.pretty false = v.indented :=
  congrArg String.ofList (prettyChars_eq_indentedChars v 0 h)

end Value

end LuaStubs.Json
