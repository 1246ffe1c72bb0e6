import LuaStubs.Lua.Literal
import LuaStubs.Proofs.Lua.Comment
import LuaStubs.Proofs.Text.Case
import LuaStubs.Toml.Text
import Mathlib.Algebra.Group.Nat.Defs

/-!
# String literals in Lua

`readString?` reads a literal behind its opening double quote, as version 5.4 of
the language does: it gives the bytes that the literal stands for and the text
behind its closing quote. A text that `escapeString` has been through is read as
it was, unless it has a line break, which ends no literal
(`readString?_escapeString`). A text as it is stands for itself just if it has
neither quotes nor backslashes nor line breaks (`readString?_eq_some_iff`).
-/

namespace LuaStubs.Lua

open Json (hexValue?)
open Toml (hexNumber?)

/-! ## Literals -/

/-- The bytes of a text. -/
def utf8 (s : List Char) : List UInt8 := s.flatMap String.utf8EncodeChar

/-- The escapes of one character that stand for one byte. -/
def simpleEscapes : List (Char × UInt8) :=
  [('a', 7), ('b', 8), ('f', 12), ('n', 10), ('r', 13), ('t', 9), ('v', 11), ('\\', 92), ('"', 34), ('\x27', 39)]

/-- White space as the language has it. -/
def isSpace (c : Char) : Bool := c == ' ' || (9 ≤ c.toNat && c.toNat ≤ 13)

/-- Reads one to three decimal digits that stand for a byte. -/
def readByte? (s : List Char) : Option (List UInt8 × List Char) :=
  let digits := (s.take 3).takeWhile Char.isDigit
  let n := digits.foldl (fun n d => 10 * n + (d.toNat - '0'.toNat)) 0
  if digits ≠ [] ∧ n ≤ 255 then some ([UInt8.ofNat n], s.drop digits.length) else none

/-- How many bytes the encoding of a code point has behind its first one. -/
def trailingBytes (n : Nat) : Nat :=
  if n < 0x80 then 0
  else if n < 0x800 then 1
  else if n < 0x10000 then 2
  else if n < 0x200000 then 3
  else if n < 0x4000000 then 4
  else 5

/-- The encoding of a code point below 2^31, as of a character but without a bound at the last one. -/
def codePointBytes (n : Nat) : List UInt8 :=
  match trailingBytes n with
  | 0 => [UInt8.ofNat n]
  | k => UInt8.ofNat (256 - 2 ^ (7 - k) + n / 64 ^ k) ::
      (List.range k).reverse.map fun i => UInt8.ofNat (0x80 + n / 64 ^ i % 64)

/-- Reads hexadecimal digits and a closing brace. -/
def readCodePoint? (s : List Char) : Option (List UInt8 × List Char) :=
  let digits := s.takeWhile fun c => (hexValue? c).isSome
  match hexNumber? digits, s.dropWhile fun c => (hexValue? c).isSome with
  | some n, '\x7d' :: rest => if digits ≠ [] ∧ n < 2 ^ 31 then some (codePointBytes n, rest) else none
  | _, _ => none

/-- Reads an escape behind its backslash. A line break of two characters counts as one. -/
def readEscape? : List Char → Option (List UInt8 × List Char)
  | [] => none
  | '\r' :: '\n' :: cs => some ([10], cs)
  | '\n' :: '\r' :: cs => some ([10], cs)
  | 'x' :: a :: b :: cs => (hexNumber? [a, b]).map fun n => ([UInt8.ofNat n], cs)
  | 'u' :: '\x7b' :: cs => readCodePoint? cs
  | 'z' :: cs => some ([], cs.dropWhile isSpace)
  | c :: cs =>
    if isLineBreak c then some ([10], cs)
    else match simpleEscapes.lookup c with
      | some b => some ([b], cs)
      | none => readByte? (c :: cs)

/-! ## Escapes -/

theorem utf8_cons (c : Char) (s : List Char) : utf8 (c :: s) = String.utf8EncodeChar c ++ utf8 s := List.flatMap_cons

theorem utf8_append (s t : List Char) : utf8 (s ++ t) = utf8 s ++ utf8 t := List.flatMap_append

theorem length_le_utf8 (s : List Char) : s.length ≤ (utf8 s).length := by
  induction s with
  | nil => exact Nat.le_refl _
  | cons c cs ih =>
    have hc : 1 ≤ (String.utf8EncodeChar c).length := by
      rw [String.length_utf8EncodeChar]
      exact c.utf8Size_pos
    rw [utf8_cons, List.length_append, List.length_cons]
    omega

theorem hexValue?_lt {c : Char} {v : Nat} (h : hexValue? c = some v) : v < 16 := by
  rw [hexValue?] at h
  split at h
  · next hdigit =>
    have hc := Text.toNat_of_isDigit hdigit
    cases h
    simp only [Char.reduceToNat]
    omega
  split at h
  · next hbounds =>
    have hc : c.toNat ≤ 'f'.toNat := hbounds.2
    cases h
    simp only [Char.reduceToNat] at hc ⊢
    omega
  split at h
  · next hbounds =>
    have hc : c.toNat ≤ 'F'.toNat := hbounds.2
    cases h
    simp only [Char.reduceToNat] at hc ⊢
    omega
  · cases h

theorem foldlM_hexValue?_lt {ds : List Char} {m n : Nat}
    (h : ds.foldlM (fun n d => (hexValue? d).map fun v => 16 * n + v) m = some n) : n < (m + 1) * 16 ^ ds.length := by
  induction ds generalizing m with
  | nil =>
    cases h
    simp
  | cons d ds ih =>
    rw [List.foldlM_cons, Option.bind_eq_bind, Option.bind_eq_some_iff] at h
    obtain ⟨x, hx, h⟩ := h
    obtain ⟨v, hv, rfl⟩ := Option.map_eq_some_iff.1 hx
    have hlt := hexValue?_lt hv
    calc n < (16 * m + v + 1) * 16 ^ ds.length := ih h
      _ ≤ (16 * (m + 1)) * 16 ^ ds.length := Nat.mul_le_mul_right _ (by omega)
      _ = (m + 1) * 16 ^ (ds.length + 1) := by rw [Nat.pow_succ, Nat.mul_comm 16, Nat.mul_assoc, Nat.mul_comm 16]

theorem length_codePointBytes (n : Nat) : (codePointBytes n).length = trailingBytes n + 1 := by
  rw [codePointBytes]
  split
  · next h => rw [h]; rfl
  · simp

/-- An encoding is not longer than its escape. -/
theorem trailingBytes_le {n k : Nat} (hk : 0 < k) (h : n < 16 ^ k) : trailingBytes n ≤ k + 2 := by
  rcases Nat.lt_or_ge k 3 with hlt | hge
  · have hpow : 16 ^ k ≤ 16 ^ 2 := Nat.pow_le_pow_right (by decide) (by omega)
    have hsmall : trailingBytes n ≤ 1 := by grind [trailingBytes]
    omega
  · have hfive : trailingBytes n ≤ 5 := by grind [trailingBytes]
    omega

theorem exists_of_readCodePoint? {s rest : List Char} {bytes : List UInt8}
    (h : readCodePoint? s = some (bytes, rest)) : ∃ w, s = w ++ rest ∧ bytes.length ≤ w.length + 2 := by
  rw [readCodePoint?] at h
  split at h
  · next n rest' hn hrest =>
    split at h
    · next hdigits =>
      cases h
      refine ⟨(s.takeWhile fun c => (hexValue? c).isSome) ++ ['\x7d'], ?_, ?_⟩
      · rw [List.append_assoc, List.singleton_append, ← hrest, List.takeWhile_append_dropWhile]
      · have hlt := foldlM_hexValue?_lt hn
        have hle := trailingBytes_le (List.length_pos_iff.2 hdigits.1) (by simpa using hlt)
        rw [length_codePointBytes, List.length_append, List.length_singleton]
        omega
    · cases h
  · cases h

theorem exists_of_readByte? {s rest : List Char} {bytes : List UInt8}
    (h : readByte? s = some (bytes, rest)) : ∃ w, s = w ++ rest ∧ bytes.length ≤ w.length := by
  rw [readByte?] at h
  split at h
  · next hdigits =>
    cases h
    refine ⟨(s.take 3).takeWhile Char.isDigit, ?_, List.length_pos_iff.2 hdigits.1⟩
    exact (List.prefix_iff_eq_append.1 ((List.takeWhile_prefix _).trans (List.take_prefix ..))).symm
  · cases h

/-- An escape takes at least one character for each byte that it stands for. -/
theorem exists_of_readEscape? {s rest : List Char} {bytes : List UInt8}
    (h : readEscape? s = some (bytes, rest)) : ∃ w, s = w ++ rest ∧ bytes.length ≤ w.length := by
  rw [readEscape?.eq_def] at h
  split at h
  · cases h
  · cases h
    exact ⟨['\r', '\n'], rfl, by decide⟩
  · cases h
    exact ⟨['\n', '\r'], rfl, by decide⟩
  · next a b cs =>
    obtain ⟨n, -, heq⟩ := Option.map_eq_some_iff.1 h
    cases heq
    exact ⟨['x', a, b], rfl, by simp⟩
  · obtain ⟨w, rfl, hle⟩ := exists_of_readCodePoint? h
    exact ⟨'u' :: '\x7b' :: w, rfl, hle⟩
  · next cs =>
    cases h
    exact ⟨'z' :: cs.takeWhile isSpace, by simp, by simp⟩
  · next c cs _ _ _ _ _ =>
    split at h
    · cases h
      exact ⟨[c], rfl, by simp⟩
    split at h
    · cases h
      exact ⟨[c], rfl, by simp⟩
    · exact exists_of_readByte? h

/-! ## Strings -/

/-- Reads a literal behind its opening double quote. -/
def readString? (s : List Char) : Option (List UInt8 × List Char) :=
  match s with
  | [] => none
  | c :: cs =>
    if c = '"' then some ([], cs)
    else if c = '\\' then
      match _h : readEscape? cs with
      | some (bytes, rest) => (readString? rest).map fun p => (bytes ++ p.1, p.2)
      | none => none
    else if isLineBreak c then none
    else (readString? cs).map fun p => (String.utf8EncodeChar c ++ p.1, p.2)
termination_by s.length
decreasing_by
  · obtain ⟨w, rfl, -⟩ := exists_of_readEscape? _h
    simp only [List.length_append, List.length_cons]
    omega
  · simp

/-- A character that stands for itself in a literal. -/
def isPlain (c : Char) : Bool := c != '"' && c != '\\' && !isLineBreak c

theorem readString?_quote (rest : List Char) : readString? ('"' :: rest) = some ([], rest) := by
  rw [readString?, if_pos rfl]

theorem readString?_escape {s rest : List Char} {bytes : List UInt8} (h : readEscape? s = some (bytes, rest)) :
    readString? ('\\' :: s) = (readString? rest).map fun p => (bytes ++ p.1, p.2) := by
  rw [readString?, if_neg (by decide), if_pos rfl]
  split
  · next heq =>
    cases h.symm.trans heq
    rfl
  · next heq => cases h.symm.trans heq

theorem readString?_lineBreak {c : Char} (hc : isLineBreak c = true) (s : List Char) : readString? (c :: s) = none := by
  have hquote : c ≠ '"' := by
    rintro rfl
    cases hc
  have hslash : c ≠ '\\' := by
    rintro rfl
    cases hc
  rw [readString?, if_neg hquote, if_neg hslash, if_pos hc]

theorem readString?_cons {c : Char} (hc : isPlain c = true) (s : List Char) :
    readString? (c :: s) = (readString? s).map fun p => (String.utf8EncodeChar c ++ p.1, p.2) := by
  simp only [isPlain, Bool.and_eq_true, bne_iff_ne, Bool.not_eq_true'] at hc
  obtain ⟨⟨hquote, hslash⟩, hline⟩ := hc
  rw [readString?, if_neg hquote, if_neg hslash, if_neg (by simp [hline])]

/-- A literal that is read goes up to the quote that closes it. It stands for no more bytes than it has,
and for as many only if each of its characters stands for itself. -/
theorem exists_of_readString? {s rest : List Char} {bytes : List UInt8} (h : readString? s = some (bytes, rest)) :
    ∃ w, s = w ++ '"' :: rest ∧ bytes.length ≤ (utf8 w).length ∧
      ((utf8 w).length ≤ bytes.length → ∀ c ∈ w, isPlain c = true) := by
  fun_induction readString? s generalizing bytes with
  | case1 => cases h
  | case2 cs =>
    cases h
    exact ⟨[], rfl, Nat.le_refl _, fun _ c hc => by cases hc⟩
  | case3 cs escaped following hescape _ ih =>
    obtain ⟨⟨inner, last⟩, hinner, heq⟩ := Option.map_eq_some_iff.1 h
    simp only [Prod.mk.injEq] at heq
    obtain ⟨rfl, rfl⟩ := heq
    obtain ⟨w, rfl, hw⟩ := exists_of_readEscape? hescape
    obtain ⟨v, rfl, hle, -⟩ := ih hinner
    -- The backslash is a byte that the literal does not stand for.
    have hlt : (escaped ++ inner).length < (utf8 ('\\' :: (w ++ v))).length := by
      have hbytes := length_le_utf8 w
      rw [utf8_cons, utf8_append, show String.utf8EncodeChar '\\' = [92] by decide, List.length_append,
        List.length_append, List.length_append, List.length_singleton]
      omega
    exact ⟨'\\' :: (w ++ v), by simp, Nat.le_of_lt hlt, fun hge => absurd hlt (Nat.not_lt.2 hge)⟩
  | case4 => cases h
  | case5 => cases h
  | case6 c cs hquote hslash hline ih =>
    obtain ⟨⟨inner, last⟩, hinner, heq⟩ := Option.map_eq_some_iff.1 h
    simp only [Prod.mk.injEq] at heq
    obtain ⟨rfl, rfl⟩ := heq
    obtain ⟨w, rfl, hle, hplain⟩ := ih hinner
    refine ⟨c :: w, rfl, ?_, fun hge => ?_⟩
    · rw [utf8_cons, List.length_append, List.length_append]
      omega
    · rw [utf8_cons, List.length_append, List.length_append] at hge
      rw [List.forall_mem_cons]
      exact ⟨by simp [isPlain, hquote, hslash, hline], hplain (by omega)⟩

/-- An escape of each kind, with other text behind the literal. -/
example : readString? "\\u\x7b20AC\x7d\\x41\\z  \\065\\n\" rest".toList = some (utf8 ['€', 'A', 'A', '\n'], " rest".toList) := by
  decide +kernel

/-- What is between quotes stands for itself just if all its characters do. -/
theorem readString?_eq_some_iff {s rest : List Char} :
    readString? (s ++ '"' :: rest) = some (utf8 s, rest) ↔ ∀ c ∈ s, isPlain c = true := by
  constructor
  · intro h
    obtain ⟨w, heq, -, hplain⟩ := exists_of_readString? h
    obtain rfl : s = w := List.append_cancel_right heq
    exact hplain (Nat.le_refl _)
  · intro h
    induction s with
    | nil => exact readString?_quote rest
    | cons c cs ih =>
      obtain ⟨hc, hcs⟩ := List.forall_mem_cons.1 h
      rw [List.cons_append, readString?_cons hc, ih hcs, utf8_cons]
      rfl

/-- An escaped text between quotes stands for the text, but cannot be read if that has a line break. -/
theorem readString?_escapeString (s : String) (rest : List Char) :
    readString? ((escapeString s).toList ++ '"' :: rest) =
      if s.toList.any isLineBreak then none else some (utf8 s.toList, rest) := by
  rw [escapeString, String.toList_ofList]
  induction s.toList with
  | nil => exact readString?_quote rest
  | cons c cs ih =>
    rw [List.flatMap_cons, List.any_cons, utf8_cons]
    by_cases hmark : c = '\\' ∨ c = '"'
    · have hescape (s : List Char) : readEscape? (c :: s) = some (String.utf8EncodeChar c, s) := by
        rcases hmark with rfl | rfl
        all_goals rfl
      have hline : isLineBreak c = false := by
        rcases hmark with rfl | rfl
        all_goals rfl
      rw [if_pos hmark, List.cons_append, List.singleton_append, List.cons_append, List.cons_append,
        readString?_escape (hescape _), ih, hline, Bool.false_or]
      split <;> rfl
    · rw [if_neg hmark, List.singleton_append, List.cons_append]
      cases hline : isLineBreak c with
      | true => rw [readString?_lineBreak hline, Bool.true_or, if_pos rfl]
      | false =>
        have hplain : isPlain c = true := by
          rw [not_or] at hmark
          simp [isPlain, hmark, hline]
        rw [readString?_cons hplain, ih, Bool.false_or]
        split <;> rfl

theorem readString?_escapeString_eq_some_iff {s : String} {rest : List Char} :
    readString? ((escapeString s).toList ++ '"' :: rest) = some (utf8 s.toList, rest) ↔
      ∀ c ∈ s.toList, isLineBreak c = false := by
  rw [readString?_escapeString]
  split
  · next hbreak =>
    obtain ⟨c, hc, hline⟩ := List.any_eq_true.1 hbreak
    refine iff_of_false (by simp) fun h => ?_
    rw [h c hc] at hline
    cases hline
  · next hbreak =>
    rw [Bool.not_eq_true, List.any_eq_false] at hbreak
    exact iff_of_true rfl fun c hc => Bool.eq_false_iff.2 (hbreak c hc)

end LuaStubs.Lua
