import LuaStubs.Json.Reader

/-!
# Readers agree

A text is read by readers of several kinds: some keep a value, some pass over it,
some take a record in. Where two of them succeed on the same text, they have read
the same part of it. This is shown for the reader that keeps a value and the one
that passes over it (`skipValue_of_readValue`), and for two runs of the first one
that differ in fuel and room (`readValue_agrees`). `Agrees` says it of any reader
and the first one.
-/

namespace LuaStubs.Json

/-! ## Strings and numbers -/

theorem bind_eq_ok {ε α β : Type} {x : Except ε α} {f : α → Except ε β} {y : β} :
    x >>= f = .ok y ↔ ∃ a, x = .ok a ∧ f a = .ok y := by
  cases x <;> simp [bind, Except.bind]

theorem exists_of_consTo {c : Char} {x : Except Fault (List Char × List Char)} {t r : List Char}
    (h : consTo c x = .ok (t, r)) : ∃ u, x = .ok (u, r) := by
  cases x with
  | ok p => cases h; exact ⟨_, rfl⟩
  | error e => cases h

/-- A string that is read is passed over in the same way. -/
theorem skipString_of_readString {s t r : List Char} (h : readString s = .ok (t, r)) : skipString s = .ok r := by
  fun_induction readString s generalizing t r <;> try cases h
  case case2 => rfl
  case case6 hhigh _ _ _ _ _ _ _ _ hlow _ ih =>
    obtain ⟨u, hu⟩ := exists_of_consTo h
    simp only [skipString, hhigh, hlow, ih hu]
  case case11 hhigh _ _ ih =>
    obtain ⟨u, hu⟩ := exists_of_consTo h
    simp only [skipString, hhigh, ih hu]
  case case14 hquad hshort _ hescape ih =>
    obtain ⟨u, hu⟩ := exists_of_consTo h
    rw [skipString]
    · simp only [hescape, Option.isSome_some, if_true, ih hu]
    · exact hquad
    · exact hshort
  case case17 hquote hquad hshort hend hescape hvisible ih =>
    obtain ⟨u, hu⟩ := exists_of_consTo h
    rw [skipString]
    · simp only [hvisible, if_false, ih hu]
    · exact hquote
    · exact hquad
    · exact hshort
    · exact hend
    · exact hescape

/-- The sign of a literal has no part in what is read. -/
theorem readLiteral_rest {negative : Bool} {s r : List Char} {l : Literal}
    (h : readLiteral negative s = .ok (l, r)) : ∃ l', readLiteral false s = .ok (l', r) := by
  simp only [readLiteral, bind_eq_ok] at h ⊢
  obtain ⟨⟨whole, s₁⟩, hwhole, ⟨places, s₂⟩, hplaces, ⟨exponent, s₃⟩, hexponent, h⟩ := h
  cases h
  exact ⟨_, _, hwhole, _, hplaces, _, hexponent, rfl⟩

/-- A number that is read is passed over in the same way. -/
theorem skipNumber_of_readNumber {negative : Bool} {s r : List Char} {n : Number}
    (h : readNumber negative s = .ok (n, r)) : skipNumber s = .ok r := by
  obtain ⟨⟨l, rest⟩, hliteral, h⟩ := bind_eq_ok.1 h
  have hr : rest = r := by
    dsimp only at h
    split at h
    · cases h; rfl
    · cases h
  subst hr
  obtain ⟨l', hl'⟩ := readLiteral_rest hliteral
  rw [skipNumber, hl']

/-! ## What has been read of a container -/

variable {σ τ α : Type}

/-- A comma comes before every entry but the first, and no entry starts with a closing bracket. -/
theorem readMembers_eq_ok {member : σ → String → Except Fault (Reader σ)} {fuel : Nat} {first : Bool} {acc x : σ}
    {s r : List Char} (h : readMembers member fuel first acc s = .ok (x, r)) :
    skipSpace s = '\x7d' :: r ∧ x = acc ∨
      (∀ rest, skipSpace s ≠ '\x7d' :: rest) ∧
      ∃ fuel' s₁ key s₂ value s₃ acc' s₄, fuel = fuel' + 1 ∧ readComma first (skipSpace s) = .ok ('"' :: s₁) ∧
        readString s₁ = .ok (key, s₂) ∧ member acc (String.ofList key) = .ok value ∧ readColon s₂ = .ok s₃ ∧
        value s₃ = .ok (acc', s₄) ∧ readMembers member fuel' false acc' s₄ = .ok (x, r) := by
  cases fuel with
  | zero => cases h
  | succ fuel =>
    rw [readMembers] at h
    dsimp only at h
    split at h
    · next hs =>
      cases h
      exact .inl ⟨hs, rfl⟩
    · next hs =>
      obtain ⟨s₁, hcomma, h⟩ := bind_eq_ok.1 h
      split at h
      · obtain ⟨⟨key, s₂⟩, hkey, h⟩ := bind_eq_ok.1 h
        obtain ⟨value, hmember, h⟩ := bind_eq_ok.1 h
        obtain ⟨s₃, hcolon, h⟩ := bind_eq_ok.1 h
        obtain ⟨⟨acc', s₄⟩, hvalue, h⟩ := bind_eq_ok.1 h
        exact .inr ⟨hs, _, _, _, _, _, _, _, _, rfl, hcomma, hkey, hmember, hcolon, hvalue, h⟩
      · cases h

theorem readItems_eq_ok {item : Reader α} {fuel : Nat} {first : Bool} {xs : List α} {s r : List Char}
    (h : readItems item fuel first s = .ok (xs, r)) :
    skipSpace s = ']' :: r ∧ xs = [] ∨
      (∀ rest, skipSpace s ≠ ']' :: rest) ∧
      ∃ fuel' s₁ y s₂ ys, fuel = fuel' + 1 ∧ readComma first (skipSpace s) = .ok s₁ ∧ item s₁ = .ok (y, s₂) ∧
        readItems item fuel' false s₂ = .ok (ys, r) ∧ xs = y :: ys := by
  cases fuel with
  | zero => cases h
  | succ fuel =>
    rw [readItems] at h
    dsimp only at h
    split at h
    · next hs =>
      cases h
      exact .inl ⟨hs, rfl⟩
    · next hs =>
      obtain ⟨s₁, hcomma, h⟩ := bind_eq_ok.1 h
      obtain ⟨⟨y, s₂⟩, hitem, h⟩ := bind_eq_ok.1 h
      obtain ⟨⟨ys, s₃⟩, hitems, h⟩ := bind_eq_ok.1 h
      cases h
      exact .inr ⟨hs, _, _, _, _, _, rfl, hcomma, hitem, hitems, rfl⟩

theorem readFields_eq_ok {fields : List (σ → Reader σ)} {first : Bool} {acc x : σ} {s r : List Char}
    (h : readFields fields first acc s = .ok (x, r)) :
    skipSpace s = ']' :: r ∧ x = acc ∨
      (∀ rest, skipSpace s ≠ ']' :: rest) ∧
      ∃ field fields' s₁ acc' s₂, fields = field :: fields' ∧ readComma first (skipSpace s) = .ok s₁ ∧
        field acc s₁ = .ok (acc', s₂) ∧ readFields fields' false acc' s₂ = .ok (x, r) := by
  cases fields with
  | nil =>
    rw [readFields] at h
    dsimp only at h
    split at h
    · next hs =>
      cases h
      exact .inl ⟨hs, rfl⟩
    · cases h
  | cons field fields =>
    rw [readFields] at h
    dsimp only at h
    split at h
    · next hs =>
      cases h
      exact .inl ⟨hs, rfl⟩
    · next hs =>
      obtain ⟨s₁, hcomma, h⟩ := bind_eq_ok.1 h
      obtain ⟨⟨acc', s₂⟩, hfield, h⟩ := bind_eq_ok.1 h
      exact .inr ⟨hs, _, _, _, _, _, rfl, hcomma, hfield, h⟩

theorem skipMembers_eq_ok {value : List Char → Except Fault (List Char)} {fuel : Nat} {first : Bool} {s r : List Char}
    (h : skipMembers value fuel first s = .ok r) :
    skipSpace s = '\x7d' :: r ∨
      (∀ rest, skipSpace s ≠ '\x7d' :: rest) ∧
      ∃ fuel' s₁ s₂ s₃ s₄, fuel = fuel' + 1 ∧ readComma first (skipSpace s) = .ok ('"' :: s₁) ∧
        skipString s₁ = .ok s₂ ∧ readColon s₂ = .ok s₃ ∧ value s₃ = .ok s₄ ∧
        skipMembers value fuel' false s₄ = .ok r := by
  cases fuel with
  | zero => cases h
  | succ fuel =>
    rw [skipMembers] at h
    split at h
    · next hs =>
      cases h
      exact .inl hs
    · next hs =>
      obtain ⟨s₁, hcomma, h⟩ := bind_eq_ok.1 h
      split at h
      · obtain ⟨s₂, hkey, h⟩ := bind_eq_ok.1 h
        obtain ⟨s₃, hcolon, h⟩ := bind_eq_ok.1 h
        obtain ⟨s₄, hvalue, h⟩ := bind_eq_ok.1 h
        exact .inr ⟨hs, _, _, _, _, _, rfl, hcomma, hkey, hcolon, hvalue, h⟩
      · cases h

theorem skipItems_eq_ok {value : List Char → Except Fault (List Char)} {fuel : Nat} {first : Bool} {s r : List Char}
    (h : skipItems value fuel first s = .ok r) :
    skipSpace s = ']' :: r ∨
      (∀ rest, skipSpace s ≠ ']' :: rest) ∧
      ∃ fuel' s₁ s₂, fuel = fuel' + 1 ∧ readComma first (skipSpace s) = .ok s₁ ∧ value s₁ = .ok s₂ ∧
        skipItems value fuel' false s₂ = .ok r := by
  cases fuel with
  | zero => cases h
  | succ fuel =>
    rw [skipItems] at h
    split at h
    · next hs =>
      cases h
      exact .inl hs
    · next hs =>
      obtain ⟨s₁, hcomma, h⟩ := bind_eq_ok.1 h
      obtain ⟨s₂, hvalue, h⟩ := bind_eq_ok.1 h
      exact .inr ⟨hs, _, _, _, rfl, hcomma, hvalue, h⟩

/-- An entry is put in once its value is read. -/
theorem readEntry_eq_ok {value : Reader α} {acc acc' : Entries α} {key : String} {reader : Reader (Entries α)}
    {s r : List Char} (hreader : readEntry value acc key = .ok reader) (h : reader s = .ok (acc', r)) :
    ∃ v, value s = .ok (v, r) ∧ acc' = acc.put key v := by
  cases hreader
  obtain ⟨⟨v, rest⟩, hv, h⟩ := bind_eq_ok.1 h
  cases h
  exact ⟨v, hv, rfl⟩

/-! ## Containers

Two runs over one container meet the same brackets and the same commas, so they stay
side by side for as long as the readers of the entries do. -/

theorem readMembers_agree {member : σ → String → Except Fault (Reader σ)}
    {member' : τ → String → Except Fault (Reader τ)} {R : σ → τ → Prop}
    (step : ∀ x y key value value' s x' y' r r', R x y → member x key = .ok value →
      member' y key = .ok value' → value s = .ok (x', r) → value' s = .ok (y', r') → R x' y' ∧ r' = r)
    {fuel fuel' : Nat} {first : Bool} {x x' : σ} {y y' : τ} {s r r' : List Char} (hR : R x y)
    (h : readMembers member fuel first x s = .ok (x', r)) (h' : readMembers member' fuel' first y s = .ok (y', r')) :
    R x' y' ∧ r' = r := by
  induction fuel generalizing fuel' first x y s with
  | zero => cases h
  | succ fuel ih =>
    rcases readMembers_eq_ok h with ⟨hs, rfl⟩ | ⟨hs, f, s₁, key, s₂, value, s₃, z, s₄, hf, hcomma, hkey, hmember,
      hcolon, hvalue, h⟩ <;>
    rcases readMembers_eq_ok h' with ⟨hs', rfl⟩ | ⟨hs', f', t₁, key', t₂, value', t₃, w, t₄, -, hcomma', hkey',
      hmember', hcolon', hvalue', h'⟩
    · have hrest : '\x7d' :: r = '\x7d' :: r' := hs.symm.trans hs'
      cases hrest
      exact ⟨hR, rfl⟩
    · exact absurd hs (hs' r)
    · exact absurd hs' (hs r')
    · cases hf
      cases hcomma.symm.trans hcomma'
      cases hkey.symm.trans hkey'
      cases hcolon.symm.trans hcolon'
      obtain ⟨hzw, rfl⟩ := step _ _ _ _ _ _ _ _ _ _ hR hmember hmember' hvalue hvalue'
      exact ih hzw h h'

theorem skipMembers_agree {member : σ → String → Except Fault (Reader σ)} {skip : List Char → Except Fault (List Char)}
    (step : ∀ x key value s x' r r', member x key = .ok value → value s = .ok (x', r) → skip s = .ok r' → r' = r)
    {fuel fuel' : Nat} {first : Bool} {x x' : σ} {s r r' : List Char}
    (h : readMembers member fuel first x s = .ok (x', r)) (h' : skipMembers skip fuel' first s = .ok r') : r' = r := by
  induction fuel generalizing fuel' first x s with
  | zero => cases h
  | succ fuel ih =>
    rcases readMembers_eq_ok h with ⟨hs, -⟩ | ⟨hs, f, s₁, key, s₂, value, s₃, z, s₄, hf, hcomma, hkey, hmember,
      hcolon, hvalue, h⟩ <;>
    rcases skipMembers_eq_ok h' with hs' | ⟨hs', f', t₁, t₂, t₃, t₄, -, hcomma', hkey', hcolon', hvalue', h'⟩
    · cases hs.symm.trans hs'
      rfl
    · exact absurd hs (hs' r)
    · exact absurd hs' (hs r')
    · cases hf
      cases hcomma.symm.trans hcomma'
      cases (skipString_of_readString hkey).symm.trans hkey'
      cases hcolon.symm.trans hcolon'
      cases step _ _ _ _ _ _ _ hmember hvalue hvalue'
      exact ih h h'

theorem readItems_agree {item item' : Reader α}
    (step : ∀ s x y r r', item s = .ok (x, r) → item' s = .ok (y, r') → y = x ∧ r' = r) {fuel fuel' : Nat}
    {first : Bool} {xs ys : List α} {s r r' : List Char} (h : readItems item fuel first s = .ok (xs, r))
    (h' : readItems item' fuel' first s = .ok (ys, r')) : ys = xs ∧ r' = r := by
  induction fuel generalizing fuel' first xs ys s with
  | zero => cases h
  | succ fuel ih =>
    rcases readItems_eq_ok h with ⟨hs, rfl⟩ | ⟨hs, f, s₁, x, s₂, xs', hf, hcomma, hitem, hrest, rfl⟩ <;>
    rcases readItems_eq_ok h' with ⟨hs', rfl⟩ | ⟨hs', f', t₁, y, t₂, ys', -, hcomma', hitem', hrest', rfl⟩
    · cases hs.symm.trans hs'
      exact ⟨rfl, rfl⟩
    · exact absurd hs (hs' r)
    · exact absurd hs' (hs r')
    · cases hf
      cases hcomma.symm.trans hcomma'
      obtain ⟨rfl, rfl⟩ := step _ _ _ _ _ hitem hitem'
      obtain ⟨rfl, rfl⟩ := ih hrest hrest'
      exact ⟨rfl, rfl⟩

theorem skipItems_agree {item : Reader α} {skip : List Char → Except Fault (List Char)}
    (step : ∀ s x r r', item s = .ok (x, r) → skip s = .ok r' → r' = r) {fuel fuel' : Nat} {first : Bool}
    {xs : List α} {s r r' : List Char} (h : readItems item fuel first s = .ok (xs, r))
    (h' : skipItems skip fuel' first s = .ok r') : r' = r := by
  induction fuel generalizing fuel' first xs s with
  | zero => cases h
  | succ fuel ih =>
    rcases readItems_eq_ok h with ⟨hs, -⟩ | ⟨hs, f, s₁, x, s₂, xs, hf, hcomma, hitem, h, -⟩ <;>
    rcases skipItems_eq_ok h' with hs' | ⟨hs', f', t₁, t₂, -, hcomma', hitem', h'⟩
    · cases hs.symm.trans hs'
      rfl
    · exact absurd hs (hs' r)
    · exact absurd hs' (hs r')
    · cases hf
      cases hcomma.symm.trans hcomma'
      cases step _ _ _ _ hitem hitem'
      exact ih h h'

/-! ## Values -/

/-- The inside of an array that is read, and of an object. What is neither is read without fuel for
what a container holds, and without room for one. -/
theorem readValue_eq_ok {fuel room : Nat} {s r : List Char} {v : Value} (h : readValue fuel room s = .ok (v, r)) :
    (∃ fuel' room' rest items, fuel = fuel' + 1 ∧ skipSpace s = '[' :: rest ∧ v = .array items ∧
        readItems (readValue fuel' room') fuel' true rest = .ok (items, r)) ∨
      (∃ fuel' room' rest members, fuel = fuel' + 1 ∧ skipSpace s = '\x7b' :: rest ∧ v = .object members ∧
        readMembers (readEntry (readValue fuel' room')) fuel' true [] rest = .ok (members, r)) ∨
      readValue 1 0 s = .ok (v, r) := by
  cases fuel with
  | zero => cases h
  | succ fuel =>
    rw [readValue] at h ⊢
    split at h
    case h_7 rest hs =>
      cases room with
      | zero => cases h
      | succ room =>
        obtain ⟨⟨items, rest'⟩, hitems, h⟩ := bind_eq_ok.1 h
        cases h
        exact .inl ⟨_, _, _, _, rfl, hs, rfl, hitems⟩
    case h_8 rest hs =>
      cases room with
      | zero => cases h
      | succ room =>
        obtain ⟨⟨members, rest'⟩, hmembers, h⟩ := bind_eq_ok.1 h
        cases h
        exact .inr (.inl ⟨_, _, _, _, rfl, hs, rfl, hmembers⟩)
    all_goals exact .inr (.inr h)

theorem skipValue_eq_ok {fuel : Nat} {s r : List Char} (h : skipValue fuel s = .ok r) :
    (∃ fuel' rest, fuel = fuel' + 1 ∧ skipSpace s = '[' :: rest ∧ skipItems (skipValue fuel') fuel' true rest = .ok r) ∨
      (∃ fuel' rest, fuel = fuel' + 1 ∧ skipSpace s = '\x7b' :: rest ∧
        skipMembers (skipValue fuel') fuel' true rest = .ok r) ∨
      skipValue 1 s = .ok r := by
  cases fuel with
  | zero => cases h
  | succ fuel =>
    rw [skipValue] at h ⊢
    split at h
    case h_6 rest hs => exact .inl ⟨_, _, rfl, hs, h⟩
    case h_7 rest hs => exact .inr (.inl ⟨_, _, rfl, hs, h⟩)
    all_goals exact .inr (.inr h)

/-- What holds no container is passed over as it is read. -/
theorem skipValue_one_of_readValue {s r : List Char} {v : Value} (h : readValue 1 0 s = .ok (v, r)) :
    skipValue 1 s = .ok r := by
  rw [readValue] at h
  rw [skipValue]
  split at h
  case h_1 => cases h
  case h_7 => cases h
  case h_8 => cases h
  case h_5 rest hs =>
    obtain ⟨⟨text, rest'⟩, htext, h⟩ := bind_eq_ok.1 h
    cases h
    rw [hs]
    exact skipString_of_readString htext
  case h_6 rest hs =>
    obtain ⟨⟨n, rest'⟩, hnumber, h⟩ := bind_eq_ok.1 h
    cases h
    rw [hs]
    exact skipNumber_of_readNumber hnumber
  case h_9 c rest hn ht hf hquote hminus harray hobject hs =>
    split at h
    · next hdigit =>
      obtain ⟨⟨n, rest'⟩, hnumber, h⟩ := bind_eq_ok.1 h
      cases h
      rw [hs]
      split <;> rename_i heq <;> cases heq
      case h_9 =>
        rw [if_pos hdigit]
        exact skipNumber_of_readNumber hnumber
      -- No other first character is a digit.
      all_goals exact absurd hdigit (by decide)
    · cases h
  all_goals
    next hs =>
    obtain ⟨rest', hword, h⟩ := bind_eq_ok.1 h
    cases h
    rw [hs]
    exact hword

/-- What is read to be kept and what is passed over is the same part of the text. -/
theorem skipValue_agrees {fuel fuel' room : Nat} {s r r' : List Char} {v : Value}
    (h : readValue fuel room s = .ok (v, r)) (h' : skipValue fuel' s = .ok r') : r' = r := by
  induction fuel generalizing fuel' room s v r r' with
  | zero => cases h
  | succ fuel ih =>
    -- Each run meets an array, an object, or neither, and both meet the same.
    rcases readValue_eq_ok h with ⟨_, room, rest, items, ⟨⟩, hs, rfl, hitems⟩ |
      ⟨_, room, rest, members, ⟨⟩, hs, rfl, hmembers⟩ | h <;>
    rcases skipValue_eq_ok h' with ⟨f', rest', rfl, hs', hitems'⟩ | ⟨f', rest', rfl, hs', hmembers'⟩ | h'
    · cases hs.symm.trans hs'
      exact skipItems_agree (fun _ _ _ _ => ih) hitems hitems'
    · cases hs.symm.trans hs'
    · rw [skipValue, hs] at h'
      cases h'
    · cases hs.symm.trans hs'
    · cases hs.symm.trans hs'
      refine skipMembers_agree (fun acc key value s x r r' hmember hread hskip => ?_) hmembers hmembers'
      obtain ⟨w, hw, -⟩ := readEntry_eq_ok hmember hread
      exact ih hw hskip
    · rw [skipValue, hs] at h'
      cases h'
    · rw [readValue, hs'] at h
      cases h
    · rw [readValue, hs'] at h
      cases h
    · cases (skipValue_one_of_readValue h).symm.trans h'
      rfl

/-- A value does not depend on the fuel and the room that it is read with. -/
theorem readValue_agrees {fuel fuel' room room' : Nat} {s r r' : List Char} {v v' : Value}
    (h : readValue fuel room s = .ok (v, r)) (h' : readValue fuel' room' s = .ok (v', r')) : v' = v ∧ r' = r := by
  induction fuel generalizing fuel' room room' s v v' r r' with
  | zero => cases h
  | succ fuel ih =>
    -- Each run meets an array, an object, or neither, and both meet the same.
    rcases readValue_eq_ok h with ⟨_, room, rest, items, ⟨⟩, hs, rfl, hitems⟩ |
      ⟨_, room, rest, members, ⟨⟩, hs, rfl, hmembers⟩ | h <;>
    rcases readValue_eq_ok h' with ⟨f', room', rest', items', rfl, hs', rfl, hitems'⟩ |
      ⟨f', room', rest', members', rfl, hs', rfl, hmembers'⟩ | h'
    · cases hs.symm.trans hs'
      obtain ⟨rfl, rfl⟩ := readItems_agree (fun _ _ _ _ _ => ih) hitems hitems'
      exact ⟨rfl, rfl⟩
    · cases hs.symm.trans hs'
    · rw [readValue, hs] at h'
      cases h'
    · cases hs.symm.trans hs'
    · cases hs.symm.trans hs'
      obtain ⟨rfl, rfl⟩ := readMembers_agree (R := Eq)
        (fun x y key value value' s x' y' r r' hxy hmember hmember' hread hread' => by
          obtain ⟨w, hw, rfl⟩ := readEntry_eq_ok hmember hread
          obtain ⟨w', hw', rfl⟩ := readEntry_eq_ok hmember' hread'
          obtain ⟨rfl, rfl⟩ := ih hw hw'
          exact ⟨by rw [hxy], rfl⟩) rfl hmembers hmembers'
      exact ⟨rfl, rfl⟩
    · rw [readValue, hs] at h'
      cases h'
    · rw [readValue, hs'] at h
      cases h
    · rw [readValue, hs'] at h
      cases h
    · cases h.symm.trans h'
      exact ⟨rfl, rfl⟩

/-- Where a reader and the reader of values both succeed on a text, they have read the same part of
it, and what they have made of it is related. -/
def Agrees (reader : Reader α) (rel : α → Value → Prop) : Prop :=
  ∀ ⦃s r r' : List Char⦄ ⦃x : α⦄ ⦃fuel room : Nat⦄ ⦃v : Value⦄,
    reader s = .ok (x, r) → readValue fuel room s = .ok (v, r') → rel x v ∧ r' = r

theorem Agrees.mono {reader : Reader α} {rel rel' : α → Value → Prop} (h : Agrees reader rel)
    (hrel : ∀ x v, rel x v → rel' x v) : Agrees reader rel' := fun _ _ _ _ _ _ _ hx hv =>
  ⟨hrel _ _ (h hx hv).1, (h hx hv).2⟩

end LuaStubs.Json
