import LuaStubs.Proofs.Attempt
import LuaStubs.Proofs.Proto.Declarations

/-!
# Layout of message bodies

How the tokens of a body stand on their lines is not all the same: a declaration is read only where it
begins a line, and a dotted name only without white space in it. `KeepsLayout` compares two bodies in just
these points. Bodies with the same tokens that agree in them declare the same fields
(`Document.message_of_keepsLayout`).

The passes over tokens look at their texts alone. This is stated with `Token.bare`, a token of which only
the text is left: each pass over bare tokens gives bare what it gives else (`withoutNested_bare`,
`withoutArguments_bare`, `declaration?_bare`).
-/

namespace LuaStubs.Proto

/-! ## Bare tokens -/

/-- The token with nothing but its text. -/
def Token.bare (x : Token) : Token := ⟨x.text, false, false⟩

@[simp] theorem Token.text_bare (x : Token) : x.bare.text = x.text := rfl

theorem map_bare_eq_iff {xs ys : List Token} :
    xs.map Token.bare = ys.map Token.bare ↔ xs.map Token.text = ys.map Token.text := by
  constructor
  · intro h
    have htext := congrArg (List.map Token.text) h
    rwa [List.map_map, List.map_map] at htext
  · intro h
    have hbare := congrArg (List.map fun w => Token.mk w false false) h
    rwa [List.map_map, List.map_map] at hbare

theorem dropMark?_bare (mark : Char) (xs : List Token) :
    dropMark? mark (xs.map Token.bare) = (dropMark? mark xs).map (List.map Token.bare) := by
  cases xs with
  | nil => rfl
  | cons x xs =>
    rw [List.map_cons, dropMark?, dropMark?, Token.text_bare]
    split <;> rfl

theorem behind?_bare (mark : Char) (xs : List Token) :
    behind? mark (xs.map Token.bare) = (behind? mark xs).map (List.map Token.bare) := by
  induction xs with
  | nil => rfl
  | cons x xs ih =>
    rw [List.map_cons, behind?, behind?, Token.text_bare, ih]
    split <;> rfl

/-! ## Own tokens -/

theorem behindClose_bare (depth : Nat) (xs : List Token) :
    behindClose depth (xs.map Token.bare) = (behindClose depth xs).map Token.bare := by
  induction xs generalizing depth with
  | nil => rfl
  | cons x xs ih =>
    rw [List.map_cons, behindClose.eq_def, behindClose.eq_def depth (x :: xs)]
    dsimp only
    rw [Token.text_bare]
    by_cases hopen : x.text = ['\x7b']
    · simp only [if_pos hopen, ih]
    · by_cases hclose : x.text = ['\x7d']
      · simp only [if_neg hopen, if_pos hclose]
        cases depth with
        | zero => rfl
        | succ depth => exact ih depth
      · simp only [if_neg hopen, if_neg hclose, ih]

theorem insideNested?_bare (xs : List Token) :
    insideNested? (xs.map Token.bare) = (insideNested? xs).map (List.map Token.bare) := by
  have hopened : ∀ ys : List Token, opened? (ys.map Token.bare) = (opened? ys).map (List.map Token.bare) := by
    intro ys
    cases ys with
    | nil => rfl
    | cons y ys =>
      rw [List.map_cons, opened?, opened?, Token.text_bare, dropMark?_bare]
      split <;> rfl
  cases xs with
  | nil => rfl
  | cons x xs =>
    rw [List.map_cons, insideNested?, insideNested?, Token.text_bare, hopened]
    split <;> rfl

theorem movedTo_bare (x : Token) (xs : List Token) :
    movedTo x.bare (xs.map Token.bare) = (movedTo x xs).map Token.bare := by
  cases xs <;> rfl

theorem withoutNested_bare (xs : List Token) :
    withoutNested (xs.map Token.bare) = (withoutNested xs).map Token.bare := by
  fun_induction withoutNested xs with
  | case1 => rw [List.map_nil, withoutNested]
  | case2 x xs inside h ih =>
    have hbare := insideNested?_bare (x :: xs)
    rw [h, Option.map_some, List.map_cons] at hbare
    rw [List.map_cons, withoutNested_of_insideNested? hbare, behindClose_bare, movedTo_bare, ih]
  | case3 x xs h ih =>
    have hbare := insideNested?_bare (x :: xs)
    rw [h, Option.map_none, List.map_cons] at hbare
    rw [List.map_cons, withoutNested_cons hbare, ih, List.map_cons]

theorem behindArguments?_bare (xs : List Token) :
    behindArguments? (xs.map Token.bare) = (behindArguments? xs).map (List.map Token.bare) := by
  rw [behindArguments?, behindArguments?, dropMark?_bare]
  cases dropMark? '<' xs with
  | none => rfl
  | some ys => exact behind?_bare '>' ys

theorem withoutArguments_bare (xs : List Token) :
    withoutArguments (xs.map Token.bare) = (withoutArguments xs).map Token.bare := by
  induction h : xs.length using Nat.strongRecOn generalizing xs with
  | _ n ih =>
    subst h
    cases xs with
    | nil => rw [List.map_nil, withoutArguments]; rfl
    | cons x xs =>
      by_cases hx : ['m', 'a', 'p'] <:+ x.text
      · rw [List.map_cons, withoutArguments_map hx, withoutArguments_map (x := x.bare) hx,
          behindArguments?_bare, Option.getD_map, List.map_cons, ih _ _ _ rfl]
        cases hrest : behindArguments? xs with
        | none => exact Nat.lt_succ_self _
        | some rest => exact Nat.lt_succ_of_lt (length_behindArguments? hrest)
      · rw [List.map_cons, withoutArguments_cons hx, withoutArguments_cons (x := x.bare) hx,
          List.map_cons, ih xs.length (by simp) xs rfl]

/-- Bodies with the same tokens have the same own tokens. -/
theorem text_ownTokens {b b' : List Char} (h : (tokens b).map Token.text = (tokens b').map Token.text) :
    (ownTokens b).map Token.text = (ownTokens b').map Token.text := by
  rw [← map_bare_eq_iff] at h ⊢
  rw [ownTokens, ownTokens, ← withoutArguments_bare, ← withoutArguments_bare, ← withoutNested_bare,
    ← withoutNested_bare, h]

/-! ## Dotted words -/

/-- For each two words or dots that follow one another, whether there is white space between them. -/
def joints : List Token → List Bool
  | x :: y :: xs => if x.isDotted ∧ y.isDotted then y.apart :: joints (y :: xs) else joints (y :: xs)
  | _ => []

/-- A token that others are joined to stands where it stood, and is a word or a dot if it was one. -/
theorem exists_joined (x : Token) (xs : List Token) : ∃ y ys,
    joined (x :: xs) = y :: ys ∧ y.apart = x.apart ∧ y.isDotted = x.isDotted := by
  rw [joined_cons]
  cases joined xs with
  | nil => exact ⟨x, [], rfl, rfl, rfl⟩
  | cons z zs =>
    rw [Token.join]
    split
    · next h =>
      refine ⟨_, zs, rfl, rfl, ?_⟩
      have hall : (x.text ++ z.text).all isTypePart = true := by
        rw [List.all_append]
        exact Bool.and_eq_true_iff.2 ⟨h.1, h.2.1⟩
      exact Eq.trans hall h.1.symm
    · exact ⟨x, z :: zs, rfl, rfl, rfl⟩

/-- Tokens with the same texts are joined to tokens with the same texts if the white space between them is
the same. -/
theorem text_join {x y z w : Token} {zs ws : List Token} (hx : x.text = y.text)
    (hrest : (z :: zs).map Token.text = (w :: ws).map Token.text)
    (hapart : x.isDotted ∧ z.isDotted → z.apart = w.apart) :
    (x.join (z :: zs)).map Token.text = (y.join (w :: ws)).map Token.text := by
  obtain ⟨hz, hzs⟩ := List.cons.inj hrest
  have hfirst : x.isDotted = y.isDotted := congrArg (List.all · isTypePart) hx
  have hsecond : z.isDotted = w.isDotted := congrArg (List.all · isTypePart) hz
  rw [Token.join, Token.join, ← hfirst, ← hsecond]
  by_cases hboth : x.isDotted ∧ z.isDotted
  · rw [hapart hboth]
    split
    · simp only [List.map_cons, hx, hz, hzs]
    · simp only [List.map_cons, hx, hz, hzs]
  · rw [if_neg fun h => hboth ⟨h.1, h.2.1⟩, if_neg fun h => hboth ⟨h.1, h.2.1⟩]
    simp only [List.map_cons, hx, hz, hzs]

/-- The white space before the second token is compared if both are words or dots. -/
theorem joints_cons_cons {x y x₂ y₂ : Token} {xs ys : List Token} (hfirst : x.isDotted = y.isDotted)
    (hsecond : x₂.isDotted = y₂.isDotted) (h : joints (x :: x₂ :: xs) = joints (y :: y₂ :: ys)) :
    joints (x₂ :: xs) = joints (y₂ :: ys) ∧ (x.isDotted ∧ x₂.isDotted → x₂.apart = y₂.apart) := by
  rw [joints, joints, ← hfirst, ← hsecond] at h
  split at h
  · obtain ⟨hsame, htail⟩ := List.cons.inj h
    exact ⟨htail, fun _ => hsame⟩
  · next hnot => exact ⟨h, fun hboth => absurd hboth hnot⟩

/-- Dotted words have the same texts if the white space in them is the same. -/
theorem text_joined {xs ys : List Token} (htext : xs.map Token.text = ys.map Token.text)
    (hjoints : joints xs = joints ys) : (joined xs).map Token.text = (joined ys).map Token.text := by
  induction xs generalizing ys with
  | nil =>
    rw [List.map_eq_nil_iff.1 htext.symm]
  | cons x xs ih =>
    obtain ⟨y, ys, rfl⟩ : ∃ y zs, ys = y :: zs := List.exists_cons_of_ne_nil (by rintro rfl; cases htext)
    obtain ⟨hx, htext⟩ := List.cons.inj htext
    match xs, ys with
    | [], [] =>
      rw [joined, joined]
      exact congrArg (· :: []) hx
    | [], _ :: _ => cases htext
    | _ :: _, [] => cases htext
    | x₂ :: xs, y₂ :: ys =>
      have hfirst : x.isDotted = y.isDotted := congrArg (List.all · isTypePart) hx
      have hsecond : x₂.isDotted = y₂.isDotted := congrArg (List.all · isTypePart) (List.cons.inj htext).1
      obtain ⟨htail, hapart⟩ := joints_cons_cons hfirst hsecond hjoints
      have hrest := ih htext htail
      obtain ⟨z, zs, hz, hzapart, hzdotted⟩ := exists_joined x₂ xs
      obtain ⟨w, ws, hw, hwapart, -⟩ := exists_joined y₂ ys
      rw [hz, hw] at hrest
      rw [joined_cons x, joined_cons y, hz, hw]
      refine text_join hx hrest fun hboth => ?_
      rw [hzapart, hwapart]
      exact hapart ⟨hboth.1, hzdotted ▸ hboth.2⟩

/-! ## Declarations -/

theorem ending?_bare (xs : List Token) :
    ending? (xs.map Token.bare) = (ending? xs).map (List.map Token.bare) := by
  rw [ending?, ending?, dropMark?_bare]
  cases dropMark? '[' xs with
  | none => exact dropMark?_bare ';' xs
  | some inside =>
    simp only [Option.map_some]
    rw [behind?_bare]
    cases behind? ']' inside with
    | none => rfl
    | some rest => exact dropMark?_bare ';' rest

theorem tagged?_bare (xs : List Token) :
    tagged? (xs.map Token.bare) = (tagged? xs).map (List.map Token.bare) := by
  cases xs with
  | nil => rfl
  | cons x xs =>
    rw [List.map_cons, tagged?, tagged?, ending?_bare, Token.text_bare]
    split <;> rfl

theorem named?_bare (xs : List Token) :
    named? (xs.map Token.bare) = (named? xs).map (Prod.map id (List.map Token.bare)) := by
  cases xs with
  | nil => rfl
  | cons x xs =>
    rw [List.map_cons, named?, named?, dropMark?_bare, Token.text_bare]
    split
    · cases dropMark? '=' xs with
      | none => rfl
      | some ys =>
        rw [Option.map_some, Option.bind_some, Option.bind_some, tagged?_bare]
        cases tagged? ys <;> rfl
    · rfl

theorem unqualified?_bare (repeated : Bool) (xs : List Token) :
    unqualified? repeated (xs.map Token.bare) =
      (unqualified? repeated xs).map (Prod.map id (List.map Token.bare)) := by
  cases xs with
  | nil => rfl
  | cons x xs =>
    rw [List.map_cons, unqualified?, unqualified?, named?_bare, Token.text_bare]
    split
    · cases named? xs <;> rfl
    · rfl

theorem declaration?_bare (xs : List Token) :
    declaration? (xs.map Token.bare) = (declaration? xs).map (Prod.map id (List.map Token.bare)) := by
  have hqualified : qualified? (xs.map Token.bare) =
      (qualified? xs).map (Prod.map id (List.map Token.bare)) := by
    cases xs with
    | nil => rfl
    | cons x xs =>
      rw [List.map_cons, qualified?, qualified?, Token.text_bare]
      cases qualifier? x.text with
      | none => rfl
      | some repeated => exact unqualified?_bare repeated xs
  rw [declaration?, declaration?, hqualified, unqualified?_bare, Option.map_or]

/-- For each place where a declaration can be read, whether it begins a line there. What is inside of a
declaration that does is passed over. -/
def lineStarts (xs : List Token) : List Bool :=
  match xs with
  | [] => []
  | x :: xs =>
    match _h : declaration? (x :: xs) with
    | some (_, rest) => x.first :: lineStarts (if x.first then rest else xs)
    | none => lineStarts xs
termination_by xs.length
decreasing_by
  · split
    · exact length_declaration? _h
    · simp
  · simp

theorem lineStarts_of_declaration? {x : Token} {xs rest : List Token} {f : Field}
    (h : declaration? (x :: xs) = some (f, rest)) :
    lineStarts (x :: xs) = x.first :: lineStarts (if x.first then rest else xs) := by
  rw [lineStarts]
  split
  · next heq => rw [h] at heq; cases heq; rfl
  · next heq => rw [h] at heq; cases heq

theorem lineStarts_cons {x : Token} {xs : List Token} (h : declaration? (x :: xs) = none) :
    lineStarts (x :: xs) = lineStarts xs := by
  rw [lineStarts]
  split
  · next heq => rw [h] at heq; cases heq
  · rfl

/-- From tokens with the same texts the same declaration is read, if there is one, and what is behind it has
the same texts. -/
theorem declaration?_cases {xs ys : List Token} (htext : xs.map Token.text = ys.map Token.text) :
    declaration? xs = none ∧ declaration? ys = none ∨
      ∃ f rest rest', declaration? xs = some (f, rest) ∧ declaration? ys = some (f, rest') ∧
        rest.map Token.text = rest'.map Token.text := by
  have hread : (declaration? xs).map (Prod.map id (List.map Token.bare)) =
      (declaration? ys).map (Prod.map id (List.map Token.bare)) := by
    rw [← declaration?_bare, ← declaration?_bare, map_bare_eq_iff.2 htext]
  cases hx : declaration? xs with
  | none =>
    rw [hx, Option.map_none] at hread
    exact .inl ⟨rfl, Option.map_eq_none_iff.1 hread.symm⟩
  | some p =>
    rw [hx, Option.map_some] at hread
    obtain ⟨⟨g, rest'⟩, hy, heq⟩ := Option.map_eq_some_iff.1 hread.symm
    obtain ⟨rfl, hrest⟩ := Prod.mk.inj heq
    exact .inr ⟨p.1, p.2, rest', rfl, hy, map_bare_eq_iff.1 hrest.symm⟩

/-- The same declarations are read from tokens with the same texts if the same ones begin a line. -/
theorem declarations_eq_of_lineStarts {xs ys : List Token} (htext : xs.map Token.text = ys.map Token.text)
    (hstarts : lineStarts xs = lineStarts ys) : declarations xs = declarations ys := by
  -- Behind a declaration the scan goes on after many tokens at once, so the induction is on the length.
  induction h : xs.length using Nat.strongRecOn generalizing xs ys with
  | _ n ih =>
    subst h
    match xs, ys with
    | [], [] => rfl
    | [], _ :: _ => cases htext
    | _ :: _, [] => cases htext
    | x :: xs, y :: ys =>
      have hnext : xs.map Token.text = ys.map Token.text := (List.cons.inj htext).2
      obtain ⟨hx, hy⟩ | ⟨f, rest, rest', hx, hy, hrest⟩ := declaration?_cases htext
      · rw [lineStarts_cons hx, lineStarts_cons hy] at hstarts
        rw [declarations_cons fun _ => hx, declarations_cons fun _ => hy]
        exact ih xs.length (by simp) hnext hstarts rfl
      · rw [lineStarts_of_declaration? hx, lineStarts_of_declaration? hy] at hstarts
        obtain ⟨hfirst, hstarts⟩ := List.cons.inj hstarts
        rw [← hfirst] at hstarts
        cases hline : x.first with
        | true =>
          rw [hline, if_pos rfl, if_pos rfl] at hstarts
          rw [declarations_of_declaration? hline hx, declarations_of_declaration? (hfirst ▸ hline) hy,
            ih rest.length (length_declaration? hx) hrest hstarts rfl]
        | false =>
          rw [hline, if_neg Bool.false_ne_true, if_neg Bool.false_ne_true] at hstarts
          have hlater : ∀ z : Token, z.first = x.first → z.first ≠ true := fun z hz h => by
            rw [hz, hline] at h
            cases h
          rw [declarations_cons fun h => absurd h (hlater x rfl),
            declarations_cons fun h => absurd h (hlater y hfirst.symm)]
          exact ih xs.length (by simp) hnext hstarts rfl

/-! ## Bodies -/

/-- Two bodies are laid out alike in the points that the fields depend on: the white space in dotted
words, and the declarations that begin a line. -/
structure KeepsLayout (b b' : List Char) : Prop where
  joints : joints (ownTokens b) = joints (ownTokens b')
  lineStarts : lineStarts (joined (ownTokens b)) = lineStarts (joined (ownTokens b'))

theorem bodyFields_eq_of_keepsLayout {b b' : List Char}
    (htokens : (tokens b).map Token.text = (tokens b').map Token.text) (h : KeepsLayout b b') :
    Document.bodyFields b = Document.bodyFields b' := by
  have hjoined := text_joined (text_ownTokens htokens) h.joints
  rw [bodyFields_eq, bodyFields_eq, declarations_eq_of_lineStarts hjoined h.lineStarts]

/-- Messages whose bodies have the same tokens, with other white space between them, have the same
fields if the layouts agree in what declarations depend on. -/
theorem Document.message_of_keepsLayout {d d' : Document} {name name' : String} {b b' : List Char}
    (hb : d.block .message name = .ok b) (hb' : d'.block .message name' = .ok b')
    (htokens : (tokens b).map Token.text = (tokens b').map Token.text) (hlayout : KeepsLayout b b') :
    ∃ fields, d.message name = .ok (.ofFields name fields) ∧
      d'.message name' = .ok (.ofFields name' fields) := by
  refine ⟨bodyFields b, ?_, ?_⟩
  · rw [message, hb]
    rfl
  · rw [message, hb', bodyFields_eq_of_keepsLayout htokens hlayout]
    rfl

/-- A message as it is usually written. -/
def airy : Document :=
  .ofText "message A \x7b\n repeated x.Y a = 1;\n enum E \x7b B = 0; \x7d\n map<K, V> m = 2;\n\x7d"

/-- The same message with a line break behind the qualifier, a declaration right behind the opening brace and
no white space beside most marks. -/
def dense : Document :=
  .ofText "message A \x7brepeated\n\tx.Y\ta=1;enum E\x7b\nB=0;\x7d\nmap < K,V > m=2;\n\x7d"

theorem Document.message_of_keepsLayout_dense : ∃ fields,
    airy.message "A" = .ok (.ofFields "A" fields) ∧ dense.message "A" = .ok (.ofFields "A" fields) ∧
      fields = [⟨"a", "x.Y", true⟩, ⟨"m", "map", false⟩] := by
  have hairy : airy.block .message "A" =
      .ok "\n repeated x.Y a = 1;\n enum E \x7b B = 0; \x7d\n map<K, V> m = 2;".toList :=
    toOption_eq_some_iff.1 (by decide +kernel)
  have hdense : dense.block .message "A" =
      .ok "repeated\n\tx.Y\ta=1;enum E\x7b\nB=0;\x7d\nmap < K,V > m=2;".toList :=
    toOption_eq_some_iff.1 (by decide +kernel)
  obtain ⟨fields, hfields, hfields'⟩ := message_of_keepsLayout hairy hdense (by decide +kernel)
    ⟨by decide +kernel, by decide +kernel⟩
  refine ⟨fields, hfields, hfields', ?_⟩
  have hread : (airy.message "A").toOption.map Message.fields =
      some [⟨"a", "x.Y", true⟩, ⟨"m", "map", false⟩] := by decide +kernel
  rw [hfields] at hread
  exact Option.some.inj hread

/-- The texts of the tokens in the body of a message. -/
def Document.tokenTexts (d : Document) (name : String) : Option (List (List Char)) :=
  (d.block .message name).toOption.map fun b => (tokens b).map Token.text

/-- Of two declarations on one line the second is lost, and so is one with white space in its dotted type. -/
theorem Document.message_ne_of_layout :
    (ofText "message A \x7b\n T a = 1;\n T b = 2;\n\x7d\n").tokenTexts "A" =
        (ofText "message A \x7b\n T a = 1; T b = 2;\n\x7d\n").tokenTexts "A" ∧
      ((ofText "message A \x7b\n T a = 1;\n T b = 2;\n\x7d\n").message "A").toOption.map Message.fields =
        some [⟨"a", "T", false⟩, ⟨"b", "T", false⟩] ∧
      ((ofText "message A \x7b\n T a = 1; T b = 2;\n\x7d\n").message "A").toOption.map Message.fields =
        some [⟨"a", "T", false⟩] ∧
      (ofText "message A \x7b\n x.Y a = 1;\n\x7d\n").tokenTexts "A" =
        (ofText "message A \x7b\n x . Y a = 1;\n\x7d\n").tokenTexts "A" ∧
      ((ofText "message A \x7b\n x.Y a = 1;\n\x7d\n").message "A").toOption.map Message.fields =
        some [⟨"a", "x.Y", false⟩] ∧
      ((ofText "message A \x7b\n x . Y a = 1;\n\x7d\n").message "A").toOption.map Message.fields = some [] := by
  decide +kernel

end LuaStubs.Proto
