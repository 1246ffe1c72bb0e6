import LuaStubs.Proofs.Proto.Comments
import LuaStubs.Proofs.Text.Search
import LuaStubs.Proto.Document

/-!
# Comments found by one scan

A scan from left to right cuts protocol text into comments and what is outside of
them (`parts`), where a mark inside a comment has no meaning; `literals` says whether
string literals are taken for what they are. `dropComments` goes through the text twice
and knows no literals. It leaves what the scan finds outside comments just where no
mark stands in a place that only the scan tells apart (`Separate`).
-/

namespace LuaStubs.Proto

/-! ## The scan -/

/-- A part of protocol text. -/
inductive Part where
  /-- A character outside comments and literals. -/
  | char (c : Char)
  /-- A string literal with its quotation marks. -/
  | literal (s : List Char)
  /-- A line comment: what stands behind its mark. -/
  | line (s : List Char)
  /-- A block comment: what stands between its marks. -/
  | block (s : List Char)
  deriving DecidableEq, Repr

namespace Part

/-- A part as it stands in the text. -/
def spelled : Part → List Char
  | char c => [c]
  | literal s => s
  | line s => '/' :: '/' :: s
  | block s => '/' :: '*' :: (s ++ ['*', '/'])

/-- What a part leaves when comments are removed. -/
def kept : Part → List Char
  | char c => [c]
  | literal s => s
  | line _ => []
  | block _ => []

end Part

/-- Reads a string literal from behind its quotation mark on, up to the next such mark that no
backslash escapes. It ends on the line that it starts on. -/
def literalEnd? (quote : Char) : List Char → Option (List Char × List Char)
  | [] => none
  | '\n' :: _ => none
  | '\\' :: c :: cs => if c = '\n' then none else (literalEnd? quote cs).map fun p => ('\\' :: c :: p.1, p.2)
  | c :: cs => if c = quote then some ([c], cs) else (literalEnd? quote cs).map fun p => (c :: p.1, p.2)

/-- Reads a string literal, if literals are looked for. -/
def literal? (literals : Bool) : List Char → Option (List Char × List Char)
  | [] => none
  | c :: cs =>
    if literals ∧ (c = '"' ∨ c = '\'') then (literalEnd? c cs).map fun p => (c :: p.1, p.2) else none

theorem of_literalEnd? {quote : Char} {s l rest : List Char} (h : literalEnd? quote s = some (l, rest)) :
    s = l ++ rest ∧ ∃ inside, l = inside ++ [quote] := by
  fun_induction literalEnd? quote s generalizing l with
  | case1 => cases h
  | case2 => cases h
  | case3 => cases h
  | case4 c cs hc ih =>
    obtain ⟨p, hp, heq⟩ := Option.map_eq_some_iff.1 h
    cases heq
    obtain ⟨rfl, inside, hinside⟩ := ih hp
    exact ⟨rfl, '\\' :: c :: inside, by rw [hinside]; rfl⟩
  | case5 cs =>
    cases h
    exact ⟨rfl, [], rfl⟩
  | case6 c cs _ _ hc ih =>
    obtain ⟨p, hp, heq⟩ := Option.map_eq_some_iff.1 h
    cases heq
    obtain ⟨rfl, inside, hinside⟩ := ih hp
    exact ⟨rfl, c :: inside, by rw [hinside]; rfl⟩

/-- A literal is the beginning of its text, and ends with a quotation mark. -/
theorem of_literal? {literals : Bool} {s l rest : List Char} (h : literal? literals s = some (l, rest)) :
    s = l ++ rest ∧ ∃ inside quote, l = inside ++ [quote] ∧ (quote = '"' ∨ quote = '\'') := by
  cases s with
  | nil => cases h
  | cons c cs =>
    rw [literal?] at h
    split at h
    · next hc =>
      obtain ⟨p, hp, heq⟩ := Option.map_eq_some_iff.1 h
      cases heq
      obtain ⟨rfl, inside, hinside⟩ := of_literalEnd? hp
      exact ⟨rfl, c :: inside, c, by rw [hinside]; rfl, hc.2⟩
    · cases h

/-- The parts of a text. -/
def parts (literals : Bool) (s : List Char) : List Part :=
  match s with
  | [] => []
  | '/' :: '/' :: cs => .line (cs.takeWhile (· != '\n')) :: parts literals (cs.dropWhile (· != '\n'))
  | '/' :: '*' :: body =>
    match _h : Text.splitAt? ['*', '/'] body with
    | some (inside, rest) => .block inside :: parts literals rest
    | none => .char '/' :: parts literals ('*' :: body)
  | c :: cs =>
    match _h : literal? literals (c :: cs) with
    | some (l, rest) => .literal l :: parts literals rest
    | none => .char c :: parts literals cs
termination_by s.length
decreasing_by
  · have : (cs.dropWhile (· != '\n')).length ≤ cs.length := (List.dropWhile_sublist _).length_le
    simp only [List.length_cons]
    omega
  · have : rest.length ≤ body.length := Text.length_of_splitAt? _h
    simp only [List.length_cons]
    omega
  · simp
  · obtain ⟨heq, inside, quote, rfl, -⟩ := of_literal? _h
    rw [heq]
    simp only [List.length_append, List.length_cons, List.length_nil]
    omega
  · simp

/-- The parts are the whole text. -/
theorem spelled_parts (literals : Bool) (s : List Char) : (parts literals s).flatMap Part.spelled = s := by
  fun_induction parts literals s with
  | case1 => rfl
  | case2 cs ih =>
    rw [List.flatMap_cons, ih, Part.spelled, List.cons_append, List.cons_append, List.takeWhile_append_dropWhile]
  | case3 body inside rest hsplit ih =>
    rw [List.flatMap_cons, ih, Part.spelled, Text.eq_of_splitAt? hsplit]
    simp only [List.cons_append, List.nil_append, List.append_assoc]
  | case4 body hsplit ih => rw [List.flatMap_cons, ih, Part.spelled, List.singleton_append]
  | case5 c cs _ _ l rest hliteral ih => rw [List.flatMap_cons, ih, Part.spelled, (of_literal? hliteral).1]
  | case6 c cs _ _ hliteral ih => rw [List.flatMap_cons, ih, Part.spelled, List.singleton_append]

/-- A mark inside a comment or a literal has no meaning. -/
example : parts true "/* // */ \"//\" // /*".toList =
    [.block " // ".toList, .char ' ', .literal "\"//\"".toList, .char ' ', .line " /*".toList] := by
  decide +kernel

/-- What the scan finds outside comments. -/
def outside (literals : Bool) (s : List Char) : List Char := (parts literals s).flatMap Part.kept

/-! ## Marks in other places -/

/-- Whether `*/` occurs in a text. -/
def closesBlock (s : List Char) : Bool := Text.hasInfix ['*', '/'] s

/-- Whether every `/*` in a text that `rest` follows is closed in the text itself, or nowhere. -/
def closesWithin (rest : List Char) (s : List Char) : Bool :=
  match s with
  | [] => true
  | '/' :: '*' :: body =>
    match _h : Text.splitAt? ['*', '/'] body with
    | some (_, more) => closesWithin rest more
    | none => !closesBlock (body ++ rest)
  | _ :: cs => closesWithin rest cs
termination_by s.length
decreasing_by
  · have : more.length ≤ body.length := Text.length_of_splitAt? _h
    simp only [List.length_cons]
    omega
  · simp

/-- Whether no `/*` in a text that `rest` follows is closed anywhere. -/
def closesNowhere (rest : List Char) : List Char → Bool
  | [] => true
  | '/' :: '*' :: body => !closesBlock (body ++ rest)
  | _ :: cs => closesNowhere rest cs

/-- No mark stands where one scan and two passes take it for different things: the block comments that
a line comment seems to open are over before it ends, and literals hold no marks. A mark that is not
closed opens nothing. -/
def Separate : List Part → Prop
  | [] => True
  | .line s :: ps =>
    let rest := ps.flatMap Part.spelled
    (s.head? = some '*' → closesBlock (s ++ rest) = false) ∧ closesWithin rest s = true ∧ Separate ps
  | .literal s :: ps =>
    let rest := ps.flatMap Part.spelled
    Text.hasInfix ['/', '/'] s = false ∧ closesNowhere rest s = true ∧ Separate ps
  | _ :: ps => Separate ps

/-- Marks can be told to be separate by going through the parts. -/
def Separate.decide : (ps : List Part) → Decidable (Separate ps)
  | [] => isTrue trivial
  | .line s :: ps =>
    have := Separate.decide ps
    inferInstanceAs (Decidable ((s.head? = some '*' → closesBlock (s ++ ps.flatMap Part.spelled) = false) ∧
      closesWithin (ps.flatMap Part.spelled) s = true ∧ Separate ps))
  | .literal s :: ps =>
    have := Separate.decide ps
    inferInstanceAs (Decidable (Text.hasInfix ['/', '/'] s = false ∧
      closesNowhere (ps.flatMap Part.spelled) s = true ∧ Separate ps))
  | .char _ :: ps => Separate.decide ps
  | .block _ :: ps => Separate.decide ps

instance : DecidablePred Separate := Separate.decide

/-! ## The two passes -/

theorem hasInfix_cons (mark : List Char) (c : Char) (cs : List Char) :
    Text.hasInfix mark (c :: cs) = ((Text.dropLead? mark (c :: cs)).isSome || Text.hasInfix mark cs) := by
  rw [Text.hasInfix, Text.splitAt?]
  cases h : Text.dropLead? mark (c :: cs) with
  | some rest => rfl
  | none => rw [Option.isSome_map]; rfl

theorem closesBlock_of_cons {c : Char} {cs : List Char} (h : closesBlock (c :: cs) = false) :
    closesBlock cs = false := by
  rw [closesBlock, hasInfix_cons, Bool.or_eq_false_iff] at h
  exact h.2

theorem closesBlock_of_append {s t : List Char} (h : closesBlock (s ++ t) = false) : closesBlock t = false := by
  induction s with
  | nil => exact h
  | cons c cs ih => exact ih (closesBlock_of_cons h)

theorem closesBlock_eq_false_iff {s : List Char} : closesBlock s = false ↔ Text.splitAt? ['*', '/'] s = none := by
  rw [closesBlock, Text.hasInfix, Option.isSome_eq_false_iff, Option.isNone_iff_eq_none]

/-- A character that opens no block comment is kept. -/
theorem dropBlocks_cons {c : Char} {cs : List Char} (h : c = '/' → cs.head? ≠ some '*') :
    dropBlocks (c :: cs) = c :: dropBlocks cs := by
  rw [dropBlocks]
  rintro body rfl rfl
  exact h rfl rfl

/-- A block comment that is not closed is none. -/
theorem dropBlocks_unclosed {body : List Char} (h : closesBlock body = false) :
    dropBlocks ('/' :: '*' :: body) = '/' :: dropBlocks ('*' :: body) := by
  rw [dropBlocks]
  split
  · next hsome => cases (closesBlock_eq_false_iff.1 h).symm.trans hsome
  · rfl

theorem dropBlocks_unclosed_cons {body : List Char} (h : closesBlock body = false) :
    dropBlocks ('/' :: '*' :: body) = '/' :: '*' :: dropBlocks body := by
  rw [dropBlocks_unclosed h, dropBlocks_cons (by rintro ⟨⟩)]

theorem dropBlocks_closed {body inside rest : List Char} (h : Text.splitAt? ['*', '/'] body = some (inside, rest)) :
    dropBlocks ('/' :: '*' :: body) = dropBlocks rest := by
  rw [dropBlocks]
  split
  · next hsome =>
    cases h.symm.trans hsome
    rfl
  · next hnone => cases h.symm.trans hnone

/-- A text without the end of a block comment has no block comment. -/
theorem dropBlocks_eq_self_of_closesBlock {s : List Char} (h : closesBlock s = false) : dropBlocks s = s := by
  fun_induction dropBlocks s with
  | case1 => rfl
  | case2 body inside rest hsplit ih =>
    have hbody := closesBlock_of_cons (closesBlock_of_cons h)
    cases (closesBlock_eq_false_iff.1 hbody).symm.trans hsplit
  | case3 body hsplit ih => rw [ih (closesBlock_of_cons h)]
  | case4 c cs _ ih => rw [ih (closesBlock_of_cons h)]

theorem dropBlocks_append_of_closesBlock {s rest : List Char} (h : closesBlock (s ++ rest) = false) :
    dropBlocks (s ++ rest) = s ++ dropBlocks rest := by
  rw [dropBlocks_eq_self_of_closesBlock h, dropBlocks_eq_self_of_closesBlock (closesBlock_of_append h)]

/-- A line comment stays on its line when block comments are removed. -/
theorem exists_dropBlocks_line {s rest : List Char} (h : closesWithin rest s = true) (hline : '\n' ∉ s)
    (hrest : ∀ c ∈ rest.head?, c = '\n') : ∃ s', '\n' ∉ s' ∧ dropBlocks (s ++ rest) = s' ++ dropBlocks rest := by
  fun_induction closesWithin rest s with
  | case1 => exact ⟨[], List.not_mem_nil, rfl⟩
  | case2 body inside more hsplit ih =>
    have hmore : '\n' ∉ more := by
      rintro hmem
      apply hline
      rw [Text.eq_of_splitAt? hsplit]
      simp [hmem]
    obtain ⟨s', hs', heq⟩ := ih h hmore
    refine ⟨s', hs', ?_⟩
    rw [List.cons_append, List.cons_append, dropBlocks_closed (Text.splitAt?_append hsplit rest), heq]
  | case3 body hsplit =>
    rw [Bool.not_eq_true'] at h
    refine ⟨_, hline, ?_⟩
    rw [List.cons_append, List.cons_append, dropBlocks_unclosed_cons h, dropBlocks_append_of_closesBlock h]
    rfl
  | case4 c cs hopen ih =>
    obtain ⟨s', hs', heq⟩ := ih h (fun hmem => hline (List.mem_cons_of_mem c hmem))
    refine ⟨c :: s', ?_, ?_⟩
    · rw [List.mem_cons, not_or]
      exact ⟨fun hc => hline (hc ▸ List.mem_cons_self), hs'⟩
    · rw [List.cons_append, dropBlocks_cons, heq, List.cons_append]
      rintro rfl hhead
      cases cs with
      | nil => exact absurd (hrest '*' hhead) (by decide)
      | cons d ds =>
        cases hhead
        exact hopen ds rfl rfl

/-- A literal is kept when block comments are removed. -/
theorem dropBlocks_literal {s rest : List Char} (h : closesNowhere rest s = true) (hlast : s.getLast? ≠ some '/'):
    dropBlocks (s ++ rest) = s ++ dropBlocks rest := by
  fun_induction closesNowhere rest s with
  | case1 => rfl
  | case2 body =>
    rw [Bool.not_eq_true'] at h
    rw [List.cons_append, List.cons_append, dropBlocks_unclosed_cons h, dropBlocks_append_of_closesBlock h]
    rfl
  | case3 c cs hopen ih =>
    cases cs with
    | nil =>
      have hc : c ≠ '/' := fun hc => hlast (congrArg some hc)
      rw [List.cons_append, dropBlocks_cons (absurd · hc), List.nil_append]
      rfl
    | cons d ds =>
      rw [List.getLast?_cons_cons] at hlast
      have hcons : c = '/' → (d :: ds ++ rest).head? ≠ some '*' := by
        rintro rfl hhead
        cases hhead
        exact hopen ds rfl rfl
      rw [List.cons_append, dropBlocks_cons hcons, ih h hlast]
      rfl

/-- A character that opens no line comment is kept. -/
theorem dropLines_cons {c : Char} {cs : List Char} (h : c = '/' → cs.head? ≠ some '/') :
    dropLines false (c :: cs) = c :: dropLines false cs := by
  by_cases hc : c = '\n'
  · rw [hc, dropLines]
  · rw [dropLines]
    · exact hc
    · rintro ds rfl rfl
      exact h rfl rfl

/-- On a line comment, nothing is left up to the end of its line. -/
theorem dropLines_comment {s rest : List Char} (hline : '\n' ∉ s) :
    dropLines true (s ++ rest) = dropLines true rest := by
  induction s with
  | nil => rfl
  | cons c cs ih =>
    rw [List.mem_cons, not_or] at hline
    rw [List.cons_append, dropLines, ih hline.2]
    exact fun h => hline.1 h.symm

/-- A text without the mark of a line comment is kept when line comments are removed. -/
theorem dropLines_literal {s rest : List Char} (h : Text.hasInfix ['/', '/'] s = false)
    (hlast : s.getLast? ≠ some '/') : dropLines false (s ++ rest) = s ++ dropLines false rest := by
  induction s with
  | nil => rfl
  | cons c cs ih =>
    rw [hasInfix_cons, Bool.or_eq_false_iff] at h
    rw [List.cons_append]
    cases cs with
    | nil =>
      have hc : c ≠ '/' := fun hc => hlast (congrArg some hc)
      rw [List.nil_append, dropLines_cons (absurd · hc)]
      rfl
    | cons d ds =>
      rw [List.getLast?_cons_cons] at hlast
      have hcons : c = '/' → (d :: ds ++ rest).head? ≠ some '/' := by
        rintro rfl hhead
        cases hhead
        exact absurd h.1 (by simp [Text.dropLead?])
      rw [dropLines_cons hcons, ih h.2 hlast]
      rfl

/-- What has been opened on a line has no effect behind it. -/
theorem dropLines_true_eq_false {s : List Char} (h : ∀ c ∈ s.head?, c = '\n') :
    dropLines true s = dropLines false s := by
  cases s with
  | nil => rfl
  | cons c cs =>
    obtain rfl : c = '\n' := h c rfl
    rfl

/-- Behind the mark of a line comment, block comments are removed as if it were not there. -/
theorem dropBlocks_lineMark {cs : List Char} (h : cs.head? = some '*' → closesBlock cs = false) :
    dropBlocks ('/' :: '/' :: cs) = '/' :: '/' :: dropBlocks cs := by
  rw [dropBlocks_cons (by rintro - ⟨⟩)]
  congr 1
  by_cases hhead : cs.head? = some '*'
  · obtain ⟨body, rfl⟩ := List.head?_eq_some_iff.1 hhead
    rw [dropBlocks_unclosed_cons (closesBlock_of_cons (h hhead)), dropBlocks_cons (by rintro ⟨⟩)]
  · exact dropBlocks_cons fun _ => hhead

/-- A line comment goes, and its line feed stays. -/
theorem dropComments_line {s rest : List Char} (hline : '\n' ∉ s) (hrest : ∀ c ∈ rest.head?, c = '\n')
    (hstar : s.head? = some '*' → closesBlock (s ++ rest) = false) (hwithin : closesWithin rest s = true) :
    dropComments ('/' :: '/' :: (s ++ rest)) = dropComments rest := by
  have hmark : (s ++ rest).head? = some '*' → closesBlock (s ++ rest) = false := by
    cases s with
    | nil => exact fun hhead => absurd (hrest '*' hhead) (by decide)
    | cons c cs => exact hstar
  have hfeed : ∀ c ∈ (dropBlocks rest).head?, c = '\n' := by
    cases rest with
    | nil => rwa [dropBlocks]
    | cons c cs =>
      obtain rfl : c = '\n' := hrest c rfl
      rw [dropBlocks_cons (by rintro ⟨⟩)]
      rintro _ ⟨⟩
      rfl
  obtain ⟨s', hs', heq⟩ := exists_dropBlocks_line hwithin hline hrest
  rw [dropComments, dropBlocks_lineMark hmark, dropLines, heq, dropLines_comment hs', dropLines_true_eq_false hfeed,
    dropComments]

/-- A line ends at its line feed. -/
theorem not_mem_takeWhile_break (s : List Char) : '\n' ∉ s.takeWhile (· != '\n') := fun hmem => by
  simpa using List.all_eq_true.1 List.all_takeWhile _ hmem

theorem head?_dropWhile_break (s : List Char) : ∀ c ∈ (s.dropWhile (· != '\n')).head?, c = '\n' := by
  intro c hc
  have hnot := List.head?_dropWhile_not (· != '\n') s
  rw [Option.mem_def.1 hc] at hnot
  simpa using hnot

/-- A block comment goes. -/
theorem dropComments_block {body inside rest : List Char} (h : Text.splitAt? ['*', '/'] body = some (inside, rest)) :
    dropComments ('/' :: '*' :: body) = dropComments rest := by
  rw [dropComments, dropBlocks_closed h, dropComments]

/-- Of the mark of a block comment that is not closed, the first character is kept. -/
theorem dropComments_unclosed {body : List Char} (h : closesBlock body = false) :
    dropComments ('/' :: '*' :: body) = '/' :: dropComments ('*' :: body) := by
  have hstar : dropBlocks ('*' :: body) = '*' :: dropBlocks body := dropBlocks_cons (by rintro ⟨⟩)
  have hopen : '/' = '/' → (dropBlocks ('*' :: body)).head? ≠ some '/' := by
    rw [hstar]
    rintro - ⟨⟩
  rw [dropComments, dropBlocks_unclosed h, dropLines_cons hopen, dropComments]

/-- A literal without marks is kept. -/
theorem dropComments_literal {s rest : List Char} (hmarks : Text.hasInfix ['/', '/'] s = false)
    (hnowhere : closesNowhere rest s = true) (hlast : s.getLast? ≠ some '/') :
    dropComments (s ++ rest) = s ++ dropComments rest := by
  rw [dropComments, dropBlocks_literal hnowhere hlast, dropLines_literal hmarks hlast, dropComments]

/-- A character that opens no comment is kept. -/
theorem dropComments_cons {c : Char} {cs : List Char} (hblock : c = '/' → cs.head? ≠ some '*')
    (hline : c = '/' → cs.head? ≠ some '/') : dropComments (c :: cs) = c :: dropComments cs := by
  have hopen : c = '/' → (dropBlocks cs).head? ≠ some '/' := by
    intro hc
    cases cs with
    | nil =>
      rw [dropBlocks]
      rintro ⟨⟩
    | cons d ds =>
      have hd : d ≠ '/' := fun hd => hline hc (congrArg some hd)
      rw [dropBlocks_cons (absurd · hd)]
      exact hline hc
  rw [dropComments, dropBlocks_cons hblock, dropLines_cons hopen, dropComments]

/-- Where the marks are separate, the two passes leave what the scan finds outside comments. -/
theorem dropComments_eq_outside {literals : Bool} {s : List Char} (h : Separate (parts literals s)) :
    dropComments s = outside literals s := by
  rw [outside]
  -- The induction is on the scan; the passes are followed over one part at a time.
  fun_induction parts literals s with
  | case1 =>
    rw [dropComments, dropBlocks]
    rfl
  | case2 cs ih =>
    obtain ⟨hstar, hwithin, hrest⟩ := h
    rw [spelled_parts] at hstar hwithin
    have hcs := dropComments_line (not_mem_takeWhile_break cs) (head?_dropWhile_break cs) hstar hwithin
    rw [List.takeWhile_append_dropWhile] at hcs
    rw [hcs, ih hrest]
    rfl
  | case3 body inside rest hsplit ih =>
    rw [dropComments_block hsplit, ih h]
    rfl
  | case4 body hsplit ih =>
    rw [dropComments_unclosed (closesBlock_eq_false_iff.2 hsplit), ih h]
    rfl
  | case5 c cs _ _ l rest hliteral ih =>
    obtain ⟨hmarks, hnowhere, hrest⟩ := h
    rw [spelled_parts] at hnowhere
    obtain ⟨heq, inside, quote, hl, hquote⟩ := of_literal? hliteral
    have hlast : l.getLast? ≠ some '/' := by
      rw [hl, List.getLast?_concat]
      rintro ⟨⟩
      revert hquote
      decide
    rw [heq, dropComments_literal hmarks hnowhere hlast, ih hrest]
    rfl
  | case6 c cs hline hblock _ ih =>
    have hopens {d : Char} (hnone : ∀ ds, c = '/' → cs = d :: ds → False) : c = '/' → cs.head? ≠ some d :=
      fun hc hhead => (List.head?_eq_some_iff.1 hhead).elim fun ds hds => hnone ds hc hds
    rw [dropComments_cons (hopens hblock) (hopens hline), ih h]
    rfl

/-! ## Documents -/

/-- Where no mark stands in a place that one scan and two passes tell apart, the document of a text is
what the scan finds outside comments: no comment hides or changes a declaration outside of it. This is
so whether literals are looked for or not. -/
theorem ofText_separate {literals : Bool} {text : String} (h : Separate (parts literals text.toList)) :
    Document.ofText text = ⟨outside literals text.toList⟩ := by
  rw [Document.ofText, dropComments_eq_outside h]

/-- Marks inside of the other kind of comment and literals without marks, around a declaration. -/
theorem ofText_separate_nested :
    Separate (parts true "// 'a /* b */\nmessage A \x7b\n  /* // \" */ string u = 1 [c = \"d\"];\n\x7d\n".toList) ∧
    Document.ofText "// 'a /* b */\nmessage A \x7b\n  /* // \" */ string u = 1 [c = \"d\"];\n\x7d\n" =
      ⟨"\nmessage A \x7b\n   string u = 1 [c = \"d\"];\n\x7d\n".toList⟩ := by
  have h : Separate (parts true
      "// 'a /* b */\nmessage A \x7b\n  /* // \" */ string u = 1 [c = \"d\"];\n\x7d\n".toList) := by
    decide +kernel
  refine ⟨h, (ofText_separate h).trans (congrArg Document.mk ?_)⟩
  decide +kernel

/-- A literal with the mark of a line comment loses a field, and a line comment with the mark of a block
comment hides a message. -/
theorem ofText_ne_outside :
    ((Document.ofText "message B \x7b\n  string u = 1 [a = \"//\"];\n  string v = 2;\n\x7d\n").message "B").toOption.map
        (fun m => m.fields.map Field.name) = some ["v"] ∧
      ((Document.mk (outside true
        "message B \x7b\n  string u = 1 [a = \"//\"];\n  string v = 2;\n\x7d\n".toList)).message "B").toOption.map
        (fun m => m.fields.map Field.name) = some ["u", "v"] ∧
      (Document.ofText "// a/*\nmessage A \x7b\n\x7d\n// */\n").contains "A" = false ∧
      (Document.mk (outside true "// a/*\nmessage A \x7b\n\x7d\n// */\n".toList)).contains "A" = true := by
  decide +kernel

end LuaStubs.Proto
