import LuaStubs.Proofs.Generator.Rest
import LuaStubs.Proofs.Lua.Comment
import LuaStubs.Proofs.Rest.Arguments
import LuaStubs.Proofs.Text.Search

/-!
# The comments of the REST module

The descriptions of a document stand in line comments of the module
(`Description`), and its title and version in the comment that the module starts
with. A description stays in its comment just if its carriage returns are joined,
and the first comment ends where the template ends it just if neither the title
nor the version ends it (`comments_kept_iff`).
-/

namespace LuaStubs.Generator

open Api (Document Info Resolved Settings)
open Lua (commentMark commentEnd sourceLines)
open Template (Piece printPieces)
open Template.Builtin.Rest (clientStart)

/-! ## Descriptions -/

/-- What a line starts with that describes an argument. -/
def argumentLead (argument : String) (category : Category) : String :=
  "-- @param " ++ argument ++ " (" ++ category.luaType ++ ") "

/-- The descriptions in the module of a document, each with what is before it on its line. -/
inductive Description (r : Resolved) : (lead text : String) → Prop where
  | endpoint {e : Api.Endpoint} : e ∈ r.endpoints → Description r "-- " e.summary
  | parameter {e : Api.Endpoint} {p : Api.Parameter} :
    e ∈ r.endpoints → p ∈ e.parameters → Description r (argumentLead p.argument p.category) p.description
  | enumeration {c : Api.Definition} :
    c ∈ r.definitions → c.hasEnumeration = true → Description r "-- " c.description
  | constructor {c : Api.Definition} :
    c ∈ r.definitions → Rest.isConstructed c = true → Description r "-- " c.description
  | property {c : Api.Definition} {p : Api.Property} :
    c ∈ r.definitions → Rest.isConstructed c = true → p ∈ c.properties →
      Description r (argumentLead p.argument p.category) p.description

theorem infix_of_text {before text behind lead : String} {ps : List Piece} (hlead : lead.toList <:+ before.toList)
    (hbehind : ['\n'] <+: behind.toList) (h : [.text before, .text text, .text behind] <:+: ps) :
    (lead ++ text).toList ++ ['\n'] <:+: printPieces ps := by
  obtain ⟨start, hstart⟩ := hlead
  obtain ⟨rest, hrest⟩ := hbehind
  refine .trans ⟨start, rest, ?_⟩ (Template.text_infix h)
  simp [← hstart, ← hrest]

theorem infix_of_argument {argument text : String} {category : Category} {ps : List Piece}
    (h : [.text "-- @param ", .text argument, .text " (", .text category.luaType, .text ") ", .text text,
      .text "\n"] <:+: ps) :
    (argumentLead argument category ++ text).toList ++ ['\n'] <:+: printPieces ps := by
  refine .trans ⟨[], [], ?_⟩ (Template.printPieces_infix h)
  simp [Piece.chars, argumentLead]

variable {d : Document} {r : Resolved} {lead text : String}

/-- Every description is in the module, up to the end of a line. -/
theorem Description.isIn (h : Description r lead text) (info : Info) :
    (lead ++ Lua.commentText text).toList ++ ['\n'] <:+:
      printPieces (Rest.modulePieces r.endpoints r.definitions info) := by
  have hlead : "-- ".toList <:+ "\n-- ".toList := ⟨['\n'], by decide⟩
  cases h with
  | @endpoint e he =>
    exact infix_of_text hlead ⟨"-- @param client Client.\n".toList, by decide⟩
      (Rest.infix_of_endpoint he (Rest.infix_callerPieces_summary (.ofEndpoint e)))
  | @parameter e p he hp =>
    have hp : Rest.ArgumentContext.ofParameter p ∈ (Rest.EndpointContext.ofEndpoint e).arguments :=
      List.mem_map_of_mem (e.orderedParameters_perm.mem_iff.2 hp)
    exact infix_of_argument (Rest.infix_of_endpoint he (Rest.infix_callerPieces_argument hp))
  | @enumeration c hc he =>
    exact infix_of_text hlead (List.prefix_refl _)
      (Rest.infix_of_enumeration hc he (Rest.infix_enumerationPieces_description (.ofDefinition c)))
  | @constructor c hc hk =>
    exact infix_of_text hlead (List.prefix_refl _)
      (Rest.infix_of_constructed hc hk (Rest.infix_constructorPieces_description (.ofDefinition c)))
  | @property c p hc hk hp =>
    have hp : Rest.PropertyContext.ofProperty p ∈ (Rest.DefinitionContext.ofDefinition c).properties :=
      List.mem_map_of_mem hp
    exact infix_of_argument (Rest.infix_of_constructed hc hk (Rest.infix_constructorPieces_argument hp))

/-! ## Leads -/

theorem not_isLineBreak {c : Char} (h : Lua.isNamePart c = true) : Lua.isLineBreak c = false := by
  rw [← Bool.not_eq_true]
  intro hbreak
  rw [Lua.isLineBreak, Bool.or_eq_true, beq_iff_eq, beq_iff_eq] at hbreak
  rcases hbreak with rfl | rfl
  all_goals exact absurd h (by decide)

/-- What is before a description starts a comment and goes on in one line. -/
theorem argumentLead_line {argument : String} {category : Category} (h : Lua.isName argument = true) :
    commentMark <+: (argumentLead argument category).toList ∧
      (argumentLead argument category).toList.any Lua.isLineBreak = false := by
  have htype : category.luaType.toList.any Lua.isLineBreak = false := by cases category <;> decide
  have hname : argument.toList.any Lua.isLineBreak = false := by
    rw [List.any_eq_false]
    intro c hc
    simp [not_isLineBreak (List.all_eq_true.1 (Lua.isName_iff.1 h).2.1 c hc)]
  constructor
  · exact ⟨" @param ".toList ++ argument.toList ++ " (".toList ++ category.luaType.toList ++ ") ".toList, by
      simp [argumentLead, commentMark]⟩
  · simp only [argumentLead, String.toList_append, List.any_append, hname, htype, Bool.or_eq_false_iff]
    decide

theorem Description.lead_line {settings : Settings} (hr : d.resolve settings = .ok r) (h : Description r lead text) :
    commentMark <+: lead.toList ∧ lead.toList.any Lua.isLineBreak = false := by
  cases h with
  | endpoint | enumeration | constructor => exact ⟨⟨[' '], by decide⟩, by decide⟩
  | parameter he hp => exact argumentLead_line (Rest.isName_parameter hr he hp)
  | property hc _ hp => exact argumentLead_line (Rest.isName_property hr hc hp)

/-! ## The first comment -/

/-- The text between the brackets of the module's first comment. -/
def headerText (info : Info) : List Char :=
  '\n' :: ((info.title.getD "").toList ++ ' ' :: ((info.version.getD "").toList ++
    '\n' :: "\nGenerated by stubgen. Do not edit by hand.".toList)) ++ ['\n']

/-- The template ends the first comment behind its title. -/
theorem exists_clientStart : ∃ tail, Template.Builtin.linesText clientStart =
    '\n' :: "\nGenerated by stubgen. Do not edit by hand.".toList ++ '\n' :: commentEnd ++ tail := by
  have hstart : clientStart = ["", "", "Generated by stubgen. Do not edit by hand.", "]]"] ++ clientStart.drop 4 := rfl
  have hfirst : (["", "", "Generated by stubgen. Do not edit by hand.", "]]"].flatMap fun x => x.toList ++ ['\n']) =
      '\n' :: "\nGenerated by stubgen. Do not edit by hand.".toList ++ '\n' :: commentEnd ++ ['\n'] := by
    decide
  refine ⟨'\n' :: Template.Builtin.linesText (clientStart.drop 4), ?_⟩
  rw [hstart, Template.Builtin.linesText, List.flatMap_append, hfirst, List.append_assoc]
  rfl

theorem exists_header (endpoints : List Api.Endpoint) (definitions : List Api.Definition) (info : Info) :
    ∃ tail, printPieces (Rest.modulePieces endpoints definitions info) =
      "--[[".toList ++ (headerText info ++ commentEnd ++ tail) := by
  have hpieces : Rest.modulePieces endpoints definitions info =
      [.text "--[[\n", .text (info.title.getD ""), .text " ", .text (info.version.getD ""),
        .lines clientStart] ++ (Rest.modulePieces endpoints definitions info).drop 5 := rfl
  obtain ⟨tail, htail⟩ := exists_clientStart
  refine ⟨tail ++ printPieces ((Rest.modulePieces endpoints definitions info).drop 5), ?_⟩
  rw [hpieces, Template.printPieces_append]
  simp [Piece.chars, htail, headerText]

/-- The first comment ends behind its title just if neither the title nor the version has its end. -/
theorem splitAt?_header_iff (info : Info) (tail : List Char) :
    Text.splitAt? commentEnd (headerText info ++ commentEnd ++ tail) = some (headerText info, tail) ↔
      ¬ commentEnd <:+: (info.title.getD "").toList ∧ ¬ commentEnd <:+: (info.version.getD "").toList := by
  have hnotice : ¬ [']', ']'] <:+: "\nGenerated by stubgen. Do not edit by hand.".toList := by decide
  have hnil : ¬ [']', ']'] <:+: ([] : List Char) := by decide
  rw [headerText, commentEnd, Text.splitAt?_twice_iff (by decide), ← not_or, ← List.nil_append ('\n' :: _)]
  refine not_congr ?_
  simp only [Text.twice_infix_append_cons (show '\n' ≠ ']' by decide),
    Text.twice_infix_append_cons (show ' ' ≠ ']' by decide), List.append_assoc, List.cons_append, hnotice, hnil,
    or_false, false_or]

/-! ## Runs -/

/-- Behind the start of a comment, the lines of a description are comments just if its carriage returns
are joined. -/
theorem lines_kept_iff {lead : String} (hlead : commentMark <+: lead.toList ∧
    lead.toList.any Lua.isLineBreak = false) (t : String) :
    (∀ line ∈ sourceLines (lead ++ Lua.commentText t).toList, commentMark <+: line) ↔
      Lua.ReturnsJoined (Text.trimEnd t.toList) := by
  rw [String.toList_append]
  exact Lua.sourceLines_commentText_iff hlead.1 hlead.2 t

/-- Which texts of a document stay in the comments of its module. All descriptions are there, each
behind the start of a comment and before the end of a line. Their lines are comments just if every
carriage return, but for those at the end, has a line feed behind it or the start of a comment. The
first comment has the title and the version in it, and ends behind them just if they do not end it. -/
theorem comments_kept_iff {m : Manifest} (h : m.problem? = none) :
    (∀ t : String, (∀ line ∈ sourceLines ("-- " ++ Lua.commentText t).toList, commentMark <+: line) ↔
      Lua.ReturnsJoined (Text.trimEnd t.toList)) ∧
    ∀ (text : String) (d : Document), Document.ofText text = .ok d →
      ∃ r gen, d.resolve m.settings = .ok r ∧ (Generator.mk m .builtin h).rest text = .ok gen ∧
        (∀ lead t, Description r lead t →
          (lead ++ Lua.commentText t).toList ++ ['\n'] <:+: gen.content.toList ∧
          ((∀ line ∈ sourceLines (lead ++ Lua.commentText t).toList, commentMark <+: line) ↔
            Lua.ReturnsJoined (Text.trimEnd t.toList))) ∧
        ∃ tail, gen.content.toList = "--[[".toList ++ (headerText d.info ++ commentEnd ++ tail) ∧
          (Text.splitAt? commentEnd (headerText d.info ++ commentEnd ++ tail) = some (headerText d.info, tail) ↔
            ¬ commentEnd <:+: (d.info.title.getD "").toList ∧
            ¬ commentEnd <:+: (d.info.version.getD "").toList) := by
  refine ⟨lines_kept_iff ⟨⟨[' '], by decide⟩, by decide⟩, fun text d hd => ?_⟩
  obtain ⟨r, hr⟩ : ∃ r, d.resolve m.settings = .ok r := ⟨_, Document.resolve_eq d m.settings⟩
  refine ⟨r, _, hr, rest_builtin h hd hr, fun lead t hdescription => ?_, ?_⟩
  · refine ⟨?_, lines_kept_iff (hdescription.lead_line hr) t⟩
    rw [Generation.of, String.toList_ofList]
    exact hdescription.isIn d.info
  · obtain ⟨tail, htail⟩ := exists_header r.endpoints r.definitions d.info
    exact ⟨tail, by rw [Generation.of, String.toList_ofList, htail], splitAt?_header_iff d.info tail⟩

/-- A document with a summary of two lines. -/
def linesText : String :=
  "\x7b\"info\":\x7b\"title\":\"Lines\"\x7d,\"paths\":\x7b\"/l\":\x7b\"get\":" ++
  "\x7b\"operationId\":\"Lines\",\"summary\":\"first\\r\\nsecond\"\x7d\x7d\x7d\x7d"

/-- Its summary and its title are kept in comments. -/
theorem comments_kept_iff_lines :
    (⟨[], [], {}⟩ : Manifest).problem? = none ∧
    ∃ d gen tail, Document.ofText linesText = .ok d ∧
      (Generator.mk ⟨[], [], {}⟩ .builtin (by decide)).rest linesText = .ok gen ∧
      "-- first\n-- second\n".toList <:+: gen.content.toList ∧
      (∀ line ∈ sourceLines "-- first\n-- second".toList, commentMark <+: line) ∧
      gen.content.toList = "--[[".toList ++ (headerText d.info ++ commentEnd ++ tail) ∧
      Text.splitAt? commentEnd (headerText d.info ++ commentEnd ++ tail) = some (headerText d.info, tail) := by
  obtain ⟨-, hrest⟩ := comments_kept_iff (m := ⟨[], [], {}⟩) (by decide)
  obtain ⟨d, r, hd, hr, ⟨e, he, hsummary⟩, hinfo⟩ :
      ∃ d r, Document.ofText linesText = .ok d ∧ d.resolve {} = .ok r ∧
        (∃ e ∈ r.endpoints, e.summary = "first\r\nsecond") ∧ d.info = ⟨some "Lines", none⟩ :=
    Document.exists_resolved (by decide +kernel)
  obtain ⟨r', gen, hr', hgen, hkept, tail, hcontent, hheader⟩ := hrest linesText d hd
  obtain rfl : r = r' := Except.ok.inj (hr.symm.trans hr')
  obtain ⟨hin, hlines⟩ := hkept _ _ (.endpoint he)
  have htext : "-- " ++ Lua.commentText e.summary = "-- first\n-- second" := by
    rw [hsummary]
    decide
  rw [htext] at hin hlines
  refine ⟨by decide, d, gen, tail, hd, hgen, ?_, hlines.2 ?_, hcontent, hheader.2 ?_⟩
  · simpa using hin
  · rw [hsummary]
    decide
  · rw [hinfo]
    decide

/-- A document with a carriage return in its summary and the end of a comment in its title. -/
def leakText : String :=
  "\x7b\"info\":\x7b\"title\":\"a]]b\"\x7d,\"paths\":\x7b\"/l\":\x7b\"get\":" ++
  "\x7b\"operationId\":\"Leak\",\"summary\":\"a\\rb\"\x7d\x7d\x7d\x7d"

/-- Both have a part that is in no comment. -/
theorem comments_left_leak :
    ∃ d gen tail, Document.ofText leakText = .ok d ∧
      (Generator.mk ⟨[], [], {}⟩ .builtin (by decide)).rest leakText = .ok gen ∧
      "-- a\rb\n".toList <:+: gen.content.toList ∧ ['b'] ∈ sourceLines "-- a\rb".toList ∧
      gen.content.toList = "--[[".toList ++ ("\na]]".toList ++ 'b' :: tail) ∧
      Text.splitAt? commentEnd ("\na]]".toList ++ 'b' :: tail) = some ("\na".toList, 'b' :: tail) := by
  obtain ⟨d, r, hd, hr, ⟨e, he, hsummary⟩, hinfo⟩ :
      ∃ d r, Document.ofText leakText = .ok d ∧ d.resolve {} = .ok r ∧
        (∃ e ∈ r.endpoints, e.summary = "a\rb") ∧ d.info = ⟨some "a]]b", none⟩ :=
    Document.exists_resolved (by decide +kernel)
  have hin := (Description.endpoint he).isIn d.info
  have htext : "-- " ++ Lua.commentText e.summary = "-- a\rb" := by
    rw [hsummary]
    decide
  obtain ⟨tail, htail⟩ := exists_header r.endpoints r.definitions d.info
  obtain ⟨rest, hrest⟩ : ∃ rest, headerText d.info = "\na]]b".toList ++ rest := by
    rw [hinfo]
    exact ⟨_, rfl⟩
  refine ⟨d, _, rest ++ commentEnd ++ tail, hd, rest_builtin (by decide) hd hr, ?_, by decide, ?_, rfl⟩
  · rw [htext] at hin
    rw [Generation.of, String.toList_ofList]
    simpa using hin
  · rw [Generation.of, String.toList_ofList, htail, hrest]
    simp

end LuaStubs.Generator
