import LuaStubs.Proofs.Generator.Rest
import LuaStubs.Proofs.Lua.Literal
import LuaStubs.Proofs.Rest.Arguments

/-!
# The string literals of the REST module

A `Literal` is a place between double quotes that a text of the document fills,
and `RestLiteral` says which of them a module has. Only the values of
enumerations are escaped there. Each literal is in the module, and it is read as
what is declared just if that has no character that the place is not fit for
(`literals_read_iff`).
-/

namespace LuaStubs.Generator

open Api (Document Info Resolved)
open Lua (readString? utf8)
open Rest (ConstantContext)
open Template (Piece printPieces)

/-! ## Literals -/

/-- A place between double quotes, with what is declared for it. -/
inductive Literal where
  /-- The value of a constant. -/
  | constant (definition value : String)
  /-- The path of an endpoint. -/
  | path (path : String)
  /-- The key of a query parameter. -/
  | queryKey (parameter : String)
  /-- A key in the body of a request. -/
  | bodyKey (parameter : String)
  /-- A key in the value of a definition. -/
  | propertyKey (property : String)

namespace Literal

/-- The text that the literal is for. -/
def declared : Literal → String
  | constant _ s | path s | queryKey s | bodyKey s | propertyKey s => s

/-- The text between the quotes. -/
def printed : Literal → String
  | constant _ s => Lua.escapeString s
  | path s | queryKey s | bodyKey s | propertyKey s => s

/-- What is printed up to the opening quote. -/
def before : Literal → String
  | constant name value => "M." ++ (ConstantContext.ofValue name value).name ++ " = \""
  | path _ => "\n\tlocal url_path = \""
  | queryKey _ => "\tquery_params[\""
  | bodyKey _ | propertyKey _ => "\t\t[\""

/-- What is printed from the closing quote on. -/
def behind : Literal → String
  | constant _ _ | path _ => "\"\n"
  | queryKey _ | bodyKey _ | propertyKey _ => "\"] = "

/-- The literal is in a module. -/
def IsIn (l : Literal) (content : String) : Prop :=
  (l.before ++ l.printed ++ l.behind).toList <:+: content.toList

/-- What is declared has no character that the place is not fit for. -/
def Fits : Literal → Prop
  | constant _ s => ∀ c ∈ s.toList, Lua.isLineBreak c = false
  | path s | queryKey s | bodyKey s | propertyKey s => ∀ c ∈ s.toList, Lua.isPlain c = true

/-- Behind its opening quote the literal is read up to the quote that is printed behind it. -/
theorem readString?_iff_fits (l : Literal) (rest : List Char) :
    readString? (l.printed.toList ++ '"' :: rest) = some (utf8 l.declared.toList, rest) ↔ l.Fits := by
  cases l with
  | constant => exact Lua.readString?_escapeString_eq_some_iff
  | path | queryKey | bodyKey | propertyKey => exact Lua.readString?_eq_some_iff

theorem IsIn.of_text {l : Literal} {ps : List Piece}
    (h : [.text l.before, .text l.printed, .text l.behind] <:+: ps) : l.IsIn (String.ofList (printPieces ps)) := by
  rw [IsIn, String.toList_ofList]
  exact Template.text_infix h

end Literal

/-- The literals of a module. -/
inductive RestLiteral (r : Resolved) : Literal → Prop where
  | constant {c : Api.Definition} {value : String} :
    c ∈ r.definitions → value ∈ c.enumeration → RestLiteral r (.constant c.rawName value)
  | path {e : Api.Endpoint} : e ∈ r.endpoints → RestLiteral r (.path e.path)
  | queryKey {e : Api.Endpoint} {p : Api.Parameter} :
    e ∈ r.endpoints → p ∈ e.parametersIn .query → RestLiteral r (.queryKey p.name)
  | bodyKey {e : Api.Endpoint} {p : Api.Parameter} :
    e ∈ r.endpoints → Rest.EndpointContext.bodyParameter? e = none → p ∈ e.parametersIn .body →
      RestLiteral r (.bodyKey p.name)
  | propertyKey {c : Api.Definition} {p : Api.Property} :
    c ∈ r.definitions → Rest.isConstructed c = true → p ∈ c.properties → RestLiteral r (.propertyKey p.name)

theorem RestLiteral.isIn {r : Resolved} {l : Literal} (hl : RestLiteral r l) (info : Info) :
    l.IsIn (String.ofList (printPieces (Rest.modulePieces r.endpoints r.definitions info))) := by
  cases hl with
  | @constant c value hc hv =>
    have hin := Template.chars_infix (Rest.infix_of_constant r.endpoints info hc hv)
    rw [Literal.IsIn, String.toList_ofList]
    rwa [Template.chars_constant] at hin
  | @path e he => exact .of_text (Rest.infix_of_endpoint he (Rest.infix_callerPieces_path (.ofEndpoint e)))
  | @queryKey e p he hp =>
    have ha : Rest.ArgumentContext.ofParameter p ∈ (Rest.EndpointContext.ofEndpoint e).queryArguments :=
      List.mem_map_of_mem hp
    exact .of_text (Rest.infix_of_endpoint he (Rest.infix_callerPieces_query ha))
  | @bodyKey e p he hnone hp =>
    have ha : Rest.ArgumentContext.ofParameter p ∈ (Rest.EndpointContext.ofEndpoint e).bodyFields := by
      simp only [Rest.EndpointContext.ofEndpoint, hnone]
      exact List.mem_map_of_mem hp
    exact .of_text (Rest.infix_of_endpoint he (Rest.infix_callerPieces_body ha))
  | @propertyKey c p hc hk hp =>
    have ha : Rest.PropertyContext.ofProperty p ∈ (Rest.DefinitionContext.ofDefinition c).properties :=
      List.mem_map_of_mem hp
    exact .of_text (Rest.infix_of_constructed hc hk (Rest.infix_constructorPieces_key ha))

/-! ## Runs -/

/-- Which literals of a module are read as what is declared. Every literal is in the module that a run
makes. It is read up to its closing quote, and as what is declared, just if this has no line break and,
where it is not escaped, no quote and no backslash either. The same is true of any text that is escaped. -/
theorem literals_read_iff {m : Manifest} (h : m.problem? = none) :
    (∀ (v : String) (rest : List Char),
      readString? ((Lua.escapeString v).toList ++ '"' :: rest) = some (utf8 v.toList, rest) ↔
        ∀ c ∈ v.toList, Lua.isLineBreak c = false) ∧
    ∀ (text : String) (d : Document), Document.ofText text = .ok d →
      ∃ r gen, d.resolve m.settings = .ok r ∧ (Generator.mk m .builtin h).rest text = .ok gen ∧
        ∀ l, RestLiteral r l → l.IsIn gen.content ∧
          ∀ rest, readString? (l.printed.toList ++ '"' :: rest) = some (utf8 l.declared.toList, rest) ↔ l.Fits := by
  refine ⟨fun v rest => Lua.readString?_escapeString_eq_some_iff, fun text d hd => ?_⟩
  obtain ⟨r, hr⟩ : ∃ r, d.resolve m.settings = .ok r := ⟨_, Document.resolve_eq d m.settings⟩
  exact ⟨r, _, hr, rest_builtin h hd hr, fun l hl => ⟨hl.isIn d.info, l.readString?_iff_fits⟩⟩

/-- A document with a quote in a value of an enumeration. -/
def quoteText : String :=
  "\x7b\"definitions\":\x7b\"Mark\":\x7b\"enum\":[\"a\\\"b\"]\x7d\x7d\x7d"

/-- The constant of that value is read as the value. -/
theorem literals_read_iff_quote :
    (⟨[], [], {}⟩ : Manifest).problem? = none ∧
    ∃ d gen, Document.ofText quoteText = .ok d ∧
      (Generator.mk ⟨[], [], {}⟩ .builtin (by decide)).rest quoteText = .ok gen ∧
      (Literal.constant "Mark" "a\"b").IsIn gen.content ∧
      ∀ rest, readString? ("a\\\"b".toList ++ '"' :: rest) = some (utf8 "a\"b".toList, rest) := by
  obtain ⟨-, hrest⟩ := literals_read_iff (m := ⟨[], [], {}⟩) (by decide)
  obtain ⟨d, r, hd, hr, c, hc, hname, hvalue⟩ :
      ∃ d r, Document.ofText quoteText = .ok d ∧ d.resolve {} = .ok r ∧
        ∃ c ∈ r.definitions, c.rawName = "Mark" ∧ "a\"b" ∈ c.enumeration :=
    Document.exists_resolved (by decide +kernel)
  obtain ⟨r', gen, hr', hgen, hread⟩ := hrest quoteText d hd
  obtain rfl : r = r' := Except.ok.inj (hr.symm.trans hr')
  obtain ⟨hin, hiff⟩ := hread _ (.constant hc hvalue)
  rw [hname] at hin hiff
  have hprinted : (Literal.constant "Mark" "a\"b").printed = "a\\\"b" := by decide
  have hline : "a\"b".toList.any Lua.isLineBreak = false := by decide
  have hfits : (Literal.constant "Mark" "a\"b").Fits := fun c hc =>
    Bool.eq_false_iff.2 (List.any_eq_false.1 hline c hc)
  rw [hprinted] at hiff
  exact ⟨by decide, d, gen, hd, hgen, hin, fun rest => (hiff rest).2 hfits⟩

/-- A document with a line break in a value of an enumeration and a quote in the name of a parameter. -/
def brokenText : String :=
  "\x7b\"paths\":\x7b\"/q\":\x7b\"get\":\x7b\"operationId\":\"Query\",\"parameters\":[" ++
  "\x7b\"name\":\"a\\\"b\",\"in\":\"query\",\"type\":\"string\"\x7d]\x7d\x7d\x7d," ++
  "\"definitions\":\x7b\"Mark\":\x7b\"enum\":[\"a\\nb\"]\x7d\x7d\x7d"

/-- The constant cannot be read, and the key of the parameter is cut short. -/
theorem literals_misread_break :
    ∃ d gen, Document.ofText brokenText = .ok d ∧
      (Generator.mk ⟨[], [], {}⟩ .builtin (by decide)).rest brokenText = .ok gen ∧
      "M.MARK_a_b = \"a\nb\"\n".toList <:+: gen.content.toList ∧
      (∀ rest, readString? ("a\nb\"".toList ++ rest) = none) ∧
      "\tquery_params[\"a\"b\"] = ".toList <:+: gen.content.toList ∧
      ∀ rest, readString? ("a\"b\"".toList ++ rest) = some (utf8 "a".toList, "b\"".toList ++ rest) := by
  obtain ⟨d, r, hd, hr, ⟨c, hc, hname, hvalue⟩, e, he, p, hp, hkey⟩ :
      ∃ d r, Document.ofText brokenText = .ok d ∧ d.resolve {} = .ok r ∧
        (∃ c ∈ r.definitions, c.rawName = "Mark" ∧ "a\nb" ∈ c.enumeration) ∧
        ∃ e ∈ r.endpoints, ∃ p ∈ e.parametersIn .query, p.name = "a\"b" :=
    Document.exists_resolved (by decide +kernel)
  have hconstant := (RestLiteral.constant hc hvalue).isIn d.info
  have hquery := (RestLiteral.queryKey he hp).isIn d.info
  rw [hname, Literal.IsIn, show (Literal.constant "Mark" "a\nb").before ++ (Literal.constant "Mark" "a\nb").printed ++
    (Literal.constant "Mark" "a\nb").behind = "M.MARK_a_b = \"a\nb\"\n" by decide] at hconstant
  rw [hkey] at hquery
  refine ⟨d, _, hd, rest_builtin (by decide) hd hr, hconstant, fun rest => ?_, hquery, fun rest => ?_⟩
  · rw [show "a\nb\"".toList = ['a', '\n', 'b', '"'] by decide, List.cons_append, List.cons_append,
      Lua.readString?_cons (by decide), Lua.readString?_lineBreak (by decide)]
    rfl
  · rw [show "a\"b\"".toList = ['a', '"', 'b', '"'] by decide, List.cons_append, List.cons_append,
      Lua.readString?_cons (by decide), Lua.readString?_quote]
    rfl

end LuaStubs.Generator
