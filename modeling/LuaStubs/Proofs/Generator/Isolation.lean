import LuaStubs.Generator
import LuaStubs.Proofs.Api.Isolation
import LuaStubs.Proofs.Api.Outline
import LuaStubs.Proofs.Rest.Pieces

/-!
# Operations do not disturb each other

Whatever value stands under a method key of a path item, the rest of the document
is resolved and rendered in the same way (`operation_isolated`). The path items
themselves belong to the outline: one that is not an object makes the document
invalid, and one that is an object does not disturb the others (`pathItem_isolated`).
-/

namespace LuaStubs.Rest

open Api (Definition Endpoint Info)
open Template (printPieces)

/-- Around the functions of some endpoints, the module of all endpoints is the same. -/
theorem exists_renderModule_append (before after : List Endpoint) (definitions : List Definition) (info : Info) :
    ∃ start rest : String, ∀ endpoints : List Endpoint, ∃ callers,
      endpoints.mapM (renderEndpoint .builtin) = .ok callers ∧
      renderModule .builtin (before ++ endpoints ++ after) definitions info =
        .ok (start ++ String.join callers ++ rest) := by
  let head := List.flatten [
    [.text "--[[\n", .text (info.title.getD ""), .text " ", .text (info.version.getD ""),
      .lines Template.Builtin.Rest.clientStart],
    (definitions.filter Definition.hasEnumeration).flatMap fun d => enumerationPieces (.ofDefinition d),
    [.text "\n\n--\n-- Objects\n--\n"],
    (definitions.filter isConstructed).flatMap fun d => constructorPieces (.ofDefinition d),
    [.text "\n\n--\n-- Endpoints\n--\n"],
    before.flatMap fun e => callerPieces (.ofEndpoint e)]
  let tail := (after.flatMap fun e => callerPieces (.ofEndpoint e)) ++ [.text "\n\nreturn M\n"]
  refine ⟨String.ofList (printPieces head), String.ofList (printPieces tail), fun endpoints => ?_⟩
  have hpieces : modulePieces (before ++ endpoints ++ after) definitions info =
      head ++ (endpoints.flatMap fun e => callerPieces (.ofEndpoint e)) ++ tail := by
    simp only [modulePieces, head, tail, List.flatten_cons, List.flatten_nil, List.flatMap_append, List.append_assoc,
      List.append_nil]
  refine ⟨_, mapM_eq_ok renderEndpoint_builtin endpoints, ?_⟩
  rw [renderModule_builtin, hpieces, Except.ok.injEq, ← String.toList_inj]
  simp only [String.toList_ofList, String.toList_append, Template.printPieces_append, ← Template.chars_join,
    Template.Piece.chars]

end LuaStubs.Rest

namespace LuaStubs.Generator

open Api (Accounted Definition Document Endpoint Gap Method Outline Settings itemOperations operationsIn)
open Json (Value)

/-! ## Operations -/

/-- The value under one method key of one path item has a part in its own endpoint or skip only.
Around that, all documents with the gap filled are resolved to the same endpoints, definitions and
skips in the same order, and rendered to the same text. -/
theorem operation_isolated (g : Gap) (settings : Settings) {method : Method}
    (hkey : Method.ofKey? g.key = some method) :
    ∃ (before after : List Endpoint) (skipsBefore skipsAfter definitionSkips : List Skip)
      (definitions : List Definition) (start rest : String),
      Accounted g.operationsBefore before skipsBefore ∧ Accounted g.operationsAfter after skipsAfter ∧
      ∀ (text : String) (raw : Value), Outline.ofText text = .ok (g.fill raw) →
        ∃ d r made skips callers, Document.ofText text = .ok d ∧ d.resolve settings = .ok r ∧
          Accounted [(g.path, method, raw)] made skips ∧
          r.endpoints = before ++ made ++ after ∧
          r.skipped = skipsBefore ++ skips ++ skipsAfter ++ definitionSkips ∧
          r.definitions = definitions ∧
          made.mapM (Rest.renderEndpoint .builtin) = .ok callers ∧
          Rest.renderModule .builtin r.endpoints r.definitions d.info = .ok (start ++ String.join callers ++ rest) := by
  -- What becomes of the other operations, and of the definitions, is read off any of the documents.
  let d₀ := Document.ofOutline (g.fill .null)
  have hne : g.key ≠ "parameters" := by
    rintro h
    rw [h] at hkey
    cases hkey
  have hmap : ∀ (raw : Value) (operations : List (String × Method × Value)),
      operations.map ((Document.ofOutline (g.fill raw)).outcome settings) = operations.map (d₀.outcome settings) := by
    intro raw operations
    have hdefinitions : (Document.ofOutline (g.fill raw)).definitions = d₀.definitions := rfl
    apply Document.map_outcome_congr hdefinitions
    intro operation _
    exact g.sharedParameters_fill hne .null raw operation.1
  let before := successes (g.operationsBefore.map (d₀.outcome settings))
  let after := successes (g.operationsAfter.map (d₀.outcome settings))
  let definitions := d₀.definitions.map fun entry => d₀.definition entry.1 entry.2
  obtain ⟨start, rest, htext⟩ := Rest.exists_renderModule_append before after definitions g.info
  refine ⟨before, after, _, _, d₀.rejected.map Document.rejection, definitions, start, rest,
    Api.accounted_outcomes d₀ settings g.operationsBefore, Api.accounted_outcomes d₀ settings g.operationsAfter, ?_⟩
  intro text raw hraw
  have hd : Document.ofText text = .ok (.ofOutline (g.fill raw)) := by
    rw [Document.ofText, hraw]
    rfl
  have hdefinition : (Document.ofOutline (g.fill raw)).definition = d₀.definition := Document.definition_congr rfl
  have hr := Document.resolve_append (g.operations_fill hkey raw) settings
  rw [hmap raw, hmap raw, hmap raw, hdefinition] at hr
  obtain ⟨callers, hcallers, hmodule⟩ := htext (successes ([(g.path, method, raw)].map (d₀.outcome settings)))
  exact ⟨_, _, _, _, callers, hd, hr, Api.accounted_outcomes d₀ settings _, rfl, rfl, rfl, hcallers, hmodule⟩

/-- A document with a gap before another operation. -/
def userGap : Gap where
  info := {}
  definitions := []
  before := []
  path := "/u"
  itemBefore := []
  key := "get"
  itemAfter := [("put", .object [("operationId", .string "Put")])]
  after := []

/-- The document with a text in its gap. -/
def userGapText (operation : String) : String :=
  "\x7b\"paths\":\x7b\"/u\":\x7b\"get\":" ++ operation ++ ",\"put\":\x7b\"operationId\":\"Put\"\x7d\x7d\x7d\x7d"

/-- A truth value in place of an operation leaves the operation behind it as it is. -/
theorem operation_isolated_user :
    Method.ofKey? userGap.key = some .get ∧
    Outline.ofText (userGapText "true") = .ok (userGap.fill (.bool true)) ∧
    Outline.ofText (userGapText "\x7b\"operationId\":\"Get\"\x7d") =
      .ok (userGap.fill (.object [("operationId", .string "Get")])) ∧
    ∃ d d' r r' put made made', Document.ofText (userGapText "true") = .ok d ∧
      Document.ofText (userGapText "\x7b\"operationId\":\"Get\"\x7d") = .ok d' ∧
      d.resolve {} = .ok r ∧ d'.resolve {} = .ok r' ∧
      r.endpoints = made ++ put ∧ r'.endpoints = made' ++ put ∧ r.definitions = r'.definitions := by
  have hmethod : Method.ofKey? userGap.key = some .get := by decide
  have htrue : Outline.ofText (userGapText "true") = .ok (userGap.fill (.bool true)) := by decide +kernel
  have hget : Outline.ofText (userGapText "\x7b\"operationId\":\"Get\"\x7d") =
      .ok (userGap.fill (.object [("operationId", .string "Get")])) := by decide +kernel
  refine ⟨hmethod, htrue, hget, ?_⟩
  obtain ⟨before, after, _, _, _, definitions, _, _, hbefore, -, h⟩ := operation_isolated userGap {} hmethod
  obtain ⟨d, r, made, _, _, hd, hr, -, hendpoints, -, hdefinitions, -⟩ := h _ _ htrue
  obtain ⟨d', r', made', _, _, hd', hr', -, hendpoints', -, hdefinitions', -⟩ := h _ _ hget
  cases hbefore
  exact ⟨d, d', r, r', after, made, made', hd, hd', hr, hr', hendpoints, hendpoints',
    hdefinitions.trans hdefinitions'.symm⟩

/-! ## Path items -/

/-- A document with a path item that is not an object is none. -/
theorem outline_error_of_item {text : String} {v x : Value} {items : Entries Value} {path : String}
    (hv : Value.ofText text = .ok v) (hitems : Outline.declaredPaths? v = some (.object items))
    (hx : (path, x) ∈ items) (hshape : ∀ item, x ≠ .object item) : ∃ fault, Outline.ofText text = .error fault := by
  cases ho : Outline.ofText text with
  | error fault => exact ⟨fault, rfl⟩
  | ok o =>
    exfalso
    have hpaths := (Outline.agrees_ofText ho hv).1
    rw [hitems, Option.getD_some, Outline.pathsValue, Value.object.injEq] at hpaths
    rw [hpaths] at hx
    obtain ⟨⟨path', item⟩, -, hitem⟩ := List.mem_map.1 hx
    cases hitem
    exact hshape item rfl

/-- A path item that is not an object ends the run, in whatever document it stands. One that is an
object adds an endpoint or a skip for each of its operations, whatever their values are: around these
the endpoints, the skips and the definitions are those of the document without it. -/
theorem pathItem_isolated :
    (∀ (τ : Type) [Template.Engine τ] (g : Generator τ) (text : String) (v x : Value) (items : Entries Value) (path : String),
      Value.ofText text = .ok v → Outline.declaredPaths? v = some (.object items) → (path, x) ∈ items →
      (∀ item, x ≠ .object item) →
        ∃ fault, Outline.ofText text = .error fault ∧
          g.rest text = .error (.invalidDocument "api description" (.fault fault))) ∧
    ∀ (settings : Settings) (text text' : String) (o : Outline) (before after : Entries (Entries Value))
      (path : String) (item : Entries Value),
      o.paths = before ++ after → path ∉ o.paths.keys →
      Outline.ofText text = .ok o → Outline.ofText text' = .ok { o with paths := before ++ (path, item) :: after } →
        ∃ d d' endpoints endpoints' made skips skips' added definitionSkips definitions,
          Document.ofText text = .ok d ∧ Document.ofText text' = .ok d' ∧
          Accounted (operationsIn before) endpoints skips ∧ Accounted (operationsIn after) endpoints' skips' ∧
          Accounted (itemOperations path item) made added ∧
          d.resolve settings = .ok ⟨endpoints ++ endpoints', definitions, skips ++ skips' ++ definitionSkips⟩ ∧
          d'.resolve settings =
            .ok ⟨endpoints ++ made ++ endpoints', definitions, skips ++ added ++ skips' ++ definitionSkips⟩ := by
  constructor
  · intro τ _ g text v x items path hv hitems hx hshape
    obtain ⟨fault, hfault⟩ := outline_error_of_item hv hitems hx hshape
    refine ⟨fault, hfault, ?_⟩
    rw [rest, restNamed, Document.ofText, hfault]
    rfl
  · intro settings text text' o before after path item hpaths hpath ho ho'
    have hd : Document.ofText text = .ok (.ofOutline o) := by
      rw [Document.ofText, ho]
      rfl
    have hd' : Document.ofText text' = .ok (.ofOutline { o with paths := before ++ (path, item) :: after }) := by
      rw [Document.ofText, ho']
      rfl
    obtain ⟨endpoints, endpoints', made, skips, skips', added, definitionSkips, definitions, h⟩ :=
      Api.resolve_insert (.ofOutline o) (.ofOutline { o with paths := before ++ (path, item) :: after })
        hpaths rfl rfl rfl hpath settings
    exact ⟨_, _, endpoints, endpoints', made, skips, skips', added, definitionSkips, definitions, hd, hd', h⟩

/-- What is read of a document with no paths, with a vendor extension among them, and with an operation
that is none. -/
theorem read_extension :
    Outline.ofText "\x7b\"paths\":\x7b\x7d\x7d" = .ok {} ∧
      Outline.ofText "\x7b\"paths\":\x7b\"x-a\":true\x7d\x7d" = .error (.shape (.mismatch (.boolean true) .map)) ∧
      Value.ofText "\x7b\"paths\":\x7b\"x-a\":true\x7d\x7d" =
        .ok (.object [("paths", .object [("x-a", .bool true)])]) ∧
      Outline.ofText "\x7b\"paths\":\x7b\"/u\":\x7b\"get\":true\x7d\x7d\x7d" =
        .ok { paths := [("/u", [("get", .bool true)])] } := by
  decide +kernel

/-- A vendor extension that is refused, and a path item with an operation that is none. -/
theorem pathItem_isolated_extension :
    (∃ fault, Outline.ofText "\x7b\"paths\":\x7b\"x-a\":true\x7d\x7d" = .error fault) ∧
      ∃ d made added definitionSkips definitions,
        Document.ofText "\x7b\"paths\":\x7b\"/u\":\x7b\"get\":true\x7d\x7d\x7d" = .ok d ∧
        Accounted [("/u", .get, .bool true)] made added ∧
        d.resolve {} = .ok ⟨made, definitions, added ++ definitionSkips⟩ := by
  obtain ⟨hempty, -, hvalue, hitem⟩ := read_extension
  constructor
  · obtain ⟨fault, hfault, -⟩ := pathItem_isolated.1 _ ⟨⟨[], [], {}⟩, .builtin, by decide⟩
      "\x7b\"paths\":\x7b\"x-a\":true\x7d\x7d" (.object [("paths", .object [("x-a", .bool true)])]) (.bool true)
      [("x-a", .bool true)] "x-a" hvalue rfl List.mem_cons_self (fun item h => by cases h)
    exact ⟨fault, hfault⟩
  · obtain ⟨_, d, endpoints, endpoints', made, skips, skips', added, definitionSkips, definitions, -, hd, hbefore,
      hafter, hadded, -, hr⟩ := pathItem_isolated.2 {} "\x7b\"paths\":\x7b\x7d\x7d"
      "\x7b\"paths\":\x7b\"/u\":\x7b\"get\":true\x7d\x7d\x7d" {} [] [] "/u" [("get", .bool true)] rfl
      List.not_mem_nil hempty hitem
    cases hbefore
    cases hafter
    rw [List.nil_append, List.nil_append, List.append_nil, List.append_nil] at hr
    exact ⟨d, made, added, definitionSkips, definitions, hd, hadded, hr⟩

/-- A document with no paths, and what becomes of it with a vendor extension among them. -/
theorem extension_invalid :
    Outline.ofText "\x7b\"paths\":\x7b\x7d\x7d" = .ok {} ∧
      Outline.ofText "\x7b\"paths\":\x7b\"x-a\":true\x7d\x7d" = .error (.shape (.mismatch (.boolean true) .map)) ∧
      ∀ d, Document.ofText "\x7b\"paths\":\x7b\"x-a\":true\x7d\x7d" ≠ .ok d := by
  obtain ⟨hempty, hfault, -, -⟩ := read_extension
  refine ⟨hempty, hfault, fun d hd => ?_⟩
  rw [Document.ofText, hfault] at hd
  cases hd

end LuaStubs.Generator
