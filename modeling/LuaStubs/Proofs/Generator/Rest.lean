import LuaStubs.Generator
import LuaStubs.Proofs.Api.Resolution
import LuaStubs.Proofs.Api.Written
import LuaStubs.Proofs.Rest.Pieces

/-!
# Generating the REST module

With the built-in templates only a text that is no API document ends a run
(`rest_builtin`). What such a run reports is all that the text of the document
declares (`rest_complete`).
-/

namespace LuaStubs.Generator

open Api (Outline Document Method Settings)
open Json (Value)
open Template (printPieces)

/-- What a definition adds to a report: one name, or none. -/
theorem restGenerated_eq (definitions : List Api.Definition) (endpoints : List Api.Endpoint) :
    restGenerated definitions endpoints =
      (definitions.flatMap fun d =>
        if d.enumeration ≠ [] then [⟨.definition, d.name.text⟩]
        else if d.properties ≠ [] then [⟨.definition, "create_" ++ d.name.text⟩]
        else []) ++
      endpoints.map fun e => ⟨.endpoint, e.operationId.text⟩ := by
  rw [restGenerated]
  congr 1
  induction definitions with
  | nil => rfl
  | cons d ds ih =>
    rw [List.filterMap_cons, List.flatMap_cons, ← ih, Api.Definition.generatedName?, Api.Definition.hasEnumeration,
      Api.Definition.hasProperties, Api.Definition.constructorName]
    cases d.enumeration <;> cases d.properties <;> rfl

/-- A run on a document that has been read renders what it resolves to, and reports that if it
succeeds. -/
theorem restNamed_eq {τ : Type} [Template.Engine τ] (g : Generator τ) (document : String) {text : String}
    {d : Document} {r : Api.Resolved} (hd : Document.ofText text = .ok d) (hr : d.resolve g.manifest.settings = .ok r) :
    g.restNamed document text = (Rest.renderModule g.templates r.endpoints r.definitions d.info).map fun content =>
      .of content .rest (restGenerated r.definitions r.endpoints) r.skipped := by
  simp only [restNamed, hd, hr, mapError_ok, bind, Except.bind]
  cases Rest.renderModule g.templates r.endpoints r.definitions d.info <;> rfl

/-- A run with the built-in templates, on a document that has been read. -/
theorem rest_builtin {m : Manifest} (h : m.problem? = none) {text : String} {d : Document} {r : Api.Resolved}
    (hd : Document.ofText text = .ok d) (hr : d.resolve m.settings = .ok r) :
    (Generator.mk m .builtin h).rest text = .ok (.of
      (String.ofList (printPieces (Rest.modulePieces r.endpoints r.definitions d.info))) .rest
      (restGenerated r.definitions r.endpoints) r.skipped) := by
  rw [rest, restNamed_eq ⟨m, .builtin, h⟩ _ hd hr, Rest.renderModule_builtin]
  rfl

/-- A text that is no document ends the run. -/
theorem rest_error {m : Manifest} (h : m.problem? = none) {text : String} {fault : Json.Fault}
    (hd : Document.ofText text = .error fault) (gen : Generation) :
    (Generator.mk m .builtin h).rest text ≠ .ok gen := by
  simp [rest, restNamed, hd, bind, Except.bind]

/-- A run loses nothing that the text of a document declares. Its paths, the members of its path items and
its definitions are those that are written, a repeated one with its first position and its last value; where
the text is also read as one JSON value, they are what that value declares. Resolving gives an endpoint or a
skip for each operation and a definition or a skip for each definition, in their order, whatever the settings
are. With the built-in templates a run succeeds on every document, and reports what has been resolved. -/
theorem rest_complete {m : Manifest} (h : m.problem? = none) (text : String) :
    (∀ d, Document.ofText text = .ok d → ∃ written paths definitions, Outline.writtenOfText text = .ok written ∧
      paths = written.paths.collect.map (fun p => (p.1, p.2.collect)) ∧
      definitions = written.definitions.collect ∧
      (∀ v, Value.ofText text = .ok v →
        (Outline.declaredPaths? v).getD (.object []) = .object (paths.map fun p => (p.1, .object p.2)) ∧
        (Outline.declaredDefinitions? v).getD (.object []) = .object definitions) ∧
      ∀ settings : Settings, ∃ r operationSkips definitionSkips, d.resolve settings = .ok r ∧
        r.skipped = operationSkips ++ definitionSkips ∧
        Accounts (fun operation e => e.path = operation.1 ∧ e.method = operation.2.1)
          (fun operation s => s.kind = .endpoint ∧ s.name = operation.2.1.name ++ " " ++ operation.1)
          (paths.flatMap fun (path, item) =>
            item.filterMap fun (key, raw) => (Method.ofKey? key).map fun method => (path, method, raw))
          r.endpoints operationSkips ∧
        Accounts (fun entry d => d.rawName = entry.1 ∧ d.name = Identifier.ofName entry.1)
          (fun entry s => s.kind = .definition ∧ s.name = entry.1)
          definitions r.definitions definitionSkips) ∧
    ((∃ gen, (Generator.mk m .builtin h).rest text = .ok gen) ↔ ∃ d, Document.ofText text = .ok d) ∧
    ∀ d r gen, Document.ofText text = .ok d → d.resolve m.settings = .ok r →
      (Generator.mk m .builtin h).rest text = .ok gen →
        gen.report.skipped = r.skipped ∧
        gen.report.generated =
          (r.definitions.flatMap fun d =>
            if d.enumeration ≠ [] then [⟨.definition, d.name.text⟩]
            else if d.properties ≠ [] then [⟨.definition, "create_" ++ d.name.text⟩]
            else []) ++
          r.endpoints.map fun e => ⟨.endpoint, e.operationId.text⟩ := by
  refine ⟨fun d hd => ?_, ⟨fun ⟨gen, hgen⟩ => ?_, fun ⟨d, hd⟩ => ?_⟩, fun d r gen hd hr hgen => ?_⟩
  · obtain ⟨o, ho, rfl⟩ := map_eq_ok_iff.1 hd
    obtain ⟨written, hwritten, rfl⟩ := Outline.ofText_eq_ok_iff.1 ho
    refine ⟨written, _, _, hwritten, rfl, rfl, fun v hv => Outline.agrees_ofText ho hv, fun settings => ?_⟩
    exact ⟨_, _, _, Document.resolve_eq _ settings, rfl,
      Document.accounts_operations (.ofOutline written.collected) settings,
      Document.accounts_definitions (.ofOutline written.collected) written.collected.definitions⟩
  · cases hd : Document.ofText text with
    | ok d => exact ⟨d, rfl⟩
    | error fault => exact absurd hgen (rest_error h hd gen)
  · exact ⟨_, rest_builtin h hd (Document.resolve_eq d m.settings)⟩
  · rw [rest_builtin h hd hr] at hgen
    cases hgen
    exact ⟨rfl, restGenerated_eq r.definitions r.endpoints⟩

/-- A document with an operation, a value that is none, an enumeration, a definition with a constructor and
one that is no schema. -/
def petText : String :=
  "\x7b\"paths\":\x7b\"/a\":\x7b\"get\":\x7b\"operationId\":\"A\"\x7d,\"put\":1\x7d\x7d," ++
  "\"definitions\":\x7b\"e\":\x7b\"enum\":[\"B\"]\x7d,\"p\":\x7b\"properties\":\x7b\"q\":\x7b\x7d\x7d\x7d,\"b\":3\x7d\x7d"

/-- What is written in it is generated or skipped by its name. -/
theorem rest_complete_pet :
    Manifest.default.problem? = none ∧
    ∃ written d r gen, Outline.writtenOfText petText = .ok written ∧
      written.paths.keys = ["/a"] ∧ written.definitions.keys = ["e", "p", "b"] ∧
      Document.ofText petText = .ok d ∧ d.resolve Manifest.default.settings = .ok r ∧
      (Generator.mk Manifest.default .builtin (by decide)).rest petText = .ok gen ∧
      gen.report.generated = [⟨.definition, "e"⟩, ⟨.definition, "create_p"⟩, ⟨.endpoint, "a"⟩] ∧
      gen.report.skipped.map (fun s => (s.kind, s.name)) = [(.endpoint, "PUT /a"), (.definition, "b")] := by
  have hvalid : Manifest.default.problem? = none := by decide
  obtain ⟨hwritten, hruns, hreports⟩ := rest_complete hvalid petText
  obtain ⟨d, r, hd, hr, hgenerated, hskipped⟩ : ∃ d r, Document.ofText petText = .ok d ∧
      d.resolve Manifest.default.settings = .ok r ∧
      restGenerated r.definitions r.endpoints =
        [⟨.definition, "e"⟩, ⟨.definition, "create_p"⟩, ⟨.endpoint, "a"⟩] ∧
      r.skipped.map (fun s => (s.kind, s.name)) = [(.endpoint, "PUT /a"), (.definition, "b")] :=
    Document.exists_resolved (by decide +kernel)
  have hkeys : (Outline.writtenOfText petText).toOption.map (fun w => (w.paths.keys, w.definitions.keys)) =
      some (["/a"], ["e", "p", "b"]) := by
    decide +kernel
  obtain ⟨written, -, -, hread, -⟩ := hwritten d hd
  rw [hread, Except.toOption, Option.map_some, Option.some_inj, Prod.mk.injEq] at hkeys
  obtain ⟨gen, hgen⟩ := hruns.2 ⟨d, hd⟩
  obtain ⟨hreport, hreport'⟩ := hreports d r gen hd hr hgen
  rw [← restGenerated_eq, hgenerated] at hreport'
  rw [← hreport] at hskipped
  exact ⟨hvalid, written, d, r, gen, hread, hkeys.1, hkeys.2, hd, hr, hgen, hreport', hskipped⟩

end LuaStubs.Generator
