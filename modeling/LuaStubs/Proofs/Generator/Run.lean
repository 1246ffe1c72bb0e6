import LuaStubs.Outputs
import LuaStubs.Proofs.Files.Store
import LuaStubs.Proofs.Generator.Realtime
import LuaStubs.Proofs.Generator.Rest

/-!
# Runs on files

A run reads its input documents and renders a module from them. `EndsWith` has
what this comes to for each state of the files, and for each place where it can
end early. A run in memory writes the whole module, once, or nothing
(`run_all_or_nothing`).
-/

namespace LuaStubs

open Files (Store Reads Beside)

variable {τ : Type} [Template.Engine τ]

/-! ## Templates that fail -/

/-- A failure that names a template for which there is no text. -/
def TemplateSet.Failure (templates : TemplateSet τ) (e : Error) : Prop :=
  ∃ name context, templates.render name context = .error e ∧ e = .template (.rendering name)

theorem TemplateSet.failsIn_render (templates : TemplateSet τ) (name : String) (context : Json.Value) :
    FailsIn templates.Failure (templates.render name context) := by
  intro e h
  refine ⟨name, context, h, ?_⟩
  rw [render] at h
  split at h
  · cases h
  · exact (Except.error.inj h).symm

theorem Realtime.failsIn_renderModule (templates : TemplateSet τ) (messages : List Proto.Message)
    (events : List Proto.Event) : FailsIn templates.Failure (renderModule templates messages events) :=
  .bind (.mapM (fun _ => templates.failsIn_render _ _) messages) fun _ =>
    .bind (.mapM (fun _ => templates.failsIn_render _ _) events) fun _ => templates.failsIn_render _ _

theorem Rest.failsIn_renderParts (templates : TemplateSet τ) (d : Api.Definition) :
    FailsIn templates.Failure (renderParts templates d) := by
  rw [renderParts]
  split
  · exact .map (templates.failsIn_render _ _)
  · split
    · exact .map (templates.failsIn_render _ _)
    · exact .ok _

theorem Rest.failsIn_renderModule (templates : TemplateSet τ) (endpoints : List Api.Endpoint)
    (definitions : List Api.Definition) (info : Api.Info) :
    FailsIn templates.Failure (renderModule templates endpoints definitions info) :=
  .bind (.mapM (failsIn_renderParts templates) definitions) fun _ =>
    .bind (.mapM (fun _ => templates.failsIn_render _ _) endpoints) fun _ => templates.failsIn_render _ _

/-! ## Runs on texts -/

namespace Generator

variable {g : Generator τ}

/-- A run on two protocol documents fails just as the rendering of what is kept of them. -/
theorem realtime_eq_error_iff {realtimeText apiText : String} {e : Error} :
    let realtime := Proto.Document.ofText realtimeText
    let api := Proto.Document.ofText apiText
    g.realtime realtimeText apiText = .error e ↔
      Realtime.renderModule g.templates ((keptMessages realtime g.manifest).map (sentMessage realtime))
        ((keptEvents realtime api g.manifest).map fun e => .ofName e.name) = .error e := by
  intro realtime api
  rw [realtime_eq]
  exact map_eq_error_iff

/-- The name of a document matters only where its text is no document. -/
theorem restNamed_eq_ok_iff {document text : String} {generation : Generation} :
    g.restNamed document text = .ok generation ↔ g.rest text = .ok generation := by
  cases hd : Api.Document.ofText text with
  | error fault => simp [rest, restNamed, hd, bind, Except.bind]
  | ok d =>
    have hr := Api.Document.resolve_eq d g.manifest.settings
    rw [rest, restNamed_eq g document hd hr, restNamed_eq g _ hd hr]

theorem surface_of_realtime {realtimeText apiText : String} {generation : Generation}
    (h : g.realtime realtimeText apiText = .ok generation) :
    generation.report.surface = .realtime ∧ generation.report.bytes = generation.content.utf8ByteSize := by
  rw [realtime_eq, map_eq_ok_iff] at h
  obtain ⟨content, -, rfl⟩ := h
  exact ⟨rfl, rfl⟩

theorem surface_of_rest {text : String} {generation : Generation} (h : g.rest text = .ok generation) :
    generation.report.surface = .rest ∧ generation.report.bytes = generation.content.utf8ByteSize := by
  cases hd : Api.Document.ofText text with
  | error fault => simp [rest, restNamed, hd, bind, Except.bind] at h
  | ok d =>
    rw [rest, restNamed_eq g _ hd (Api.Document.resolve_eq d g.manifest.settings), map_eq_ok_iff] at h
    obtain ⟨content, -, rfl⟩ := h
    exact ⟨rfl, rfl⟩

end Generator

/-! ## Runs on files -/

/-- The surface that input documents are for. -/
def Inputs.surface : Inputs → Surface
  | realtime .. => .realtime
  | rest _ => .rest

namespace Generator

variable {σ : Type} [Store σ]

/-- What a run comes to, with a case for each place where it can end. -/
inductive EndsWith (g : Generator τ) (files : σ) : Inputs → Except Error Generation → Prop where
  | realtimeUnreadable {realtime api : String} {cause : Files.Problem} :
    Store.readText files realtime = .error cause →
    EndsWith g files (.realtime realtime api) (.error (.inputUnreadable realtime))
  | apiUnreadable {realtime api realtimeText : String} {cause : Files.Problem} :
    Store.readText files realtime = .ok realtimeText → Store.readText files api = .error cause →
    EndsWith g files (.realtime realtime api) (.error (.inputUnreadable api))
  | realtimeUnrendered {realtime api realtimeText apiText : String} {e : Error} :
    Store.readText files realtime = .ok realtimeText → Store.readText files api = .ok apiText →
    Realtime.renderModule g.templates
      ((keptMessages (.ofText realtimeText) g.manifest).map (sentMessage (.ofText realtimeText)))
      ((keptEvents (.ofText realtimeText) (.ofText apiText) g.manifest).map fun e => .ofName e.name) = .error e →
    EndsWith g files (.realtime realtime api) (.error e)
  | realtime {realtime api realtimeText apiText : String} {generation : Generation} :
    Store.readText files realtime = .ok realtimeText → Store.readText files api = .ok apiText →
    g.realtime realtimeText apiText = .ok generation →
    EndsWith g files (.realtime realtime api) (.ok generation)
  | restUnreadable {document : String} {cause : Files.Problem} :
    Store.readText files document = .error cause →
    EndsWith g files (.rest document) (.error (.inputUnreadable document))
  | restInvalid {document text : String} {fault : Json.Fault} :
    Store.readText files document = .ok text → Api.Document.ofText text = .error fault →
    EndsWith g files (.rest document) (.error (.invalidDocument document (.fault fault)))
  | restUnrendered {document text : String} {d : Api.Document} {r : Api.Resolved} {e : Error} :
    Store.readText files document = .ok text → Api.Document.ofText text = .ok d →
    d.resolve g.manifest.settings = .ok r →
    Rest.renderModule g.templates r.endpoints r.definitions d.info = .error e →
    EndsWith g files (.rest document) (.error e)
  | rest {document text : String} {generation : Generation} :
    Store.readText files document = .ok text → g.rest text = .ok generation →
    EndsWith g files (.rest document) (.ok generation)

/-- What the files make of a run. -/
def generated (g : Generator τ) (files : σ) : Inputs → Except Error Generation
  | .realtime realtime api =>
    (Store.document files realtime).bind fun realtimeText =>
      (Store.document files api).bind fun apiText => g.realtime realtimeText apiText
  | .rest document => (Store.document files document).bind fun text => g.restNamed document text

theorem reads_generate (g : Generator τ) (inputs : Inputs) :
    Reads (g.generate inputs) fun files : σ => g.generated files inputs := by
  cases inputs with
  | realtime realtime api =>
    exact .bind (.readDocument realtime) fun realtimeText => .bind (.readDocument api) fun apiText =>
      .of (g.realtime realtimeText apiText)
  | rest document => exact .bind (.readDocument document) fun text => .of (g.restNamed document text)

theorem beside_generate {ρ : Type} {m : Type → Type} [Monad m] [LawfulMonad m] [Files.Access m] (g : Generator τ)
    (inputs : Inputs) : Beside (τ := ρ) (g.generate inputs) (g.generate inputs : ExceptT Error m Generation) := by
  cases inputs with
  | realtime realtime api =>
    exact .bind (.readDocument realtime) fun realtimeText => .bind (.readDocument api) fun apiText =>
      .of (g.realtime realtimeText apiText)
  | rest document => exact .bind (.readDocument document) fun text => .of (g.restNamed document text)

/-- A run that writes its module to outputs in memory, with the outputs and the files that it leaves
behind. -/
def runInMemory (g : Generator τ) (inputs : Inputs) (earlier : Outputs) (files : σ) :
    (Except Error Generation × Outputs) × σ :=
  ((g.run inputs Outputs.write : ExceptT Error (StateT Outputs (StateM σ)) Generation).run.run earlier).run files

theorem runInMemory_eq (g : Generator τ) (inputs : Inputs) (earlier : Outputs) (files : σ) :
    g.runInMemory inputs earlier files =
      match g.generated files inputs with
      | .ok generation => ((.ok generation, earlier.add generation.report.surface generation.content), files)
      | .error e => ((.error e, earlier), files) := by
  rw [runInMemory, run, ExceptT.run_bind, StateT.run_bind, StateT.run_bind,
    (beside_generate g inputs).run_eq (reads_generate g inputs) earlier files]
  cases g.generated files inputs <;> rfl

variable {g : Generator τ} {files : σ} {inputs : Inputs}

theorem endsWith_generated (g : Generator τ) (files : σ) (inputs : Inputs) :
    g.EndsWith files inputs (g.generated files inputs) := by
  cases inputs with
  | realtime realtime api =>
    rw [generated]
    cases hrealtime : Store.readText files realtime with
    | error cause =>
      rw [Store.document, hrealtime]
      exact .realtimeUnreadable hrealtime
    | ok realtimeText =>
      cases hapi : Store.readText files api with
      | error cause =>
        rw [Store.document, hrealtime, Store.document, hapi]
        exact .apiUnreadable hrealtime hapi
      | ok apiText =>
        rw [Store.document, hrealtime, Store.document, hapi]
        change g.EndsWith files _ (g.realtime realtimeText apiText)
        cases h : g.realtime realtimeText apiText with
        | error e => exact .realtimeUnrendered hrealtime hapi (realtime_eq_error_iff.1 h)
        | ok generation => exact .realtime hrealtime hapi h
  | rest document =>
    rw [generated, Store.document]
    cases htext : Store.readText files document with
    | error cause => exact .restUnreadable htext
    | ok text =>
      change g.EndsWith files _ (g.restNamed document text)
      cases hd : Api.Document.ofText text with
      | error fault =>
        simp only [restNamed, hd, mapError_error, bind, Except.bind]
        exact .restInvalid htext hd
      | ok d =>
        have hr := Api.Document.resolve_eq d g.manifest.settings
        cases h : g.restNamed document text with
        | error e =>
          rw [restNamed_eq g document hd hr, map_eq_error_iff] at h
          exact .restUnrendered htext hd hr h
        | ok generation => exact .rest htext (restNamed_eq_ok_iff.1 h)

theorem EndsWith.eq_generated {result : Except Error Generation} (h : g.EndsWith files inputs result) :
    g.generated files inputs = result := by
  cases h with
  | realtimeUnreadable hrealtime => simp [generated, Store.document, hrealtime, Except.bind]
  | apiUnreadable hrealtime hapi => simp [generated, Store.document, hrealtime, hapi, Except.bind]
  | realtimeUnrendered hrealtime hapi hrender =>
    simp [generated, Store.document, hrealtime, hapi, Except.bind, realtime_eq_error_iff.2 hrender]
  | realtime hrealtime hapi hgeneration =>
    simp [generated, Store.document, hrealtime, hapi, Except.bind, hgeneration]
  | restUnreadable htext => simp [generated, Store.document, htext, Except.bind]
  | restInvalid htext hd => simp [generated, Store.document, htext, restNamed, hd, bind, Except.bind]
  | restUnrendered htext hd hr hrender =>
    simp [generated, Store.document, htext, Except.bind, restNamed_eq g _ hd hr, hrender, Except.map]
  | rest htext hgeneration =>
    simp [generated, Store.document, htext, Except.bind, restNamed_eq_ok_iff.2 hgeneration]

theorem generated_eq_iff {result : Except Error Generation} :
    g.generated files inputs = result ↔ g.EndsWith files inputs result :=
  ⟨fun h => h ▸ endsWith_generated g files inputs, EndsWith.eq_generated⟩

theorem EndsWith.surface_eq {generation : Generation} (h : g.EndsWith files inputs (.ok generation)) :
    generation.report.surface = inputs.surface ∧ generation.report.bytes = generation.content.utf8ByteSize := by
  cases h with
  | realtime _ _ hgeneration => exact surface_of_realtime hgeneration
  | rest _ hgeneration => exact surface_of_rest hgeneration

theorem EndsWith.isInputError_or_failure {e : Error} (h : g.EndsWith files inputs (.error e)) :
    e.isInputError = true ∨ g.templates.Failure e := by
  cases h with
  | realtimeUnreadable | apiUnreadable | restUnreadable | restInvalid => exact .inl rfl
  | realtimeUnrendered _ _ hrender => exact .inr (Realtime.failsIn_renderModule _ _ _ e hrender)
  | restUnrendered _ _ _ hrender => exact .inr (Rest.failsIn_renderModule _ _ _ _ e hrender)

/-- A run in memory writes all or nothing. It succeeds just where the input documents are read and
accepted and the module is rendered, with one more output, which is the module for the surface of the
inputs, and with its size in the report. Else it fails with a cause that names the document or the
template, and the outputs are as before. Either way the files are as before. -/
theorem run_all_or_nothing (g : Generator τ) (inputs : Inputs) (earlier : Outputs) (files : σ) :
    (∀ generation later files', g.runInMemory inputs earlier files = ((.ok generation, later), files') ↔
      g.EndsWith files inputs (.ok generation) ∧
        later.written = earlier.written ++ [(inputs.surface, generation.content)] ∧ files' = files) ∧
    (∀ e later files', g.runInMemory inputs earlier files = ((.error e, later), files') ↔
      g.EndsWith files inputs (.error e) ∧ later = earlier ∧ files' = files) ∧
    (∀ generation, g.EndsWith files inputs (.ok generation) →
      generation.report.surface = inputs.surface ∧ generation.report.bytes = generation.content.utf8ByteSize) ∧
    ∀ e, g.EndsWith files inputs (.error e) → e.isInputError = true ∨ g.templates.Failure e := by
  refine ⟨fun generation later files' => ?_, fun e later files' => ?_, fun _ => EndsWith.surface_eq,
    fun _ => EndsWith.isInputError_or_failure⟩
  · rw [runInMemory_eq, ← generated_eq_iff]
    cases hresult : g.generated files inputs with
    | error e => simp
    | ok written =>
      have hsurface := (generated_eq_iff.1 hresult).surface_eq.1
      simp only [Prod.mk.injEq, Except.ok.injEq, and_assoc]
      refine and_congr_right fun hwritten => and_congr ?_ eq_comm
      subst hwritten
      rw [Outputs.add, hsurface]
      cases later
      simp only [Outputs.mk.injEq, eq_comm]
  · rw [runInMemory_eq, ← generated_eq_iff]
    cases g.generated files inputs <;> simp [and_assoc, eq_comm]

end Generator

end LuaStubs
