import LuaStubs.Command.Run
import LuaStubs.Proofs.Command.Preparation
import LuaStubs.Proofs.Generator.Run

/-!
# How commands end

`run_generate` has the whole of a generation command: what it reads, and in
which order, what it writes and how it ends. From this follows what each exit
code says of the files (`exitCode_iff`).
-/

namespace LuaStubs

open Files (Store Reads)

variable {σ : Type} [Store σ] {files : σ} {inputs : Inputs} {τ : Type} [Template.Engine τ]

/-! ## Input documents -/

/-- An input document cannot be used: it cannot be read, or what is read is no API document. -/
inductive Inputs.Unusable (files : σ) : Inputs → Prop where
  | realtime {realtime api : String} {cause : Files.Problem} :
    Store.readText files realtime = .error cause → Unusable files (.realtime realtime api)
  | api {realtime api : String} {cause : Files.Problem} :
    Store.readText files api = .error cause → Unusable files (.realtime realtime api)
  | unreadable {document : String} {cause : Files.Problem} :
    Store.readText files document = .error cause → Unusable files (.rest document)
  | invalid {document text : String} {fault : Json.Fault} :
    Store.readText files document = .ok text → Api.Document.ofText text = .error fault →
    Unusable files (.rest document)

theorem TemplateSet.Failure.isInputError {templates : TemplateSet τ} {e : Error} (h : templates.Failure e) :
    e.isInputError = false := by
  obtain ⟨name, context, -, rfl⟩ := h
  rfl

/-- A run ends with an error in its inputs just where these cannot be used. -/
theorem Inputs.unusable_iff (g : Generator τ) :
    inputs.Unusable files ↔ ∃ e, g.generated files inputs = .error e ∧ e.isInputError = true := by
  simp only [Generator.generated_eq_iff]
  constructor
  · intro h
    cases h with
    | realtime hrealtime => exact ⟨_, .realtimeUnreadable hrealtime, rfl⟩
    | @api realtime _ _ hapi =>
      cases hrealtime : Store.readText files realtime with
      | error cause => exact ⟨_, .realtimeUnreadable hrealtime, rfl⟩
      | ok text => exact ⟨_, .apiUnreadable hrealtime hapi, rfl⟩
    | unreadable hdocument => exact ⟨_, .restUnreadable hdocument, rfl⟩
    | invalid hdocument hfault => exact ⟨_, .restInvalid hdocument hfault, rfl⟩
  · rintro ⟨e, h, he⟩
    cases h with
    | realtimeUnreadable hrealtime => exact .realtime hrealtime
    | apiUnreadable _ hapi => exact .api hapi
    | restUnreadable hdocument => exact .unreadable hdocument
    | restInvalid hdocument hfault => exact .invalid hdocument hfault
    | realtimeUnrendered _ _ hrender =>
      simp [(Realtime.failsIn_renderModule _ _ _ e hrender).isInputError] at he
    | restUnrendered _ _ _ hrender => simp [(Rest.failsIn_renderModule _ _ _ _ e hrender).isInputError] at he

namespace Command

/-! ## Output -/

/-- What a store comes to when a module goes to an output file, or else to the standard output. The
second part says whether it is written. -/
def delivered (files : σ) (content : String) : (output : Option String) → σ × Bool
  | some path => Store.writeText files path content
  | none => Store.print files content

/-- The name of an output in messages. -/
def outputName (output : Option String) : String := output.getD "<stdout>"

theorem run_writeModule (options : Options) (content : String) (files : σ) :
    (writeModule options content : ExceptT Error (StateM σ) Unit).run.run files =
      (if (delivered files content options.output).2 then .ok ()
        else .error (.outputFailed (outputName options.output)), (delivered files content options.output).1) := by
  obtain ⟨_ | path, manifest, templates⟩ := options
  · exact Files.run_printOutput content files
  · exact Files.run_writeOutput path content files

/-! ## Commands -/

/-- A run of a generator that writes its module where the options say. -/
def runWith (g : Generator τ) (inputs : Inputs) (options : Options) (files : σ) : Except Error Generation × σ :=
  (g.run inputs fun _ content => writeModule options content : ExceptT Error (StateM σ) Generation).run.run files

theorem runWith_eq (g : Generator τ) (inputs : Inputs) (options : Options) (files : σ) :
    runWith g inputs options files =
      match g.generated files inputs with
      | .error e => (.error e, files)
      | .ok generation =>
        (if (delivered files generation.content options.output).2 then .ok generation
          else .error (.outputFailed (outputName options.output)),
          (delivered files generation.content options.output).1) := by
  simp only [runWith, Generator.run, Files.run_bind, g.reads_generate inputs files, run_writeModule]
  cases g.generated files inputs with
  | error e => rfl
  | ok generation =>
    dsimp only
    cases (delivered files generation.content options.output).2 <;> rfl

theorem run_generate (inputs : Inputs) (options : Options) (files : σ) :
    (generate inputs options τ : StateM σ Outcome).run files =
      match (prepared options files : Except Error (Generator τ)) with
      | .error e => (if e.isConfigError then .rejected e else .failed .preparation e, files)
      | .ok g =>
        match runWith g inputs options files with
        | (.error e, later) => (if e.isInputError then .rejected e else .failed .generation e, later)
        | (.ok generation, later) =>
          (.finished (Summary.ofReport generation.report options.output) (printed options generation.content),
            later) := by
  simp only [generate, StateT.run_bind, reads_prepare options files]
  cases (prepared options files : Except Error (Generator τ)) with
  | error e => rfl
  | ok g =>
    change (_ >>= _ : StateM σ Outcome).run files = _
    rw [StateT.run_bind, ← runWith]
    dsimp only
    obtain ⟨r, later⟩ := runWith g inputs options files
    cases r <;> rfl

variable (τ) in
/-- How a command ends and which files it leaves behind, with a case for each place where it can end. -/
inductive Ends (inputs : Inputs) (options : Options) (files : σ) : Outcome × σ → Prop where
  | manifest {problem : ConfigProblem} :
    Manifest.Unusable files options.manifest →
    (prepared options files : Except Error (Generator τ)) = .error (.config problem) →
    Ends inputs options files (.rejected (.config problem), files)
  | templates {problem : TemplateProblem} :
    ¬ Manifest.Unusable files options.manifest → TemplateSet.Unusable τ files options.templates →
    (prepared options files : Except Error (Generator τ)) = .error (.template problem) →
    Ends inputs options files (.failed .preparation (.template problem), files)
  | input {g : Generator τ} {e : Error} :
    ¬ Manifest.Unusable files options.manifest → ¬ TemplateSet.Unusable τ files options.templates →
    prepared options files = .ok g → g.generated files inputs = .error e → e.isInputError = true →
    Ends inputs options files (.rejected e, files)
  | rendering {g : Generator τ} {e : Error} :
    ¬ Manifest.Unusable files options.manifest → ¬ TemplateSet.Unusable τ files options.templates →
    prepared options files = .ok g → g.generated files inputs = .error e → g.templates.Failure e →
    Ends inputs options files (.failed .generation e, files)
  | output {g : Generator τ} {generation : Generation} :
    ¬ Manifest.Unusable files options.manifest → ¬ TemplateSet.Unusable τ files options.templates →
    prepared options files = .ok g → g.generated files inputs = .ok generation →
    (delivered files generation.content options.output).2 = false →
    Ends inputs options files (.failed .generation (.outputFailed (outputName options.output)),
      (delivered files generation.content options.output).1)
  | finished {g : Generator τ} {generation : Generation} :
    ¬ Manifest.Unusable files options.manifest → ¬ TemplateSet.Unusable τ files options.templates →
    prepared options files = .ok g → g.generated files inputs = .ok generation →
    (delivered files generation.content options.output).2 = true →
    Ends inputs options files
      (.finished (Summary.ofReport generation.report options.output) (printed options generation.content),
        (delivered files generation.content options.output).1)

theorem ends_generate (inputs : Inputs) (options : Options) (files : σ) :
    Ends τ inputs options files ((generate inputs options τ : StateM σ Outcome).run files) := by
  rw [run_generate]
  have hprepared := preparation (τ := τ) options files
  cases hp : (prepared options files : Except Error (Generator τ)) with
  | error e =>
    rw [hp] at hprepared
    cases hprepared with
    | manifest hmanifest => exact .manifest hmanifest hp
    | templates hmanifest htemplates => exact .templates hmanifest htemplates hp
  | ok g =>
    rw [hp] at hprepared
    obtain ⟨hmanifest, htemplates⟩ := hprepared.of_ok
    dsimp only
    rw [runWith_eq]
    cases hg : g.generated files inputs with
    | error e =>
      rcases (Generator.generated_eq_iff.1 hg).isInputError_or_failure with hinput | hfailure
      · simp only [hinput, if_true]
        exact .input hmanifest htemplates hp hg hinput
      · simp only [hfailure.isInputError, Bool.false_eq_true, if_false]
        exact .rendering hmanifest htemplates hp hg hfailure
    | ok generation =>
      cases hdelivered : (delivered files generation.content options.output).2 with
      | false =>
        simp only [hdelivered, Bool.false_eq_true, if_false]
        exact .output hmanifest htemplates hp hg hdelivered
      | true =>
        simp only [hdelivered, if_true]
        exact .finished hmanifest htemplates hp hg hdelivered

/-- A generator is prepared for a command, which leaves the files as they are. -/
def Prepares (options : Options) (files : σ) (g : Generator τ) : Prop :=
  (prepare options τ : ExceptT Error (StateM σ) (Generator τ)).run.run files = (.ok g, files)

theorem prepares_iff {options : Options} {g : Generator τ} : Prepares options files g ↔ prepared options files = .ok g := by
  rw [Prepares, reads_prepare options files]
  exact ⟨fun h => (Prod.mk.inj h).1, fun h => Prod.ext h rfl⟩

variable (τ) in
/-- Each exit code tells what the files are like, whatever the template engine is. A command succeeds just where a generator can be
prepared and its run succeeds. The code for invalid input says that the manifest cannot be used, or
that the manifest and the templates can but an input document cannot. All else is a failure: of a template
that is read, of one that is rendered, or of the output. Where the input is invalid
or a template fails, nothing has been written or printed. -/
theorem exitCode_iff (inputs : Inputs) (options : Options) (files : σ) (format : Format) (color : Bool) :
    let ended := (generate inputs options τ : StateM σ Outcome).run files
    let ending := ended.1.ending format color
    (ending.exitCode.value = 0 ↔ ∃ (g : Generator τ) (generation : Generation), Prepares options files g ∧
      runWith g inputs options files = (.ok generation, ended.2)) ∧
    (ending.exitCode.value = 2 ↔ Manifest.Unusable files options.manifest ∨
      ¬ Manifest.Unusable files options.manifest ∧ ¬ TemplateSet.Unusable τ files options.templates ∧
        inputs.Unusable files) ∧
    (ending.exitCode.value = 1 ↔ ¬ Manifest.Unusable files options.manifest ∧
      (TemplateSet.Unusable τ files options.templates ∨ ¬ inputs.Unusable files ∧ ∃ g : Generator τ, Prepares options files g ∧
        ((∃ e, g.EndsWith files inputs (.error e) ∧ g.templates.Failure e) ∨
          ∃ generation, g.EndsWith files inputs (.ok generation) ∧
            (delivered files generation.content options.output).2 = false))) ∧
    (ending.exitCode.value = 1 ↔ ending.exitCode.value ≠ 0 ∧ ending.exitCode.value ≠ 2) ∧
    (ending.exitCode.value = 2 ∨ (∃ stage problem, ended.1 = .failed stage (.template problem)) →
      ended.2 = files ∧ ending.stdout = "") := by
  dsimp only
  simp only [prepares_iff, ← Generator.generated_eq_iff]
  have hends := ends_generate (τ := τ) inputs options files
  generalize (generate inputs options τ : StateM σ Outcome).run files = ended at hends
  cases hends with
  | manifest hmanifest hp => simp [Outcome.ending, Outcome.exitCode, ExitCode.invalidInput, hmanifest, hp]
  | templates hmanifest htemplates hp =>
    simp [Outcome.ending, Outcome.exitCode, ExitCode.failure, hmanifest, htemplates, hp]
  | @input g e hmanifest htemplates hp hg hinput =>
    have hunusable : inputs.Unusable files := (Inputs.unusable_iff g).2 ⟨e, hg, hinput⟩
    simp [Outcome.ending, Outcome.exitCode, ExitCode.invalidInput, hmanifest, htemplates, hp, runWith_eq, hg, hunusable]
  | @rendering g e hmanifest htemplates hp hg hfailure =>
    have husable : ¬ inputs.Unusable files := by simp [Inputs.unusable_iff g, hg, hfailure.isInputError]
    simp [Outcome.ending, Outcome.exitCode, ExitCode.failure, hmanifest, htemplates, hp, runWith_eq, hg, husable,
      hfailure]
  | @output g generation hmanifest htemplates hp hg hdelivered =>
    have husable : ¬ inputs.Unusable files := by simp [Inputs.unusable_iff g, hg]
    simp [Outcome.ending, Outcome.exitCode, ExitCode.failure, hmanifest, htemplates, hp, runWith_eq, hg, husable,
      hdelivered]
  | @finished g generation hmanifest htemplates hp hg hdelivered =>
    have husable : ¬ inputs.Unusable files := by simp [Inputs.unusable_iff g, hg]
    simp [Outcome.ending, Outcome.exitCode, ExitCode.success, hmanifest, htemplates, hp, runWith_eq, hg, husable,
      hdelivered]

end Command

end LuaStubs
