import LuaStubs.Command.Generate
import LuaStubs.Proofs.Attempt
import LuaStubs.Proofs.Files.Store
import LuaStubs.Proofs.Template.Sources

/-!
# Preparing a generator

A generator has the manifest and the templates that the options of a command
lead to. Reading either fails just where it cannot be used, with a problem of
the manifest (`Manifest.failsJust_ofFiles`) or of a template
(`TemplateSet.failsJust_ofFiles`), whatever the template engine is. The manifest
is read first.
-/

namespace LuaStubs

open Files (Store Reads)
open Template (Engine)

variable {σ : Type} [Store σ] {files : σ} {τ : Type} [Template.Engine τ]

/-! ## Manifests -/

namespace Manifest

theorem default_valid : Manifest.default.problem? = none := by decide

theorem valid_of_validate {m m' : Manifest} (h : m.validate = .ok m') : m'.problem? = none := by
  rw [validate] at h
  split at h
  · cases h
  · next hvalid => exact Except.ok.inj h ▸ hvalid

/-- The manifest in a file that has been read, or not. -/
def ofRead (path : String) : (read : Except Files.Problem String) → Except Error Manifest
  | .ok text => ofToml text
  | .error cause => .error (.config (.unreadable path cause))

/-- The manifest that a command works with. -/
def ofFiles (files : σ) : (path : Option String) → Except Error Manifest
  | none => .ok Manifest.default
  | some path => ofRead path (Store.readText files path)

theorem reads_load (path : String) : Reads (load path) fun files : σ => ofFiles files (some path) :=
  .readText path (fun read _ => ofRead path read) fun
    | .ok text => .of (ofToml text)
    | .error _ => .of _

/-- The manifest of a command cannot be used: its file cannot be read, or holds no manifest, or
something is wrong with the manifest. -/
inductive Unusable (files : σ) : (path : Option String) → Prop where
  | unreadable {path : String} {cause : Files.Problem} :
    Store.readText files path = .error cause → Unusable files (some path)
  | unparsable {path text : String} :
    Store.readText files path = .ok text → (Toml.table? text).bind decode? = none → Unusable files (some path)
  | invalid {path text : String} {m : Manifest} {problem : ConfigProblem} :
    Store.readText files path = .ok text → (Toml.table? text).bind decode? = some m →
    m.problem? = some problem → Unusable files (some path)

theorem failsJust_ofFiles (files : σ) (path : Option String) :
    FailsJust (Unusable files path) (fun e => ∃ problem, e = .config problem) (ofFiles files path) := by
  cases path with
  | none => exact .ok nofun
  | some path =>
    rw [ofFiles]
    cases hread : Store.readText files path with
    | error cause => exact .error (.unreadable hread) ⟨_, rfl⟩
    | ok text =>
      rw [ofRead, ofToml]
      cases hdecode : (Toml.table? text).bind decode? with
      | none => exact .error (.unparsable hread hdecode) ⟨_, rfl⟩
      | some m =>
        dsimp only
        rw [validate]
        cases hproblem : m.problem? with
        | some problem => exact .error (.invalid hread hdecode hproblem) ⟨_, rfl⟩
        | none =>
          refine .ok fun h => ?_
          cases h <;> simp_all

theorem valid_of_ofFiles {path : Option String} {m : Manifest} (h : ofFiles files path = .ok m) :
    m.problem? = none := by
  cases path with
  | none =>
    cases h
    exact default_valid
  | some path =>
    rw [ofFiles] at h
    cases hread : Store.readText files path with
    | error cause => rw [hread] at h; cases h
    | ok text =>
      rw [hread, ofRead, ofToml] at h
      split at h
      · exact valid_of_validate h
      · cases h

end Manifest

/-! ## Templates -/

namespace TemplateSet

/-- The set with the template of a name from a file that has been read, or not. -/
def replaced (path : String) (set : TemplateSet τ) (name : String) :
    (read : Except Files.Problem String) → Except Error (TemplateSet τ)
  | .ok source => set.register name source
  | .error cause => .error (.template (.unreadable path cause))

/-- The set with the template of a name from its file, if there is one. -/
def overridden (directory : String) (set : TemplateSet τ) (name : String) (files : σ) :
    Except Error (TemplateSet τ) :=
  if Store.isFile files (overridePath directory name) then
    replaced (overridePath directory name) set name (Store.readText files (overridePath directory name))
  else .ok set

/-- The templates that a command works with. -/
def ofFiles (files : σ) : (directory : Option String) → Except Error (TemplateSet τ)
  | none => ofSources
  | some directory => ofSources.bind fun set =>
    builtinNames.foldlM (fun set name => overridden directory set name files) set

theorem reads_applyOverride (directory : String) (set : TemplateSet τ) (name : String) :
    Reads (applyOverride directory set name) fun files : σ => overridden directory set name files :=
  let path := overridePath directory name
  .isFile path (fun isFile files => if isFile then replaced path set name (Store.readText files path) else .ok set) fun
    | true => .readText path (fun read _ => replaced path set name read) fun
      | .ok source => .of (set.register name source)
      | .error _ => .of _
    | false => .of _

theorem reads_ofDirectory (directory : String) :
    Reads (ofDirectory directory τ) fun files : σ => ofFiles files (some directory) :=
  .bind (.of ofSources) fun set => .foldlM (reads_applyOverride directory) builtinNames set

variable (τ) in
/-- The file that replaces a template is there but cannot be used: it cannot be read, or the engine
reads no template in it. -/
inductive BadOverride (files : σ) (directory name : String) : Prop where
  | unreadable {cause : Files.Problem} :
    Store.isFile files (overridePath directory name) = true →
    Store.readText files (overridePath directory name) = .error cause → BadOverride files directory name
  | unparsable {source : String} :
    Store.isFile files (overridePath directory name) = true →
    Store.readText files (overridePath directory name) = .ok source →
    (Engine.parse? name source : Option τ) = none → BadOverride files directory name

variable (τ) in
/-- The engine cannot read a built-in template, or a file in the directory of a command replaces one
but cannot be used. -/
def Unusable (files : σ) (directory : Option String) : Prop :=
  (∃ source ∈ Template.sources, (Engine.parse? source.1 (Template.sourceText source.2) : Option τ) = none) ∨
    ∃ path ∈ directory, ∃ name ∈ builtinNames, BadOverride τ files path name

theorem failsJust_register (set : TemplateSet τ) (name source : String) :
    FailsJust ((Engine.parse? name source : Option τ) = none) (fun e => ∃ problem, e = .template problem)
      (set.register name source) := by
  rw [register]
  cases hparse : (Engine.parse? name source : Option τ) with
  | none => exact .error rfl ⟨_, rfl⟩
  | some template => exact .ok (Option.some_ne_none template)

theorem failsJust_registerAll (set : TemplateSet τ) (sources : List (String × List String)) :
    FailsJust (∃ source ∈ sources, (Engine.parse? source.1 (Template.sourceText source.2) : Option τ) = none)
      (fun e => ∃ problem, e = .template problem) (set.registerAll sources) :=
  .foldlM (fun set source => failsJust_register set source.1 (Template.sourceText source.2)) sources set

theorem failsJust_overridden (directory : String) (set : TemplateSet τ) (name : String) :
    FailsJust (BadOverride τ files directory name) (fun e => ∃ problem, e = .template problem)
      (overridden directory set name files) := by
  rw [overridden]
  split
  · next hfile =>
    cases hread : Store.readText files (overridePath directory name) with
    | error cause => exact .error (.unreadable hfile hread) ⟨_, rfl⟩
    | ok source =>
      rw [replaced]
      have hregister := failsJust_register set name source
      generalize set.register name source = registered at hregister
      cases hregister with
      | error hparse hproblem => exact .error (.unparsable hfile hread hparse) hproblem
      | ok hparse =>
        refine .ok fun h => ?_
        cases h <;> simp_all
  · next hfile =>
    refine .ok fun h => ?_
    cases h <;> simp_all

theorem failsJust_ofFiles (files : σ) (directory : Option String) :
    FailsJust (Unusable τ files directory) (fun e => ∃ problem, e = .template problem)
      (ofFiles files directory : Except Error (TemplateSet τ)) := by
  have hsources := failsJust_registerAll (τ := τ) ⟨[]⟩ Template.sources
  cases directory with
  | none =>
    simp only [Unusable, Option.mem_def, reduceCtorEq, false_and, exists_false, or_false]
    exact hsources
  | some directory =>
    simp only [Unusable, Option.mem_def, Option.some.injEq, exists_eq_left']
    exact hsources.bind fun set => .foldlM (failsJust_overridden directory) builtinNames set

/-- The engine for nodes reads the built-in templates, so only a file can be in the way. -/
theorem unusable_nodes_iff {directory : Option String} : Unusable (List Template.Node) files directory ↔
    ∃ path ∈ directory, ∃ name ∈ builtinNames, BadOverride (List Template.Node) files path name := by
  refine or_iff_right ?_
  rintro ⟨source, hsource, hnone⟩
  obtain ⟨nodes, hread⟩ := Template.exists_parse?_of_mem_sources hsource
  rw [Engine.parse?_nodes, hread] at hnone
  cases hnone

end TemplateSet

/-! ## Generators -/

omit [Engine τ] in
theorem Generator.ofManifest_eq_ok {m : Manifest} {t : TemplateSet τ} (h : m.problem? = none) :
    ofManifest m t = .ok ⟨m, t, h⟩ := by
  rw [ofManifest]
  split
  · rfl
  · next hproblem => simp [h] at hproblem

namespace Command

/-- The generator for the options of a command. -/
def prepared (options : Options) (files : σ) : Except Error (Generator τ) :=
  (Manifest.ofFiles files options.manifest).bind fun manifest =>
    (TemplateSet.ofFiles files options.templates).bind fun templates => Generator.ofManifest manifest templates

theorem reads_prepare (options : Options) :
    Reads (prepare options τ) fun files : σ => (prepared options files : Except Error (Generator τ)) := by
  have hdefault : Reads (pure Manifest.default) fun _ : σ => (.ok Manifest.default : Except Error Manifest) := .of _
  have hsources : Reads (ExceptT.mk (pure TemplateSet.ofSources))
    fun _ : σ => (TemplateSet.ofSources : Except Error (TemplateSet τ)) := .of _
  obtain ⟨output, _ | path, _ | directory⟩ := options
  · exact hdefault.bind fun m => hsources.bind fun t => .of (Generator.ofManifest m t)
  · exact hdefault.bind fun m => (TemplateSet.reads_ofDirectory directory).bind fun t => .of (Generator.ofManifest m t)
  · exact (Manifest.reads_load path).bind fun m => hsources.bind fun t => .of (Generator.ofManifest m t)
  · exact (Manifest.reads_load path).bind fun m =>
      (TemplateSet.reads_ofDirectory directory).bind fun t => .of (Generator.ofManifest m t)

/-- What comes of preparing a generator. -/
inductive Preparation (options : Options) (files : σ) : Except Error (Generator τ) → Prop where
  | manifest {problem : ConfigProblem} :
    Manifest.Unusable files options.manifest → Preparation options files (.error (.config problem))
  | templates {problem : TemplateProblem} :
    ¬ Manifest.Unusable files options.manifest → TemplateSet.Unusable τ files options.templates →
    Preparation options files (.error (.template problem))
  | ready {g : Generator τ} :
    ¬ Manifest.Unusable files options.manifest → ¬ TemplateSet.Unusable τ files options.templates →
    Preparation options files (.ok g)

theorem Preparation.of_ok {options : Options} {g : Generator τ} : Preparation options files (.ok g) →
    ¬ Manifest.Unusable files options.manifest ∧ ¬ TemplateSet.Unusable τ files options.templates
  | .ready hmanifest htemplates => ⟨hmanifest, htemplates⟩

theorem preparation (options : Options) (files : σ) :
    Preparation options files (prepared options files : Except Error (Generator τ)) := by
  rw [prepared]
  have hmanifest := Manifest.failsJust_ofFiles files options.manifest
  cases hm : Manifest.ofFiles files options.manifest with
  | error e =>
    rw [hm] at hmanifest
    obtain ⟨hbad, problem, rfl⟩ := hmanifest.of_error
    exact .manifest hbad
  | ok m =>
    rw [hm] at hmanifest
    have htemplates := TemplateSet.failsJust_ofFiles (τ := τ) files options.templates
    cases ht : (TemplateSet.ofFiles files options.templates : Except Error (TemplateSet τ)) with
    | error e =>
      rw [ht] at htemplates
      obtain ⟨hbad, problem, rfl⟩ := htemplates.of_error
      exact .templates hmanifest.of_ok hbad
    | ok t =>
      rw [ht] at htemplates
      change Preparation options files (Generator.ofManifest m t)
      rw [Generator.ofManifest_eq_ok (Manifest.valid_of_ofFiles hm)]
      exact .ready hmanifest.of_ok htemplates.of_ok

end Command

end LuaStubs
