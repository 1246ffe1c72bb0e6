import LuaStubs.Files.Access
import LuaStubs.Template.Set

/-!
# Templates from files

A directory may have files with templates that replace built-in ones of the same
name.
-/

namespace LuaStubs.TemplateSet

/-- The path of the file that replaces a template. -/
def overridePath (directory name : String) : String :=
  Files.join directory (name ++ ".lua.hbs")

variable {m : Type → Type} [Monad m] [Files.Access m]

section

variable {τ : Type} [Template.Engine τ]

/-- The set with the template of a name from its file, if there is one. -/
def applyOverride (directory : String) (set : TemplateSet τ) (name : String) :
    ExceptT Error m (TemplateSet τ) := do
  let path := overridePath directory name
  if ← (Files.Access.isFile path : m _) then
    match ← (Files.Access.readText path : m _) with
    | .ok source => set.register name source
    | .error cause => throw (.template (.unreadable path cause))
  else return set

end

/-- The built-in templates, with those that a directory replaces. -/
def ofDirectory (directory : String) (τ : Type := List Template.Node) [Template.Engine τ] :
    ExceptT Error m (TemplateSet τ) := do
  let set ← (ofSources : Except Error (TemplateSet τ))
  builtinNames.foldlM (applyOverride directory) set

end LuaStubs.TemplateSet
