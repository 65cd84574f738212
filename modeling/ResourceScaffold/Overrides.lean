import ResourceScaffold.Session

/-!
Contract: files that replace the templates that come with the program.

Owns:
- the names of those files;
- the registry with the replacements that a directory holds.

Does not own: other files in that directory, which are ignored.
-/

namespace ResourceScaffold.Template

def Builtin.fileIn (builtin : Builtin) (directory : Path) : Path :=
  directory.join ⟨builtin.name ++ ".hbs"⟩

namespace Registry

def replaceBuiltin (registry : Registry) (builtin : Builtin) (source : String) :
    Except Failure Registry :=
  (registry.register builtin.name source).mapError .templateRegistration

/-- Replaces one template, if the directory has a file for it. -/
def replaceFrom (directory : Path) (registry : Registry) (builtin : Builtin) :
    Action Failure Registry := do
  let path := builtin.fileIn directory
  let files ← Action.files
  if files.isFile path then
    let source ← Action.reading path (·.readText path)
    let replaced ← Action.ofExcept (registry.replaceBuiltin builtin source)
    Action.note [.templateReplaced builtin.name path]
    pure replaced
  else
    pure registry

def standard : Except Failure Registry :=
  Registry.builtin.mapError .templateRegistration

def withOverrides (directory : Path) : Action Failure Registry := do
  let registry ← Action.ofExcept standard
  Builtin.all.foldlM (replaceFrom directory) registry

end Registry

end ResourceScaffold.Template
