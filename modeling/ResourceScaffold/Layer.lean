import ResourceScaffold.Template.Builtin

/-!
Contract: the layers of a scaffolded resource.

Owns:
- the layers, their order and their names;
- the template that renders each of them.

Does not own: the paths of their files, which depend on the settings.
-/

namespace ResourceScaffold

/-- A layer of a resource. Each has one generated file. -/
inductive Layer where
  | route
  | controller
  | service
  | repository
  | test
deriving DecidableEq, Repr

namespace Layer

/-- All layers, in the order in which their files are written. -/
def all : List Layer :=
  [route, controller, service, repository, test]

def template : Layer → Template.Builtin
  | route => .route
  | controller => .controller
  | service => .service
  | repository => .repository
  | test => .test

def name (layer : Layer) : String :=
  layer.template.name

theorem mem_all (layer : Layer) : layer ∈ all := by
  cases layer <;> simp [all]

theorem nodup_all : all.Nodup := by
  decide

end Layer

end ResourceScaffold
