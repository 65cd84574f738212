import ResourceScaffold.Session

/-!
Contract: a plan of all changes that one resource makes to a project.

Owns:
- generated files, the change of the aggregator, and the plan of both;
- which files of a plan are there already.

Does not own: making a plan, and carrying it out.
-/

namespace ResourceScaffold

/-- A generated file. Its path is relative to the root of the project. -/
structure GeneratedFile where
  path : Path
  content : String
  description : String
  layer : Layer
deriving DecidableEq, Repr

/-- The aggregator before and after the route is spliced in. -/
structure AggregatorEdit where
  path : Path
  before : String
  after : String
deriving DecidableEq, Repr

/-- All changes for one resource, with the files in the order in which they are written. -/
structure ScaffoldPlan where
  aggregator : AggregatorEdit
  files : List GeneratedFile
deriving DecidableEq, Repr

namespace ScaffoldPlan

def file? (plan : ScaffoldPlan) (layer : Layer) : Option GeneratedFile :=
  plan.files.find? fun file => file.layer = layer

/-- The generated paths that are there already, in the order of the plan. -/
def conflicts (plan : ScaffoldPlan) (tree : FileTree) (root : Path) : List Path :=
  (plan.files.map GeneratedFile.path).filter fun path => tree.pathExists (root.join path)

def routeExists (plan : ScaffoldPlan) (tree : FileTree) (root : Path) : Bool :=
  (plan.file? .route).any fun route => tree.pathExists (root.join route.path)

/-- A path is in conflict exactly when it is generated and is there already. -/
theorem mem_conflicts_iff {plan : ScaffoldPlan} {tree : FileTree} {root path : Path} :
    path ∈ plan.conflicts tree root ↔
      (∃ file ∈ plan.files, file.path = path) ∧ tree.pathExists (root.join path) = true := by
  simp [conflicts]

end ScaffoldPlan

end ResourceScaffold
