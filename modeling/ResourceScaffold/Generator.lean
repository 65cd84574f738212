import ResourceScaffold.Name
import ResourceScaffold.Overrides
import ResourceScaffold.Plan
import ResourceScaffold.Settings.Basic
import ResourceScaffold.Splice

/-!
Contract: the files and the insertions that settings make of a name.

Owns:
- the data that all templates see;
- the paths and descriptions of the generated files;
- the insertions into the aggregator;
- the plan for a project.

Does not own: writing anything.
-/

namespace ResourceScaffold

/-- A name with the settings and templates that its files are made with. -/
structure Generator where
  name : ResourceName
  settings : Settings
  templates : Template.Registry

namespace Generator

/-! ## Construction -/

def create (name : ResourceName) (settings : Settings) : Action Failure Generator := do
  let templates ←
    match settings.templates.overrideDir with
    | some directory => Template.Registry.withOverrides directory
    | none => Action.ofExcept Template.Registry.standard
  pure ⟨name, settings, templates⟩

/-! ## Data for templates -/

def contextFields (generator : Generator) : List (String × String) :=
  let name := generator.name
  let templates := generator.settings.templates
  [("camel", name.camel),
    ("pascal", name.pascal),
    ("kebab", name.kebab),
    ("id_field", name.idField),
    ("title", name.title),
    ("base_path", name.basePath),
    ("routes_ident", name.routesIdent),
    ("router_ident", generator.settings.aggregator.routerIdent),
    ("auth_import", templates.authImport),
    ("auth_middleware", templates.authMiddleware),
    ("request_import", templates.requestImport),
    ("request_type", templates.effectiveRequestType),
    ("database_import", templates.databaseImport)]

def context (generator : Generator) : Value :=
  .ofFields (generator.contextFields.map fun field => (field.1, .string field.2))

/-! ## Files -/

def directoryOf (generator : Generator) : Layer → Path
  | .route => generator.settings.layout.routesDir
  | .controller => generator.settings.layout.controllerDir
  | .service => generator.settings.layout.serviceDir
  | .repository => generator.settings.layout.repositoryDir
  | .test => generator.settings.layout.testDir

/-- The file name of a layer's file. The route file is named as the aggregator imports it. -/
def fileNameOf (generator : Generator) : Layer → String
  | .route => generator.name.camel ++ ".routes.ts"
  | .controller => generator.name.pascal ++ "Controller.ts"
  | .service => generator.name.pascal ++ "Service.ts"
  | .repository => generator.name.pascal ++ "Repository.ts"
  | .test => generator.name.pascal ++ ".test.ts"

/-- The path of a layer's file, relative to the root of the project. -/
def pathFor (generator : Generator) (layer : Layer) : Path :=
  (generator.directoryOf layer).join ⟨generator.fileNameOf layer⟩

def describe (generator : Generator) : Layer → String
  | .route => "Routes for " ++ generator.name.basePath
  | .controller => generator.name.pascal ++ "Controller"
  | .service => generator.name.pascal ++ "Service"
  | .repository => generator.name.pascal ++ "Repository stub"
  | .test => "Integration test for " ++ generator.name.pascal ++ "Controller"

def renderTemplate (generator : Generator) (template : Template.Builtin) : Except Failure String :=
  (generator.templates.render template.name generator.context).mapError .templateRender

def generateLayer (generator : Generator) (layer : Layer) : Except Failure GeneratedFile :=
  (generator.renderTemplate layer.template).map fun content =>
    ⟨generator.pathFor layer, content, generator.describe layer, layer⟩

/-- The files of all layers, in the order in which they are written. -/
def generate (generator : Generator) : Except Failure (List GeneratedFile) :=
  Layer.all.mapM generator.generateLayer

/-! ## Aggregator -/

def aggregatorPath (generator : Generator) : Path :=
  generator.settings.layout.aggregatorPath

def aggregatorSplice (generator : Generator) : Except Failure AggregatorSplice := do
  let importSnippet ← generator.renderTemplate .aggregatorImport
  let registrationSnippet ← generator.renderTemplate .aggregatorRegistration
  pure {
    importAnchor := generator.settings.aggregator.importAnchor
    registrationAnchor := generator.settings.aggregator.registrationAnchor
    importSnippet
    registrationSnippet }

def spliceAggregator (generator : Generator) (text : String) : Action Failure String := do
  let splice ← Action.ofExcept generator.aggregatorSplice
  splice.run text generator.aggregatorPath

/-! ## Plan -/

/-- Reads the aggregator of a project and works out all changes, without making any. -/
def plan (generator : Generator) (root : Path) : Action Failure ScaffoldPlan := do
  let path := generator.aggregatorPath
  let fullPath := root.join path
  let before ← Action.reading fullPath (·.readText fullPath)
  let after ← generator.spliceAggregator before
  let files ← Action.ofExcept generator.generate
  pure ⟨⟨path, before, after⟩, files⟩

end Generator

end ResourceScaffold
