import ResourceScaffold.Path

/-!
Contract: the settings of a run.

Owns:
- the settings in their sections, with the defaults of the conventional layout;
- the path of the aggregator.

Does not own: where settings come from.
-/

namespace ResourceScaffold

/-- Where the files of each layer lie, relative to the root of the project. -/
structure LayoutSettings where
  routesDir : Path := ⟨"src/routes"⟩
  aggregatorFile : String := "_index.ts"
  controllerDir : Path := ⟨"src/controller"⟩
  serviceDir : Path := ⟨"src/service"⟩
  repositoryDir : Path := ⟨"src/repository"⟩
  testDir : Path := ⟨"test/integration"⟩
deriving DecidableEq, Repr

def LayoutSettings.aggregatorPath (layout : LayoutSettings) : Path :=
  layout.routesDir.join ⟨layout.aggregatorFile⟩

/-- The texts in front of which the aggregator is extended, and the name of its router. -/
structure AggregatorSettings where
  importAnchor : String := "const appRoutes = Router();"
  registrationAnchor : String := "export default appRoutes;"
  routerIdent : String := "appRoutes"
deriving DecidableEq, Repr

/-- Optional lines and names in generated files. An empty text leaves its line out. -/
structure TemplateSettings where
  authImport : String := "import auth from '../middleware/auth';"
  authMiddleware : String := "auth"
  requestImport : String := "import \x7b CustomRequest \x7d from '../../types/custom';"
  requestType : String := "CustomRequest"
  databaseImport : String := "import prisma from '../database/client';"
  overrideDir : Option Path := none
deriving DecidableEq, Repr

/-- The run of the generated test. -/
structure VerifySettings where
  enabled : Bool := true
  command : List String := ["yarn", "test"]
deriving DecidableEq, Repr

/-- All settings of a run. -/
structure Settings where
  defaultName : String := "myNewResourceName"
  layout : LayoutSettings := {}
  aggregator : AggregatorSettings := {}
  templates : TemplateSettings := {}
  verify : VerifySettings := {}
deriving DecidableEq, Repr

/-- The type that the generated code uses for requests. A type of its own is used only if it is also
imported. -/
def TemplateSettings.effectiveRequestType (templates : TemplateSettings) : String :=
  if templates.requestImport = "" then "Request" else templates.requestType

end ResourceScaffold
