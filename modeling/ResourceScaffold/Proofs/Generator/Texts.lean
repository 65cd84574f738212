import ResourceScaffold.Proofs.Generator.FileNames
import ResourceScaffold.Proofs.Generator.Statements

/-!
Contract: the texts of the generated files, with the templates that come with the program.

Owns:
- the text of each layer's file, written out;
- what the templates of these files are read as, with the fields in their places;
- that every file and both insertions are generated with these texts, whatever the name and the
  settings are.

Does not own: what the texts mean.
-/

namespace ResourceScaffold

open Template Text

/-! ## Texts -/

/-- A text that is there only if a setting is not empty. -/
def ifGiven (setting text : String) : String :=
  if setting = "" then "" else text

/-- A text that is there only if a setting is empty. -/
def unlessGiven (setting text : String) : String :=
  if setting = "" then text else ""

/-- A setting as a line of its own, which is left out if the setting is empty. -/
def ownLine (setting : String) : String :=
  ifGiven setting (setting ++ "\n")

theorem toList_ifGiven (setting text : String) :
    (ifGiven setting text).toList = if setting = "" then [] else text.toList := by
  rw [ifGiven]
  split_ifs <;> rfl

theorem toList_unlessGiven (setting text : String) :
    (unlessGiven setting text).toList = if setting = "" then text.toList else [] := by
  rw [unlessGiven]
  split_ifs <;> rfl

theorem toList_ownLine (setting : String) :
    (ownLine setting).toList = if setting = "" then [] else setting.toList ++ "\n".toList := by
  rw [ownLine, toList_ifGiven, String.toList_append]

namespace ResourceName

def classImport (name : ResourceName) (suffix directory : String) : String :=
  "import \x7b " ++ name.pascal ++ suffix ++ " \x7d from '" ++ directory ++ "/" ++ name.pascal ++
    suffix ++ "';\n"

/-- The function that builds a controller with all that it needs. -/
def factoryText (name : ResourceName) : String :=
  "const make" ++ name.pascal ++ "Controller = () => \x7b\n" ++
  "  const repository = new " ++ name.pascal ++ "Repository();\n" ++
  "  const service = new " ++ name.pascal ++ "Service(repository);\n" ++
  "  return new " ++ name.pascal ++ "Controller(service);\n" ++
  "\x7d;\n"

def routeText (name : ResourceName) (templates : TemplateSettings) : String :=
  "import \x7b Router \x7d from 'express';\n" ++
  ownLine templates.authImport ++
  name.classImport "Controller" "../controller" ++
  name.classImport "Service" "../service" ++
  name.classImport "Repository" "../repository" ++
  "\n" ++
  "const " ++ name.routesIdent ++ " = Router();\n" ++
  "\n" ++
  "export " ++ name.factoryText ++
  "\n" ++
  "const " ++ name.camel ++ "Controller = make" ++ name.pascal ++ "Controller();\n" ++
  "\n" ++
  "const BASE_PATH = '" ++ name.basePath ++ "';\n" ++
  "\n" ++
  name.routesIdent ++ ".get(`$\x7bBASE_PATH\x7d/:" ++ name.idField ++ "`" ++
    ifGiven templates.authMiddleware (", " ++ templates.authMiddleware) ++
    ", (req, res) => " ++ name.camel ++ "Controller.getById(req, res));\n" ++
  "\n" ++
  "export \x7b " ++ name.routesIdent ++ " \x7d;\n"

def controllerText (name : ResourceName) (templates : TemplateSettings) : String :=
  "import \x7b Response" ++ unlessGiven templates.requestImport ", Request" ++
    " \x7d from 'express';\n" ++
  ownLine templates.requestImport ++
  name.classImport "Service" "../service" ++
  "\n" ++
  "export class " ++ name.pascal ++ "Controller \x7b\n" ++
  "  constructor(private " ++ name.camel ++ "Service: " ++ name.pascal ++ "Service) \x7b\x7d\n" ++
  "\n" ++
  "  async getById(req: " ++ templates.effectiveRequestType ++ ", res: Response) \x7b\n" ++
  "    const \x7b " ++ name.idField ++ " \x7d = req.params;\n" ++
  "    const result = await this." ++ name.camel ++ "Service.getById(Number(" ++ name.idField ++
    "));\n" ++
  "    return res.status(200).json(result);\n" ++
  "  \x7d\n" ++
  "\x7d\n"

def serviceText (name : ResourceName) : String :=
  name.classImport "Repository" "../repository" ++
  "\n" ++
  "export class " ++ name.pascal ++ "Service \x7b\n" ++
  "  constructor(private " ++ name.camel ++ "Repository: " ++ name.pascal ++
    "Repository) \x7b\x7d\n" ++
  "\n" ++
  "  async getById(" ++ name.idField ++ ": number) \x7b\n" ++
  "    return this." ++ name.camel ++ "Repository.getById(" ++ name.idField ++ ");\n" ++
  "  \x7d\n" ++
  "\x7d\n"

/-- The text of the repository file. The import comes with a blank line after it. -/
def repositoryText (name : ResourceName) (templates : TemplateSettings) : String :=
  ifGiven templates.databaseImport (templates.databaseImport ++ "\n\n") ++
  "export class " ++ name.pascal ++ "Repository \x7b\n" ++
  "  async getById(" ++ name.idField ++ ": number) \x7b\n" ++
  "    console.log(\x7b " ++ name.idField ++ " \x7d);\n" ++
  "    return \x7b " ++ name.idField ++ ": 'Ok' \x7d;\n" ++
  "  \x7d\n" ++
  "\x7d\n"

def testText (name : ResourceName) (templates : TemplateSettings) : String :=
  "import \x7b Response" ++ unlessGiven templates.requestImport ", Request" ++
    " \x7d from 'express';\n" ++
  ownLine templates.requestImport ++
  name.classImport "Repository" "../../src/repository" ++
  name.classImport "Service" "../../src/service" ++
  name.classImport "Controller" "../../src/controller" ++
  "\n" ++
  name.factoryText ++
  "\n" ++
  "describe('" ++ name.title ++ " Integration', () => \x7b\n" ++
  "  let mockRequest: Partial<" ++ templates.effectiveRequestType ++ ">;\n" ++
  "  let mockResponse: Partial<Response>;\n" ++
  "\n" ++
  "  beforeEach(() => \x7b\n" ++
  "    mockRequest = \x7b\n" ++
  "      body: \x7b\x7d as any,\n" ++
  ifGiven templates.requestImport
    "      user: \x7b id_user: 1, id_app: 29, user_name: 'Tester' \x7d as any,\n" ++
  "      params: \x7b " ++ name.idField ++ ": '1' \x7d,\n" ++
  "      query: \x7b\x7d,\n" ++
  "    \x7d;\n" ++
  "\n" ++
  "    mockResponse = \x7b\n" ++
  "      status: jest.fn().mockReturnThis(),\n" ++
  "      json: jest.fn((param) => param),\n" ++
  "    \x7d;\n" ++
  "  \x7d);\n" ++
  "\n" ++
  "  afterEach(() => \x7b\n" ++
  "    jest.clearAllMocks();\n" ++
  "    jest.restoreAllMocks();\n" ++
  "  \x7d);\n" ++
  "\n" ++
  "  it('should be able to get " ++ name.camel ++ "', async () => \x7b\n" ++
  "    const " ++ name.camel ++ "Controller = make" ++ name.pascal ++ "Controller();\n" ++
  "    const response = await " ++ name.camel ++
    "Controller.getById(mockRequest as any, mockResponse as any);\n" ++
  "\n" ++
  "    expect(response).toMatchObject(\x7b " ++ name.idField ++ ": 'Ok' \x7d);\n" ++
  "    expect(mockResponse.json).toHaveBeenCalledWith(\x7b " ++ name.idField ++ ": 'Ok' \x7d);\n" ++
  "    expect(mockResponse.status).toHaveBeenCalledWith(200);\n" ++
  "  \x7d);\n" ++
  "\x7d);\n"

def textOf (name : ResourceName) (templates : TemplateSettings) : Layer → String
  | .route => name.routeText templates
  | .controller => name.controllerText templates
  | .service => name.serviceText
  | .repository => name.repositoryText templates
  | .test => name.testText templates

end ResourceName

/-! ## Templates with fields in their places -/

namespace Template

def fieldGlyph (key : String) : List Glyph :=
  [.field key]

/-- A field as lines of its own, which are left out if its text is empty. -/
def ownLinePassage (key ending : String) : Passage :=
  .guarded true key (fieldGlyph key ++ glyphsOf ending)

def classImportGlyphs (suffix directory : String) : List Glyph :=
  List.flatten [
    glyphsOf "import \x7b ", fieldGlyph "pascal", glyphsOf suffix, glyphsOf " \x7d from '",
      glyphsOf directory, glyphsOf "/", fieldGlyph "pascal", glyphsOf suffix, glyphsOf "';\n"]

def factoryGlyphs : List Glyph :=
  List.flatten [
    glyphsOf "const make", fieldGlyph "pascal", glyphsOf "Controller = () => \x7b\n",
    glyphsOf "  const repository = new ", fieldGlyph "pascal", glyphsOf "Repository();\n",
    glyphsOf "  const service = new ", fieldGlyph "pascal", glyphsOf "Service(repository);\n",
    glyphsOf "  return new ", fieldGlyph "pascal", glyphsOf "Controller(service);\n",
    glyphsOf "\x7d;\n"]

def routePassages : List Passage :=
  [.always (glyphsOf "import \x7b Router \x7d from 'express';\n"),
    ownLinePassage "auth_import" "\n",
    .always (List.flatten [
      classImportGlyphs "Controller" "../controller",
      classImportGlyphs "Service" "../service",
      classImportGlyphs "Repository" "../repository",
      glyphsOf "\n",
      glyphsOf "const ", fieldGlyph "routes_ident", glyphsOf " = Router();\n",
      glyphsOf "\n",
      glyphsOf "export ", factoryGlyphs,
      glyphsOf "\n",
      glyphsOf "const ", fieldGlyph "camel", glyphsOf "Controller = make",
        fieldGlyph "pascal", glyphsOf "Controller();\n",
      glyphsOf "\n",
      glyphsOf "const BASE_PATH = '", fieldGlyph "base_path", glyphsOf "';\n",
      glyphsOf "\n",
      fieldGlyph "routes_ident", glyphsOf ".get(`$\x7bBASE_PATH\x7d/:",
        fieldGlyph "id_field", glyphsOf "`"]),
    .guarded true "auth_middleware" (glyphsOf ", " ++ fieldGlyph "auth_middleware"),
    .always (List.flatten [
      glyphsOf ", (req, res) => ", fieldGlyph "camel",
        glyphsOf "Controller.getById(req, res));\n",
      glyphsOf "\n",
      glyphsOf "export \x7b ", fieldGlyph "routes_ident", glyphsOf " \x7d;\n"])]

/-- The first lines of a file that handles requests. -/
def requestPassages : List Passage :=
  [.always (glyphsOf "import \x7b Response"),
    .guarded false "request_import" (glyphsOf ", Request"),
    .always (glyphsOf " \x7d from 'express';\n"),
    ownLinePassage "request_import" "\n"]

def controllerPassages : List Passage :=
  requestPassages ++
  [.always (List.flatten [
      classImportGlyphs "Service" "../service",
      glyphsOf "\n",
      glyphsOf "export class ", fieldGlyph "pascal", glyphsOf "Controller \x7b\n",
      glyphsOf "  constructor(private ", fieldGlyph "camel", glyphsOf "Service: ",
        fieldGlyph "pascal", glyphsOf "Service) \x7b\x7d\n",
      glyphsOf "\n",
      glyphsOf "  async getById(req: ", fieldGlyph "request_type",
        glyphsOf ", res: Response) \x7b\n",
      glyphsOf "    const \x7b ", fieldGlyph "id_field", glyphsOf " \x7d = req.params;\n",
      glyphsOf "    const result = await this.", fieldGlyph "camel",
        glyphsOf "Service.getById(Number(", fieldGlyph "id_field", glyphsOf "));\n",
      glyphsOf "    return res.status(200).json(result);\n",
      glyphsOf "  \x7d\n",
      glyphsOf "\x7d\n"])]

def servicePassages : List Passage :=
  [.always (List.flatten [
      classImportGlyphs "Repository" "../repository",
      glyphsOf "\n",
      glyphsOf "export class ", fieldGlyph "pascal", glyphsOf "Service \x7b\n",
      glyphsOf "  constructor(private ", fieldGlyph "camel", glyphsOf "Repository: ",
        fieldGlyph "pascal", glyphsOf "Repository) \x7b\x7d\n",
      glyphsOf "\n",
      glyphsOf "  async getById(", fieldGlyph "id_field", glyphsOf ": number) \x7b\n",
      glyphsOf "    return this.", fieldGlyph "camel", glyphsOf "Repository.getById(",
        fieldGlyph "id_field", glyphsOf ");\n",
      glyphsOf "  \x7d\n",
      glyphsOf "\x7d\n"])]

def repositoryPassages : List Passage :=
  [ownLinePassage "database_import" "\n\n",
    .always (List.flatten [
      glyphsOf "export class ", fieldGlyph "pascal", glyphsOf "Repository \x7b\n",
      glyphsOf "  async getById(", fieldGlyph "id_field", glyphsOf ": number) \x7b\n",
      glyphsOf "    console.log(\x7b ", fieldGlyph "id_field", glyphsOf " \x7d);\n",
      glyphsOf "    return \x7b ", fieldGlyph "id_field", glyphsOf ": 'Ok' \x7d;\n",
      glyphsOf "  \x7d\n",
      glyphsOf "\x7d\n"])]

def testPassages : List Passage :=
  requestPassages ++
  [.always (List.flatten [
      classImportGlyphs "Repository" "../../src/repository",
      classImportGlyphs "Service" "../../src/service",
      classImportGlyphs "Controller" "../../src/controller",
      glyphsOf "\n",
      factoryGlyphs,
      glyphsOf "\n",
      glyphsOf "describe('", fieldGlyph "title", glyphsOf " Integration', () => \x7b\n",
      glyphsOf "  let mockRequest: Partial<", fieldGlyph "request_type", glyphsOf ">;\n",
      glyphsOf "  let mockResponse: Partial<Response>;\n",
      glyphsOf "\n",
      glyphsOf "  beforeEach(() => \x7b\n",
      glyphsOf "    mockRequest = \x7b\n",
      glyphsOf "      body: \x7b\x7d as any,\n"]),
    .guarded true "request_import" (glyphsOf
      "      user: \x7b id_user: 1, id_app: 29, user_name: 'Tester' \x7d as any,\n"),
    .always (List.flatten [
      glyphsOf "      params: \x7b ", fieldGlyph "id_field", glyphsOf ": '1' \x7d,\n",
      glyphsOf "      query: \x7b\x7d,\n",
      glyphsOf "    \x7d;\n",
      glyphsOf "\n",
      glyphsOf "    mockResponse = \x7b\n",
      glyphsOf "      status: jest.fn().mockReturnThis(),\n",
      glyphsOf "      json: jest.fn((param) => param),\n",
      glyphsOf "    \x7d;\n",
      glyphsOf "  \x7d);\n",
      glyphsOf "\n",
      glyphsOf "  afterEach(() => \x7b\n",
      glyphsOf "    jest.clearAllMocks();\n",
      glyphsOf "    jest.restoreAllMocks();\n",
      glyphsOf "  \x7d);\n",
      glyphsOf "\n",
      glyphsOf "  it('should be able to get ", fieldGlyph "camel", glyphsOf "', async () => \x7b\n",
      glyphsOf "    const ", fieldGlyph "camel", glyphsOf "Controller = make",
        fieldGlyph "pascal", glyphsOf "Controller();\n",
      glyphsOf "    const response = await ", fieldGlyph "camel",
        glyphsOf "Controller.getById(mockRequest as any, mockResponse as any);\n",
      glyphsOf "\n",
      glyphsOf "    expect(response).toMatchObject(\x7b ", fieldGlyph "id_field",
        glyphsOf ": 'Ok' \x7d);\n",
      glyphsOf "    expect(mockResponse.json).toHaveBeenCalledWith(\x7b ",
        fieldGlyph "id_field", glyphsOf ": 'Ok' \x7d);\n",
      glyphsOf "    expect(mockResponse.status).toHaveBeenCalledWith(200);\n",
      glyphsOf "  \x7d);\n",
      glyphsOf "\x7d);\n"])]

end Template

/-- What the template of a layer's file is read as, up to where its passages are cut. -/
def Layer.passages : Layer → List Passage
  | route => routePassages
  | controller => controllerPassages
  | service => servicePassages
  | repository => repositoryPassages
  | test => testPassages

namespace Template

/-- Whether passages have the same outlines as others, for all choices of the fields that are
guards. -/
def haveOutlinesOf (expected passages : List Passage) : Bool :=
  ((expected ++ passages).filterMap Passage.guard?).dedup.sublists.all fun present =>
    outline (fun name => present.contains name) passages =
      outline (fun name => present.contains name) expected

/-- Passages with the same outlines are written as the same text. -/
theorem writtenPassages_of_haveOutlinesOf {expected passages : List Passage}
    (same : haveOutlinesOf expected passages = true) (textOf : String → String) :
    writtenPassages textOf passages = writtenPassages textOf expected := by
  obtain ⟨present, isChoice, chosen⟩ :=
    exists_choice (expected ++ passages) fun name => !(textOf name).isEmpty
  rw [List.forall_mem_append] at chosen
  have outlines := of_decide_eq_true (List.all_eq_true.1 same present isChoice)
  rw [writtenPassages, writtenPassages, outline_congr chosen.1, outline_congr chosen.2, outlines]

theorem glyphsOf_ofList (content : List Char) :
    glyphsOf (String.ofList content) = content.map .char := by
  rw [glyphsOf, String.toList_ofList]

set_option maxRecDepth 20000 in
theorem readsAs_haveOutlinesOf (layer : Layer) :
    readsAs (haveOutlinesOf layer.passages) layer.template.source = true := by
  cases layer <;>
    · simp only [Layer.template, Builtin.source, routeSource, controllerSource, serviceSource,
        repositorySource, testSource, Layer.passages, routePassages, controllerPassages,
        servicePassages, repositoryPassages, testPassages, requestPassages, ownLinePassage,
        classImportGlyphs, factoryGlyphs]
      repeat rw [glyphsOf_ofList]
      rw [readsAs, ofSource_ofLines (by repeat' constructor)]
      decide +kernel

/-! ### Writing -/

section Writing

variable (textOf : String → String)

theorem writtenPassages_nil : writtenPassages textOf [] = [] := rfl

theorem writtenPassages_append (first second : List Passage) :
    writtenPassages textOf (first ++ second) =
      writtenPassages textOf first ++ writtenPassages textOf second := by
  rw [writtenPassages, outline, List.flatMap_append, written_append]
  rfl

theorem written_fieldGlyph (key : String) :
    written textOf (fieldGlyph key) = (textOf key).toList := by
  rw [fieldGlyph, written_cons_field, written_nil, List.append_nil]

theorem written_shown_always (holds : String → Bool) (glyphs : List Glyph) :
    written textOf ((Passage.always glyphs).shown holds) = written textOf glyphs := rfl

theorem written_shown_given (key : String) (glyphs : List Glyph) :
    written textOf ((Passage.guarded true key glyphs).shown fun name => !(textOf name).isEmpty) =
      if textOf key = "" then [] else written textOf glyphs := by
  by_cases lacking : textOf key = "" <;> simp [Passage.shown, lacking]

theorem written_shown_lacking (key : String) (glyphs : List Glyph) :
    written textOf ((Passage.guarded false key glyphs).shown fun name => !(textOf name).isEmpty) =
      if textOf key = "" then written textOf glyphs else [] := by
  by_cases lacking : textOf key = "" <;> simp [Passage.shown, lacking]

end Writing

end Template

/-! ## Contents -/

namespace Generator

variable (name : ResourceName) (settings : Settings)

theorem contentOf_template (layer : Layer) :
    (standard name settings).contentOf layer.template =
      writtenPassages (standard name settings).contextText layer.passages :=
  writtenPassages_of_haveOutlinesOf (Builtin.check_passages (readsAs_haveOutlinesOf layer)) _

theorem contentOf_eq_textOf (layer : Layer) :
    (standard name settings).contentOf layer.template =
      (name.textOf settings.templates layer).toList := by
  have camel : (standard name settings).contextText "camel" = name.camel := rfl
  have pascal : (standard name settings).contextText "pascal" = name.pascal := rfl
  have idField : (standard name settings).contextText "id_field" = name.idField := rfl
  have title : (standard name settings).contextText "title" = name.title := rfl
  have basePath : (standard name settings).contextText "base_path" = name.basePath := rfl
  have routesIdent : (standard name settings).contextText "routes_ident" = name.routesIdent := rfl
  have authImport :
      (standard name settings).contextText "auth_import" = settings.templates.authImport := rfl
  have authMiddleware : (standard name settings).contextText "auth_middleware" =
      settings.templates.authMiddleware := rfl
  have requestImport : (standard name settings).contextText "request_import" =
      settings.templates.requestImport := rfl
  have requestType : (standard name settings).contextText "request_type" =
      settings.templates.effectiveRequestType := rfl
  have databaseImport : (standard name settings).contextText "database_import" =
      settings.templates.databaseImport := rfl
  rw [contentOf_template]
  -- Both sides consist of the same pieces, in the same order.
  cases layer <;>
    · unfold ResourceName.textOf ResourceName.routeText ResourceName.controllerText
        ResourceName.serviceText ResourceName.repositoryText ResourceName.testText
        ResourceName.factoryText ResourceName.classImport
      simp only [Layer.passages, routePassages, controllerPassages, servicePassages,
        repositoryPassages, testPassages, requestPassages, ownLinePassage, factoryGlyphs,
        classImportGlyphs, writtenPassages_nil, writtenPassages_cons, writtenPassages_append,
        written_shown_always, written_shown_given, written_shown_lacking, written_append,
        written_glyphsOf, written_fieldGlyph, toList_ifGiven, toList_unlessGiven, toList_ownLine,
        camel, pascal, idField, title, basePath, routesIdent, authImport, authMiddleware,
        requestImport, requestType, databaseImport, String.toList_append, List.append_assoc,
        List.append_nil, List.flatten_cons, List.flatten_nil]

theorem fileOf_eq (layer : Layer) :
    (standard name settings).fileOf layer =
      ⟨(standard name settings).pathFor layer, name.textOf settings.templates layer,
        (standard name settings).describe layer, layer⟩ := by
  rw [fileOf, contentOf_eq_textOf, String.ofList_toList]

end Generator

/-- Requests have the type of the package if and only if none is imported, or that type is asked
for. -/
theorem TemplateSettings.effectiveRequestType_eq_iff (templates : TemplateSettings) :
    templates.effectiveRequestType = "Request" ↔
      templates.requestImport = "" ∨ templates.requestType = "Request" := by
  by_cases lacking : templates.requestImport = "" <;> simp [effectiveRequestType, lacking]

/-! ## Generators -/

namespace Generator

/-- With the templates that come with the program, the files and the insertions are always
generated, and they are the texts that are written out here, with the settings put in as they are. -/
theorem create_generates (name : ResourceName) {settings : Settings}
    (plain : settings.templates.overrideDir = none) (session : Session) :
    ∃ generator, create name settings session = .ok generator session ∧
      generator.generate = .ok (Layer.all.map fun layer =>
        ⟨generator.pathFor layer, name.textOf settings.templates layer, generator.describe layer,
          layer⟩) ∧
      generator.aggregatorSplice = .ok ⟨settings.aggregator.importAnchor,
        settings.aggregator.registrationAnchor, name.importText,
        name.registrationText settings.aggregator.routerIdent⟩ ∧
      (settings.templates.effectiveRequestType = "Request" ↔
        settings.templates.requestImport = "" ∨ settings.templates.requestType = "Request") := by
  refine ⟨standard name settings, create_run name plain session, ?_,
    aggregatorSplice_standard name settings, settings.templates.effectiveRequestType_eq_iff⟩
  rw [generate_eq, funext (fileOf_eq name settings)]

def markupSettings : Settings :=
  { templates :=
      { authImport := "import \x7b\x7bauth\x7d\x7d from \"auth\";\nlet a = 1 < 2 && b;"
        requestImport := ""
        databaseImport := "\x7b\x7b#if x\x7d\x7d" } }

def markupRepository : String :=
  ofLines [
    "\x7b\x7b#if x\x7d\x7d",
    "",
    "export class OrderRepository \x7b",
    "  async getById(idOrder: number) \x7b",
    "    console.log(\x7b idOrder \x7d);",
    "    return \x7b idOrder: 'Ok' \x7d;",
    "  \x7d",
    "\x7d"]

theorem create_generates_markup :
    markupSettings.templates.overrideDir = none ∧
      ∃ generator, create orderName markupSettings ⟨⟨[], []⟩, [], "", 0, []⟩ =
          .ok generator ⟨⟨[], []⟩, [], "", 0, []⟩ ∧
        ∃ files, generator.generate = .ok files ∧
          (files.map (·.content))[3]? = some markupRepository := by
  have plain : markupSettings.templates.overrideDir = none := rfl
  have repository : orderName.repositoryText markupSettings.templates = markupRepository := by
    decide +kernel
  obtain ⟨generator, created, generated, -⟩ :=
    create_generates orderName plain ⟨⟨[], []⟩, [], "", 0, []⟩
  exact ⟨plain, generator, created, _, generated, congrArg some repository⟩

end Generator

end ResourceScaffold
