import ResourceScaffold.Proofs.Generator.Contents
import ResourceScaffold.Proofs.Name.Forms
import ResourceScaffold.Proofs.Template.GlyphLine

/-!
Contract: imports and exports in the generated files, with the templates that come with the program.

Owns:
- imports and exports as lines of a text;
- which imports of the resource's own classes and router each template writes;
- that each layer's file exports what the layer is there for.

Does not own: where imports lead, and those that the settings put in.
-/

namespace ResourceScaffold

open Template Text

/-! ## Statements -/

def importStatement (identifier specifier : String) : String :=
  "import \x7b " ++ identifier ++ " \x7d from '" ++ specifier ++ "';"

/-- The two ways to export an identifier: a class where it is declared, or a value by name. -/
def exportStatements (identifier : String) : List String :=
  ["export class " ++ identifier ++ " \x7b", "export \x7b " ++ identifier ++ " \x7d;"]

def Imports (content identifier specifier : String) : Prop :=
  (importStatement identifier specifier).toList ∈ splitOn '\n' content.toList

def Exports (content identifier : String) : Prop :=
  ∃ statement ∈ exportStatements identifier, statement.toList ∈ splitOn '\n' content.toList

/-- Whether an import is from a file, and not from a package. -/
def IsRelative (specifier : String) : Prop :=
  ['.', '/'] <+: specifier.toList ∨ ['.', '.', '/'] <+: specifier.toList

/-- The class or the router that a layer is there for. -/
def ResourceName.exported? (name : ResourceName) : Layer → Option String
  | .route => some name.routesIdent
  | .controller => some (name.pascal ++ "Controller")
  | .service => some (name.pascal ++ "Service")
  | .repository => some (name.pascal ++ "Repository")
  | .test => none

/-- The file of a layer without its extension. -/
def ResourceName.moduleOf (name : ResourceName) : Layer → String
  | .route => name.camel ++ ".routes"
  | .controller => name.pascal ++ "Controller"
  | .service => name.pascal ++ "Service"
  | .repository => name.pascal ++ "Repository"
  | .test => name.pascal ++ ".test"

/-! ## Templates -/

namespace Template.Builtin

/-- What a template imports from other layers, with the directory that it expects them in. -/
def imports : Builtin → List (String × Layer)
  | route =>
      [("../controller", .controller), ("../service", .service), ("../repository", .repository)]
  | controller => [("../service", .service)]
  | service => [("../repository", .repository)]
  | repository => []
  | test =>
      [("../../src/repository", .repository), ("../../src/service", .service),
        ("../../src/controller", .controller)]
  | aggregatorImport => [(".", .route)]
  | aggregatorRegistration => []

end Template.Builtin

def glyphsOf (text : String) : List Glyph :=
  text.toList.map .char

namespace Layer

def identifierGlyphs : Layer → List Glyph
  | route => [.field "routes_ident"]
  | controller => .field "pascal" :: glyphsOf "Controller"
  | service => .field "pascal" :: glyphsOf "Service"
  | repository => .field "pascal" :: glyphsOf "Repository"
  | test => .field "pascal" :: glyphsOf ".test"

def moduleGlyphs : Layer → List Glyph
  | route => .field "camel" :: glyphsOf ".routes"
  | layer => layer.identifierGlyphs

def importGlyphs (layer : Layer) (directory : String) : List Glyph :=
  glyphsOf "import \x7b " ++ layer.identifierGlyphs ++ glyphsOf " \x7d from '" ++
    glyphsOf directory ++ .char '/' :: layer.moduleGlyphs ++ glyphsOf "';"

def exportGlyphs : Layer → List (List Glyph)
  | route => [glyphsOf "export \x7b " ++ route.identifierGlyphs ++ glyphsOf " \x7d;"]
  | test => []
  | layer => [glyphsOf "export class " ++ layer.identifierGlyphs ++ glyphsOf " \x7b"]

end Layer

/-- The fields of the settings that are written on lines of their own. -/
def ownLineFields : List String :=
  ["auth_import", "request_import", "database_import"]

def inlineFields : List String :=
  ["camel", "pascal", "id_field", "title", "base_path", "routes_ident", "auth_middleware",
    "request_type"]

/-- What templates import from a package. -/
def packageImports : List String :=
  ["Router", "Response", "Response, Request"]

/-- Whether it can be told from the glyphs of a line what it imports: it is up to the settings, or a
line that is no import, or one from a package, or one that is listed for the template. -/
def isKnownLine (builtin : Builtin) (line : List Glyph) : Bool :=
  ownLineFields.any (fun key => line = [.field key]) ||
    line.all (Glyph.staysOnLine inlineFields) &&
      -- The endpoint begins with a field, but goes on as no import does.
      (rulesOut "import \x7b ".toList line || line.take 2 = [.field "routes_ident", .char '.'] ||
        packageImports.any (fun names => line = glyphsOf (importStatement names "express")) ||
        builtin.imports.any fun entry => line = entry.2.importGlyphs entry.1)

def hasKnownLines (builtin : Builtin) (glyphs : List Glyph) : Bool :=
  let lines := glyphLines glyphs
  lines.all (isKnownLine builtin) &&
    builtin.imports.all (fun entry => lines.contains (entry.2.importGlyphs entry.1)) &&
    Layer.all.all fun layer =>
      layer.template != builtin || layer.exportGlyphs.all lines.contains

def alwaysHasKnownLines (builtin : Builtin) (passages : List Passage) : Bool :=
  (passages.filterMap Passage.guard?).dedup.sublists.all fun present =>
    hasKnownLines builtin (outline (fun name => present.contains name) passages)

open Template.Builtin in
set_option maxRecDepth 20000 in
theorem readsAs_alwaysHasKnownLines {builtin : Builtin}
    (isImporter : builtin ≠ .aggregatorRegistration) :
    readsAs (alwaysHasKnownLines builtin) builtin.source = true := by
  cases builtin with
  | aggregatorRegistration => exact absurd rfl isImporter
  | _ =>
      simp only [source, routeSource, controllerSource, serviceSource, repositorySource, testSource,
        importSource]
      rw [readsAs, ofSource_ofLines (by repeat' constructor)]
      decide +kernel

/-! ## Identifiers -/

namespace ResourceName

variable {name : ResourceName} {layer layer' : Layer} {identifier specifier : String}

theorem continuesIdentifier_of_mem_exported (isName : IsIdentifier name.camel)
    (exported : name.exported? layer = some identifier) {character : Char}
    (member : character ∈ identifier.toList) : continuesIdentifier character = true := by
  have stem {word ending : String}
      (inWord : ∀ other ∈ word.toList, continuesIdentifier other = true)
      (inEnding : ending.toList.all continuesIdentifier = true)
      (member : character ∈ (word ++ ending).toList) : continuesIdentifier character = true := by
    rw [String.toList_append] at member
    rcases List.mem_append.1 member with first | last
    · exact inWord character first
    · exact List.all_eq_true.1 inEnding character last
  have pascal : ∀ other ∈ name.pascal.toList, continuesIdentifier other = true :=
    fun _ inPascal => continuesIdentifier_of_mem_pascal isName inPascal
  cases layer with
  | route =>
      cases exported
      exact stem (fun _ inName => continuesIdentifier_of_mem isName inName) (by decide +kernel)
        member
  | test => cases exported
  | _ =>
      cases exported
      exact stem pascal (by decide +kernel) member

theorem notMem_exported (isName : IsIdentifier name.camel)
    (exported : name.exported? layer = some identifier) (character : Char)
    (foreign : continuesIdentifier character = false) : character ∉ identifier.toList := by
  intro member
  rw [continuesIdentifier_of_mem_exported isName exported member] at foreign
  cases foreign

theorem exported?_endsIn (exported : name.exported? layer = some identifier) :
    ∃ ending ∈ ["Routes", "Controller", "Service", "Repository"],
      ending.toList <:+ identifier.toList := by
  have ends (word ending : String) : ending.toList <:+ (word ++ ending).toList := by
    rw [String.toList_append]
    exact List.suffix_append _ _
  cases layer with
  | test => cases exported
  | _ =>
      cases exported
      exact ⟨_, by simp, ends _ _⟩

end ResourceName

/-! ## Lines of contents -/

@[simp] theorem written_glyphsOf (textOf : String → String) (text : String) :
    written textOf (glyphsOf text) = text.toList :=
  written_chars textOf text.toList

@[simp] theorem written_cons_char (textOf : String → String) (character : Char)
    (rest : List Glyph) :
    written textOf (.char character :: rest) = character :: written textOf rest := rfl

@[simp] theorem written_cons_field (textOf : String → String) (key : String)
    (rest : List Glyph) :
    written textOf (.field key :: rest) = (textOf key).toList ++ written textOf rest := rfl

namespace Generator

variable {name : ResourceName} {settings : Settings} {layer : Layer} {identifier specifier : String}

/-- The glyphs that a template writes, without what the settings leave out. -/
def outlineOf (generator : Generator) (builtin : Builtin) : List Glyph :=
  outline (fun key => !(generator.contextText key).isEmpty) builtin.passages

/-- What is checked of the lines of a template. -/
structure KnownLines (builtin : Builtin) (lines : List (List Glyph)) : Prop where
  known : ∀ line ∈ lines, isKnownLine builtin line = true
  imports : ∀ entry ∈ builtin.imports, entry.2.importGlyphs entry.1 ∈ lines
  exports : ∀ layer : Layer, layer.template = builtin → ∀ line ∈ layer.exportGlyphs, line ∈ lines

theorem knownLines_outlineOf (generator : Generator) {builtin : Builtin}
    (isImporter : builtin ≠ .aggregatorRegistration) :
    KnownLines builtin (glyphLines (generator.outlineOf builtin)) := by
  have checked := Builtin.check_passages (readsAs_alwaysHasKnownLines isImporter)
  rw [alwaysHasKnownLines, List.all_eq_true] at checked
  have holds : hasKnownLines builtin (generator.outlineOf builtin) = true :=
    @forall_outline (hasKnownLines builtin · = true) builtin.passages checked _
  rw [hasKnownLines, Bool.and_eq_true, Bool.and_eq_true, List.all_eq_true, List.all_eq_true,
    List.all_eq_true] at holds
  obtain ⟨⟨known, imports⟩, exports⟩ := holds
  refine ⟨known, fun entry isEntry => List.contains_iff_mem.1 (imports entry isEntry), ?_⟩
  rintro layer rfl line isExport
  have own := exports layer layer.mem_all
  rw [bne_self_eq_false, Bool.false_or, List.all_eq_true] at own
  exact List.contains_iff_mem.1 (own line isExport)

theorem splitOn_contentOf (generator : Generator) (builtin : Builtin) :
    splitOn '\n' (generator.contentOf builtin) =
      (glyphLines (generator.outlineOf builtin)).flatMap fun line =>
        splitOn '\n' (written generator.contextText line) :=
  splitOn_written _ _

theorem exported?_of_mem_imports (name : ResourceName) {builtin : Builtin} {entry : String × Layer}
    (isEntry : entry ∈ builtin.imports) : ∃ identifier, name.exported? entry.2 = some identifier := by
  have checked : ∀ builtin ∈ Builtin.all, ∀ entry ∈ builtin.imports, entry.2 ≠ .test := by
    decide
  cases layer : entry.2 with
  | test => exact absurd layer (checked builtin builtin.mem_all entry isEntry)
  | _ => exact ⟨_, rfl⟩

theorem written_importGlyphs (settings : Settings)
    (exported : name.exported? layer = some identifier) (directory : String) :
    written (standard name settings).contextText (layer.importGlyphs directory) =
      (importStatement identifier (directory ++ "/" ++ name.moduleOf layer)).toList := by
  have routes : (standard name settings).contextText "routes_ident" = name.routesIdent := rfl
  have camel : (standard name settings).contextText "camel" = name.camel := rfl
  have pascal : (standard name settings).contextText "pascal" = name.pascal := rfl
  cases layer with
  | test => cases exported
  | _ =>
      cases exported
      simp [Layer.importGlyphs, Layer.identifierGlyphs, Layer.moduleGlyphs, importStatement,
        ResourceName.moduleOf, routes, camel, pascal]

theorem written_exportGlyphs (settings : Settings)
    (exported : name.exported? layer = some identifier) :
    ∃ line ∈ layer.exportGlyphs, ∃ statement ∈ exportStatements identifier,
      written (standard name settings).contextText line = statement.toList := by
  have routes : (standard name settings).contextText "routes_ident" = name.routesIdent := rfl
  have pascal : (standard name settings).contextText "pascal" = name.pascal := rfl
  cases layer with
  | route =>
      cases exported
      refine ⟨_, List.mem_singleton_self _, _, List.mem_cons_of_mem _ (List.mem_singleton_self _), ?_⟩
      simp [Layer.identifierGlyphs, routes]
  | test => cases exported
  | _ =>
      cases exported
      refine ⟨_, List.mem_singleton_self _, _, List.mem_cons_self, ?_⟩
      simp [Layer.identifierGlyphs, pascal]

end Generator

/-! ## Fields -/

/-- The texts that the settings put on lines of their own import nothing of the resource, and the
others keep to their lines. -/
structure TemplateSettings.LeavesImports (templates : TemplateSettings) (name : ResourceName) :
    Prop where
  imports : ∀ text ∈ [templates.authImport, templates.requestImport, templates.databaseImport],
    ∀ layer identifier specifier, name.exported? layer = some identifier → IsRelative specifier →
      ¬ Imports text identifier specifier
  middleware : '\n' ∉ templates.authMiddleware.toList
  requestType : '\n' ∉ templates.effectiveRequestType.toList

namespace Generator

variable {name : ResourceName} {settings : Settings} {layer : Layer} {identifier specifier : String}

theorem newline_notMem_contextText (isName : IsIdentifier name.camel)
    (leaves : settings.templates.LeavesImports name) {key : String} (inline : key ∈ inlineFields) :
    '\n' ∉ ((standard name settings).contextText key).toList := by
  have pascal : '\n' ∉ name.pascal.toList := fun member =>
    absurd (continuesIdentifier_of_mem_pascal isName member) (by decide)
  have camel := notMem_of_isIdentifier isName '\n' (by decide)
  have kebab : '\n' ∉ name.kebab.toList := fun member => by
    rcases mem_kebab isName member with hyphen | continues
    · exact absurd hyphen (by decide)
    · exact absurd continues (by decide)
  have title : '\n' ∉ name.title.toList := fun member => by
    rcases mem_title isName member with blank | continues
    · exact absurd blank (by decide)
    · exact absurd continues (by decide)
  have appended {front back : String} (first : '\n' ∉ front.toList) (last : '\n' ∉ back.toList) :
      '\n' ∉ (front ++ back).toList := by
    rw [String.toList_append, List.mem_append, not_or]
    exact ⟨first, last⟩
  simp only [inlineFields, List.mem_cons, List.not_mem_nil, or_false] at inline
  rcases inline with rfl | rfl | rfl | rfl | rfl | rfl | rfl | rfl
  · exact camel
  · exact pascal
  · exact appended (by decide) pascal
  · exact title
  · exact appended (by decide) kebab
  · exact appended camel (by decide)
  · exact leaves.middleware
  · exact leaves.requestType

theorem contextText_of_ownLine {key : String} (ownLine : key ∈ ownLineFields) :
    (standard name settings).contextText key ∈ [settings.templates.authImport,
      settings.templates.requestImport, settings.templates.databaseImport] := by
  simp only [ownLineFields, List.mem_cons, List.not_mem_nil, or_false] at ownLine
  rcases ownLine with rfl | rfl | rfl
  · exact List.mem_cons_self
  · exact List.mem_cons_of_mem _ List.mem_cons_self
  · exact List.mem_cons_of_mem _ (List.mem_cons_of_mem _ List.mem_cons_self)

end Generator

/-! ## Imports of contents -/

section Lines

variable {identifier specifier : String}

theorem importStatement_toList (identifier specifier : String) :
    (importStatement identifier specifier).toList =
      "import \x7b ".toList ++ (identifier.toList ++ ' ' :: ("\x7d from '".toList ++
        (specifier.toList ++ "';".toList))) := by
  simp [importStatement]

theorem importStatement_inj {identifier' specifier' : String} (spaceless : ' ' ∉ identifier.toList)
    (spaceless' : ' ' ∉ identifier'.toList)
    (same : (importStatement identifier specifier).toList =
      (importStatement identifier' specifier').toList) :
    identifier = identifier' ∧ specifier = specifier' := by
  rw [importStatement_toList, importStatement_toList, List.append_cancel_left_eq] at same
  obtain ⟨first, rest⟩ := append_cons_inj spaceless spaceless' same
  rw [List.append_cancel_left_eq, List.append_cancel_right_eq] at rest
  exact ⟨String.toList_inj.1 first, String.toList_inj.1 rest⟩

/-- An import from the package is no import of one of the resource's files. -/
theorem ne_packageImport {names : String} (isPackage : names ∈ packageImports)
    (clear : ∀ character ∈ identifier.toList, continuesIdentifier character = true)
    (relative : IsRelative specifier) :
    (importStatement identifier specifier).toList ≠ (importStatement names "express").toList := by
  intro same
  have spaceless : ' ' ∉ identifier.toList := fun member => absurd (clear _ member) (by decide)
  have foreign : ¬ IsRelative "express" := by
    rintro (leads | leads)
    · exact absurd leads (by decide +kernel)
    · exact absurd leads (by decide +kernel)
  simp only [packageImports, List.mem_cons, List.not_mem_nil, or_false] at isPackage
  rcases isPackage with rfl | rfl | rfl
  · obtain ⟨-, rfl⟩ := importStatement_inj spaceless (by decide +kernel) same
    exact foreign relative
  · obtain ⟨-, rfl⟩ := importStatement_inj spaceless (by decide +kernel) same
    exact foreign relative
  · -- Up to the first space, the name would end in a comma.
    have cut : "Response, Request".toList = "Response,".toList ++ ' ' :: "Request".toList := by
      decide +kernel
    rw [importStatement_toList, importStatement_toList, cut, List.append_cancel_left_eq,
      List.append_assoc, List.cons_append] at same
    obtain ⟨first, -⟩ := append_cons_inj spaceless (by decide +kernel) same
    have comma : ',' ∈ identifier.toList := by
      rw [first]
      decide +kernel
    exact absurd (clear _ comma) (by decide)

theorem not_prefix_routes {router rest : List Char}
    (clear : ∀ character ∈ router, continuesIdentifier character = true) :
    ¬ "import \x7b ".toList <+: router ++ '.' :: rest := by
  rintro ⟨back, same⟩
  have start : "import \x7b ".toList = "import".toList ++ ' ' :: ['\x7b', ' '] := by
    decide +kernel
  have word : "import".toList.all continuesIdentifier = true := by
    decide +kernel
  rw [start, List.append_assoc, List.cons_append] at same
  have after := congrArg (List.dropWhile continuesIdentifier) same
  rw [List.dropWhile_append_of_pos (List.all_eq_true.1 word), List.dropWhile_append_of_pos clear,
    List.dropWhile_cons_of_neg (by decide), List.dropWhile_cons_of_neg (by decide)] at after
  exact absurd (List.cons.inj after).1 (by decide)

end Lines

namespace Generator

variable {name : ResourceName} {settings : Settings} {layer : Layer} {identifier specifier : String}
  {builtin : Builtin}

/-- A template imports from other layers what is listed for it, and nothing else. -/
theorem exists_import (isName : IsIdentifier name.camel)
    (leaves : settings.templates.LeavesImports name) (isImporter : builtin ≠ .aggregatorRegistration)
    (exported : name.exported? layer = some identifier) (relative : IsRelative specifier)
    (imports : Imports (String.ofList ((standard name settings).contentOf builtin)) identifier
      specifier) :
    ∃ entry ∈ builtin.imports, name.exported? entry.2 = some identifier ∧
      specifier = entry.1 ++ "/" ++ name.moduleOf entry.2 := by
  have clear : ∀ character ∈ identifier.toList, continuesIdentifier character = true :=
    fun _ member => ResourceName.continuesIdentifier_of_mem_exported isName exported member
  rw [Imports, String.toList_ofList, splitOn_contentOf] at imports
  obtain ⟨line, isLine, inLine⟩ := List.mem_flatMap.1 imports
  have shape := ((standard name settings).knownLines_outlineOf isImporter).known line isLine
  rw [isKnownLine, Bool.or_eq_true, Bool.and_eq_true, List.all_eq_true] at shape
  rcases shape with own | ⟨stays, shape⟩
  · obtain ⟨key, isOwn, only⟩ := List.any_eq_true.1 own
    rw [decide_eq_true_eq] at only
    rw [only, written_cons_field, written_nil, List.append_nil] at inLine
    exact absurd inLine (leaves.imports _ (contextText_of_ownLine isOwn) layer identifier specifier
      exported relative)
  · rw [splitOn_written_of_staysOnLine (fun _ inline => newline_notMem_contextText isName leaves inline)
      stays, List.mem_singleton] at inLine
    have leads : "import \x7b ".toList <+: written (standard name settings).contextText line := by
      rw [← inLine, importStatement_toList]
      exact List.prefix_append _ _
    simp only [Bool.or_eq_true, decide_eq_true_eq] at shape
    rcases shape with ((ruledOut | router) | package) | listed
    · exact absurd leads (not_prefix_of_rulesOut _ ruledOut)
    · have routes : name.exported? .route = some name.routesIdent := rfl
      rw [← List.take_append_drop 2 line, router] at leads
      refine absurd leads (not_prefix_routes fun character member => ?_)
      exact ResourceName.continuesIdentifier_of_mem_exported isName routes member
    · obtain ⟨names, isPackage, same⟩ := List.any_eq_true.1 package
      rw [of_decide_eq_true same, written_glyphsOf] at inLine
      exact absurd inLine (ne_packageImport isPackage clear relative)
    · obtain ⟨entry, isEntry, same⟩ := List.any_eq_true.1 listed
      obtain ⟨identifier', exported'⟩ := exported?_of_mem_imports name isEntry
      rw [of_decide_eq_true same, written_importGlyphs settings exported'] at inLine
      obtain ⟨rfl, rfl⟩ := importStatement_inj
        (ResourceName.notMem_exported isName exported ' ' (by decide))
        (ResourceName.notMem_exported isName exported' ' ' (by decide)) inLine
      exact ⟨entry, isEntry, exported', rfl⟩

/-- A line of glyphs that stay on their line is a line of the content. -/
theorem written_mem_contentOf (isName : IsIdentifier name.camel)
    (leaves : settings.templates.LeavesImports name) {line : List Glyph}
    (isLine : line ∈ glyphLines ((standard name settings).outlineOf builtin))
    (stays : ∀ glyph ∈ line, glyph.staysOnLine inlineFields = true) :
    written (standard name settings).contextText line ∈
      splitOn '\n' (String.ofList ((standard name settings).contentOf builtin)).toList := by
  rw [String.toList_ofList, splitOn_contentOf]
  refine List.mem_flatMap.2 ⟨line, isLine, ?_⟩
  rw [splitOn_written_of_staysOnLine
    (fun _ inline => newline_notMem_contextText isName leaves inline) stays]
  exact List.mem_singleton_self _

theorem staysOnLine_importGlyphs {entry : String × Layer} (isEntry : entry ∈ builtin.imports) :
    ∀ glyph ∈ entry.2.importGlyphs entry.1, glyph.staysOnLine inlineFields = true := by
  have checked : ∀ builtin ∈ Builtin.all, ∀ entry ∈ builtin.imports,
      (entry.2.importGlyphs entry.1).all (Glyph.staysOnLine inlineFields) = true := by
    decide +kernel
  exact List.all_eq_true.1 (checked builtin builtin.mem_all entry isEntry)

theorem imports_contentOf (isName : IsIdentifier name.camel)
    (leaves : settings.templates.LeavesImports name) {entry : String × Layer}
    (isEntry : entry ∈ builtin.imports) (exported : name.exported? entry.2 = some identifier) :
    Imports (String.ofList ((standard name settings).contentOf builtin)) identifier
      (entry.1 ++ "/" ++ name.moduleOf entry.2) := by
  have isImporter : builtin ≠ .aggregatorRegistration := by
    rintro rfl
    cases isEntry
  have isLine := ((standard name settings).knownLines_outlineOf isImporter).imports entry isEntry
  rw [Imports, ← written_importGlyphs settings exported]
  exact written_mem_contentOf isName leaves isLine (staysOnLine_importGlyphs isEntry)

/-- The file of a layer exports what the layer is there for. -/
theorem exports_contentOf (isName : IsIdentifier name.camel)
    (leaves : settings.templates.LeavesImports name)
    (exported : name.exported? layer = some identifier) :
    Exports (String.ofList ((standard name settings).contentOf layer.template)) identifier := by
  have isImporter : layer.template ≠ .aggregatorRegistration := by
    cases layer <;> decide
  obtain ⟨line, isExport, statement, isStatement, same⟩ :=
    written_exportGlyphs settings exported
  have isLine := ((standard name settings).knownLines_outlineOf isImporter).exports layer rfl line
    isExport
  have stays : ∀ glyph ∈ line, glyph.staysOnLine inlineFields = true := by
    have checked : ∀ layer ∈ Layer.all, ∀ line ∈ layer.exportGlyphs,
        line.all (Glyph.staysOnLine inlineFields) = true := by
      decide +kernel
    exact List.all_eq_true.1 (checked layer layer.mem_all line isExport)
  refine ⟨statement, isStatement, ?_⟩
  rw [← same]
  exact written_mem_contentOf isName leaves isLine stays

end Generator

end ResourceScaffold
