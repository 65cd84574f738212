import ResourceScaffold.Generator
import ResourceScaffold.Proofs.Template.Variables

/-!
Contract: the texts that go into the aggregator for a name.

Owns:
- the import and the registration of a route as plain texts;
- that the templates which come with the program render to them.

Does not own: where they go.
-/

namespace ResourceScaffold

open Template

/-! ## Texts -/

def ResourceName.importText (name : ResourceName) : String :=
  "import \x7b " ++ name.camel ++ "Routes \x7d from './" ++ name.camel ++ ".routes';\n\n"

/-- The registration of the router of a name with another router, with a blank line after it. -/
def ResourceName.registrationText (name : ResourceName) (router : String) : String :=
  router ++ ".use(" ++ name.camel ++ "Routes);\n\n"

/-! ## Templates as parts -/

def importParts : List Part :=
  [.literal "import \x7b ".toList, .field "routes_ident" ⟨1, 10⟩, .literal " \x7d from './".toList,
    .field "camel" ⟨1, 37⟩, .literal ".routes';\n\n".toList]

def registrationParts : List Part :=
  [.field "router_ident" ⟨1, 1⟩, .literal ".use(".toList, .field "routes_ident" ⟨1, 22⟩,
    .literal ");\n\n".toList]

theorem nodes_aggregatorImport :
    Builtin.aggregatorImport.nodes = importParts.map Part.node := by
  have read : ofSource importSource = .ok (importParts.map Part.node) := by
    rw [importSource, ofSource_ofLines (by repeat' constructor)]
    rfl
  rw [Builtin.nodes, Builtin.source, read]

theorem nodes_aggregatorRegistration :
    Builtin.aggregatorRegistration.nodes = registrationParts.map Part.node := by
  have read : ofSource registrationSource = .ok (registrationParts.map Part.node) := by
    rw [registrationSource, ofSource_ofLines (by repeat' constructor)]
    rfl
  rw [Builtin.nodes, Builtin.source, read]

/-! ## Generators -/

namespace Generator

/-- The generator of a name under some settings, with the templates that come with the program. -/
def standard (name : ResourceName) (settings : Settings) : Generator :=
  ⟨name, settings, .ofBuiltins⟩

/-- Without a directory of replacements, a generator has the templates that come with the
program. -/
theorem create_run (name : ResourceName) {settings : Settings}
    (plain : settings.templates.overrideDir = none) (session : Session) :
    create name settings session = .ok (standard name settings) session := by
  rw [create, plain, Registry.standard_eq]
  rfl

theorem field?_context (generator : Generator) (key : String) :
    generator.context.field? key = (generator.contextFields.lookup key).map Value.string := by
  have distinct : ((generator.contextFields.map fun field =>
      (field.1, Value.string field.2)).map Prod.fst).Nodup := by
    simp [contextFields]
  rw [context, Value.field?_ofFields key distinct]
  induction generator.contextFields with
  | nil => rfl
  | cons field rest inductionHypothesis =>
      obtain ⟨first, found⟩ := field
      rw [List.map_cons, List.lookup_cons, List.lookup_cons, inductionHypothesis]
      cases key == first <;> rfl

/-- What the templates see of a field that is always there. -/
def contextText (generator : Generator) (key : String) : String :=
  (generator.contextFields.lookup key).getD ""

/-- Whether a part is text, or names a field that all templates see. -/
def gives (generator : Generator) : Part → Bool
  | .literal _ => true
  | .field key _ =>
      (Helper.ofName? key).isNone && (generator.contextFields.lookup key).isSome

theorem finds_of_gives {generator : Generator} {part : Part}
    (given : generator.gives part = true) :
    part.Finds generator.context fun key => .string (generator.contextText key) := by
  cases part with
  | literal content => trivial
  | field key place =>
      obtain ⟨noHelper, isSome⟩ := Bool.and_eq_true_iff.1 given
      obtain ⟨text, found⟩ := Option.isSome_iff_exists.1 isSome
      refine ⟨Option.isNone_iff_eq_none.1 noHelper, ?_⟩
      simp only [field?_context, contextText, found, Option.map_some, Option.getD_some]

/-- A template of parts renders to the text of its parts, with the fields that all templates see put
in. -/
theorem renderTemplate_standard {name : ResourceName} {settings : Settings} {builtin : Builtin}
    {parts : List Part} (nodes : builtin.nodes = parts.map Part.node)
    (given : parts.all (standard name settings).gives = true) :
    (standard name settings).renderTemplate builtin =
      .ok (String.ofList (parts.flatMap (Part.written fun key =>
        .string ((standard name settings).contextText key)))) := by
  obtain ⟨fields, record⟩ : ∃ fields, (standard name settings).context = .record fields := ⟨_, rfl⟩
  have finds : ∀ part ∈ parts, part.Finds (.record fields) fun key =>
      .string ((standard name settings).contextText key) := by
    intro part member
    rw [← record]
    exact finds_of_gives (List.all_eq_true.1 given part member)
  have template := Registry.template?_ofBuiltins builtin
  rw [nodes] at template
  rw [renderTemplate, record, standard, Registry.render, template]
  simp only [render_parts _ finds]
  rfl

theorem renderTemplate_aggregatorImport (name : ResourceName) (settings : Settings) :
    (standard name settings).renderTemplate .aggregatorImport = .ok name.importText := by
  have router : (standard name settings).contextText "routes_ident" = name.routesIdent := rfl
  have camel : (standard name settings).contextText "camel" = name.camel := rfl
  rw [renderTemplate_standard nodes_aggregatorImport rfl]
  refine congrArg Except.ok (String.toList_inj.1 ?_)
  simp [importParts, Part.written, Value.text, router, camel, ResourceName.importText,
    ResourceName.routesIdent]

theorem renderTemplate_aggregatorRegistration (name : ResourceName) (settings : Settings) :
    (standard name settings).renderTemplate .aggregatorRegistration =
      .ok (name.registrationText settings.aggregator.routerIdent) := by
  have outer : (standard name settings).contextText "router_ident" =
      settings.aggregator.routerIdent := rfl
  have router : (standard name settings).contextText "routes_ident" = name.routesIdent := rfl
  rw [renderTemplate_standard nodes_aggregatorRegistration rfl]
  refine congrArg Except.ok (String.toList_inj.1 ?_)
  simp [registrationParts, Part.written, Value.text, outer, router,
    ResourceName.registrationText, ResourceName.routesIdent]

/-- The insertions of a name: its import and its registration, in front of the anchors of the
settings. -/
def spliceOf (name : ResourceName) (settings : Settings) : AggregatorSplice :=
  ⟨settings.aggregator.importAnchor, settings.aggregator.registrationAnchor, name.importText,
    name.registrationText settings.aggregator.routerIdent⟩

theorem aggregatorSplice_standard (name : ResourceName) (settings : Settings) :
    (standard name settings).aggregatorSplice = .ok (spliceOf name settings) := by
  rw [aggregatorSplice, renderTemplate_aggregatorImport, renderTemplate_aggregatorRegistration]
  rfl

end Generator

end ResourceScaffold
