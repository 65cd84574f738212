import ResourceScaffold.Proofs.Action
import ResourceScaffold.Proofs.Splice.Snippet
import ResourceScaffold.Proofs.Template.Passage

/-!
Contract: the contents of the generated files, with the templates that come with the program.

Owns:
- the passages of these templates, which need no field but those that all templates see;
- that every file and every insertion is generated, whatever the name and the settings are;
- the plan for a project whose aggregator can be read and has both anchors.

Does not own: what the contents say.
-/

namespace ResourceScaffold

namespace Template

/-! ## Passages of the templates -/

def contextKeys : List String :=
  ["camel", "pascal", "kebab", "id_field", "title", "base_path", "routes_ident", "router_ident",
    "auth_import", "auth_middleware", "request_import", "request_type", "database_import"]

/-- Whether a source is read as passages, and these pass a check. -/
def readsAs (check : List Passage → Bool) (source : String) : Bool :=
  match ofSource source with
  | .ok nodes => (nodes.mapM Node.passage?).any check
  | .error _ => false

/-- Whether passages need no field but those that all templates see. -/
def needsContextOnly (passages : List Passage) : Bool :=
  passages.all fun passage => passage.names.all contextKeys.contains

namespace Builtin

def passages (builtin : Builtin) : List Passage :=
  (builtin.nodes.mapM Node.passage?).getD []

set_option maxRecDepth 20000 in
theorem readsAs_needsContextOnly (builtin : Builtin) :
    readsAs needsContextOnly builtin.source = true := by
  cases builtin <;>
    · simp only [source, routeSource, controllerSource, serviceSource, repositorySource, testSource,
        importSource, registrationSource]
      rw [readsAs, ofSource_ofLines (by repeat' constructor)]
      decide +kernel

theorem mapM_passage? (builtin : Builtin) :
    builtin.nodes.mapM Node.passage? = some builtin.passages := by
  have isRead := builtin.readsAs_needsContextOnly
  rw [readsAs, builtin.ofSource_source] at isRead
  obtain ⟨found, read, -⟩ := (Option.any_eq_true _ _).1 isRead
  rw [passages, read]
  rfl

/-- What is checked on the source of a template holds of its passages. -/
theorem check_passages {builtin : Builtin} {check : List Passage → Bool}
    (checked : readsAs check builtin.source = true) : check builtin.passages = true := by
  rw [readsAs, builtin.ofSource_source] at checked
  simpa only [mapM_passage?, Option.any_some] using checked

theorem names_passages {builtin : Builtin} {passage : Passage} (member : passage ∈ builtin.passages)
    {name : String} (needed : name ∈ passage.names) : name ∈ contextKeys := by
  have all := check_passages builtin.readsAs_needsContextOnly
  rw [needsContextOnly, List.all_eq_true] at all
  have allNames := List.all_eq_true.1 (all passage member) name needed
  simpa using allNames

end Builtin

end Template

open Template

namespace Generator

/-! ## Contents -/

/-- What a template that comes with the program renders to. -/
def contentOf (generator : Generator) (builtin : Builtin) : List Char :=
  writtenPassages generator.contextText builtin.passages

theorem field?_context_of_mem (generator : Generator) {key : String} (member : key ∈ contextKeys) :
    generator.context.field? key = some (.string (generator.contextText key)) := by
  have given : contextKeys.all (fun key => (generator.contextFields.lookup key).isSome) = true := rfl
  obtain ⟨text, found⟩ := Option.isSome_iff_exists.1 (List.all_eq_true.1 given key member)
  rw [field?_context, contextText, found]
  rfl

/-- A template that comes with the program always renders to its content. -/
theorem renderTemplate_eq (name : ResourceName) (settings : Settings) (builtin : Builtin) :
    (standard name settings).renderTemplate builtin =
      .ok (String.ofList ((standard name settings).contentOf builtin)) := by
  obtain ⟨fields, record⟩ : ∃ fields, (standard name settings).context = .record fields := ⟨_, rfl⟩
  have known : ∀ passage ∈ builtin.passages, ∀ key ∈ passage.names,
      (Value.record fields).field? key =
        some (.string ((standard name settings).contextText key)) := by
    intro passage member key needed
    rw [← record]
    exact field?_context_of_mem _ (Builtin.names_passages member needed)
  rw [renderTemplate, record, standard, Registry.render, Registry.template?_ofBuiltins builtin]
  simp only [render_passages _ builtin.mapM_passage? known]
  rfl

def fileOf (generator : Generator) (layer : Layer) : GeneratedFile :=
  ⟨generator.pathFor layer, String.ofList (generator.contentOf layer.template),
    generator.describe layer, layer⟩

/-- The files of all layers are always generated. -/
theorem generate_eq (name : ResourceName) (settings : Settings) :
    (standard name settings).generate = .ok (Layer.all.map (standard name settings).fileOf) := by
  have each : (standard name settings).generateLayer =
      fun layer => pure ((standard name settings).fileOf layer) := by
    funext layer
    rw [generateLayer, renderTemplate_eq]
    rfl
  rw [generate, each, List.mapM_pure]
  rfl

/-! ## Plans -/

/-- Making a plan succeeds if the aggregator can be read and the insertions can be made. -/
theorem plan_eq {name : ResourceName} {settings : Settings} {root : Path} {session : Session}
    {before after : String}
    (read : session.files.readText (root.join settings.layout.aggregatorPath) = .ok before)
    (spliced : (spliceOf name settings).apply before settings.layout.aggregatorPath = .ok after) :
    (standard name settings).plan root session =
      .ok ⟨⟨settings.layout.aggregatorPath, before, after⟩,
          Layer.all.map (standard name settings).fileOf⟩
        { session with
          events := session.events ++
            (spliceOf name settings).events before settings.layout.aggregatorPath } := by
  have reads : Action.reading (root.join settings.layout.aggregatorPath)
      (·.readText (root.join settings.layout.aggregatorPath)) session = .ok before session := by
    rw [Action.reading, read]
  have splices : (standard name settings).spliceAggregator before session =
      .ok after { session with
        events := session.events ++
          (spliceOf name settings).events before settings.layout.aggregatorPath } := by
    rw [spliceAggregator, aggregatorSplice_standard, Action.bind_of_ok (Action.ofExcept_ok_run _ _)]
    change (spliceOf name settings).run before settings.layout.aggregatorPath session = _
    rw [AggregatorSplice.run, Action.bind_of_ok (Action.note_run _ _), spliced]
    rfl
  refine (Action.bind_of_ok reads).trans ((Action.bind_of_ok splices).trans ?_)
  rw [generate_eq]
  rfl

end Generator

end ResourceScaffold
