import ResourceScaffold.Generator
import ResourceScaffold.Proofs.Action
import ResourceScaffold.Proofs.Apply.Targets

/-!
Contract: what a generated plan is about.

Owns:
- the ends of the file names of layers, which tell the layers apart;
- the targets of a plan that a generator makes;
- that these targets are apart if none lies below another one.

Does not own: where the aggregator is. The settings may make it the file of a layer.
-/

namespace ResourceScaffold

open FileTree Text

/-! ## Last names -/

/-- A name that ends in something longer than a dot is a name of its path. -/
theorem Path.names_getLast?_append (stem : String) {ending : String} (whole : '/' ∉ ending.toList)
    (long : 1 < ending.toList.length) :
    ∃ front, (Path.names ⟨stem ++ ending⟩).getLast? = some (front ++ ending.toList) := by
  obtain ⟨start, front, -, pieces⟩ := splitOn_append_of_notMem stem.toList whole
  have busy : Path.isIdle (front ++ ending.toList) = false := by
    rw [Path.isIdle, Bool.or_eq_false_iff, List.isEmpty_eq_false_iff, decide_eq_false_iff_not]
    constructor
    · intro empty
      have none := congrArg List.length empty
      rw [List.length_append, List.length_nil] at none
      omega
    · intro dot
      have one := congrArg List.length dot
      rw [List.length_append, List.length_singleton] at one
      omega
  refine ⟨front, ?_⟩
  rw [Path.names, Path.segments, String.toList_append, pieces, Path.named_append,
    Path.named_singleton busy, List.getLast?_concat]

/-- The last name of a path stays the last one when the path is seen from somewhere else. -/
theorem Path.names_join_getLast? (left : Path) {right : Path} {last : List Char}
    (found : right.names.getLast? = some last) : (left.join right).names.getLast? = some last := by
  by_cases absolute : right.isAbsolute = true
  · rwa [Path.join_of_isAbsolute left absolute]
  · rw [Path.names_join_of_relative left (by simpa using absolute), List.getLast?_append, found]
    rfl

theorem FileTree.place_getLast? (tree : FileTree) {path : Path} {last : List Char}
    (found : path.names.getLast? = some last) :
    (tree.place path).getLast? = some (String.ofList last) := by
  rw [place, within, List.getLast?_append, List.getLast?_map, ← Path.names, found]
  rfl

/-! ## Files of layers -/

def Layer.ending : Layer → String
  | route => ".routes.ts"
  | controller => "Controller.ts"
  | service => "Service.ts"
  | repository => "Repository.ts"
  | test => ".test.ts"

theorem Layer.ending_whole (layer : Layer) : '/' ∉ layer.ending.toList := by
  cases layer <;> decide +kernel

theorem Layer.ending_long (layer : Layer) : 1 < layer.ending.toList.length := by
  cases layer <;> decide +kernel

/-- No ending is the end of another one. -/
theorem Layer.eq_of_ending_suffix {first second : Layer}
    (ends : first.ending.toList <:+ second.ending.toList) : first = second := by
  revert ends
  cases first <;> cases second <;> decide +kernel

/-- A text ends as the file names of one layer at most. -/
theorem Layer.eq_of_endings {first second : Layer} {stem stem' : List Char}
    (same : stem ++ first.ending.toList = stem' ++ second.ending.toList) : first = second := by
  have ends : first.ending.toList <:+ stem ++ first.ending.toList := List.suffix_append _ _
  have ends' : second.ending.toList <:+ stem' ++ second.ending.toList := List.suffix_append _ _
  rw [same] at ends
  rcases List.suffix_or_suffix_of_suffix ends ends' with inner | inner
  · exact Layer.eq_of_ending_suffix inner
  · exact (Layer.eq_of_ending_suffix inner).symm

namespace Generator

variable {generator : Generator} {tree : FileTree} {root : Path}

theorem fileNameOf_eq (generator : Generator) (layer : Layer) :
    ∃ stem, generator.fileNameOf layer = stem ++ layer.ending := by
  cases layer <;> exact ⟨_, rfl⟩

/-- The place of a layer's file ends in a name with the layer's ending, whatever the resource is
called and whatever the directories are. -/
theorem place_pathFor_getLast? (generator : Generator) (tree : FileTree) (root : Path)
    (layer : Layer) :
    ∃ front, (tree.place (root.join (generator.pathFor layer))).getLast? =
      some (String.ofList (front ++ layer.ending.toList)) := by
  obtain ⟨stem, fileName⟩ := generator.fileNameOf_eq layer
  obtain ⟨front, last⟩ :=
    Path.names_getLast?_append stem layer.ending_whole layer.ending_long
  rw [← fileName] at last
  have inDirectory := Path.names_join_getLast? (generator.directoryOf layer) last
  exact ⟨front, place_getLast? tree (Path.names_join_getLast? root inDirectory)⟩

/-- Different layers have different files. -/
theorem place_pathFor_inj {first second : Layer}
    (same : tree.place (root.join (generator.pathFor first)) =
      tree.place (root.join (generator.pathFor second))) : first = second := by
  obtain ⟨front, last⟩ := generator.place_pathFor_getLast? tree root first
  obtain ⟨front', last'⟩ := generator.place_pathFor_getLast? tree root second
  rw [same, last', Option.some.injEq, String.ofList_inj] at last
  exact (Layer.eq_of_endings last).symm

/-! ## Generated plans -/

/-- What is seen of the results of a successful run over a list is what the list shows. -/
theorem map_of_mapM_eq_ok {Error Item Result Sight : Type} {make : Item → Except Error Result}
    {seen : Result → Sight} {shown : Item → Sight}
    (shows : ∀ item result, make item = .ok result → seen result = shown item)
    {items : List Item} {results : List Result} (made : items.mapM make = .ok results) :
    results.map seen = items.map shown := by
  induction items generalizing results with
  | nil =>
      cases made
      rfl
  | cons item rest inductionHypothesis =>
      rw [List.mapM_cons] at made
      obtain ⟨result, first, others⟩ := bind_eq_ok_iff.1 made
      obtain ⟨results', second, ends⟩ := bind_eq_ok_iff.1 others
      cases ends
      rw [List.map_cons, List.map_cons, shows item result first, inductionHypothesis second]

theorem generateLayer_eq_ok {layer : Layer} {file : GeneratedFile}
    (made : generator.generateLayer layer = .ok file) :
    file.path = generator.pathFor layer ∧ file.layer = layer := by
  rw [generateLayer] at made
  cases rendered : generator.renderTemplate layer.template with
  | error failure =>
      rw [rendered] at made
      cases made
  | ok content =>
      rw [rendered] at made
      cases made
      exact ⟨rfl, rfl⟩

variable {plan : ScaffoldPlan} {before after : Session}

/-- A plan has a file for every layer, in order, and the aggregator of the settings. -/
theorem plan_eq_ok (planned : generator.plan root before = .ok plan after) :
    plan.aggregator.path = generator.aggregatorPath ∧
      plan.files.map GeneratedFile.path = Layer.all.map generator.pathFor ∧
      plan.files.map GeneratedFile.layer = Layer.all := by
  obtain ⟨text, read, -, spliced⟩ := Action.bind_eq_ok_iff.1 planned
  obtain ⟨result, spliced', -, generated⟩ := Action.bind_eq_ok_iff.1 spliced
  obtain ⟨files, last, makes, ends⟩ := Action.bind_eq_ok_iff.1 generated
  cases ends
  cases made : generator.generate with
  | error failure =>
      rw [made] at makes
      cases makes
  | ok files' =>
      rw [made] at makes
      cases makes
      refine ⟨rfl, ?_, ?_⟩
      · exact map_of_mapM_eq_ok (fun _ _ one => (generateLayer_eq_ok one).1) made
      · rw [map_of_mapM_eq_ok (fun _ _ one => (generateLayer_eq_ok one).2) made]
        exact List.map_id' _

theorem routeExists_eq (planned : generator.plan root before = .ok plan after) (tree : FileTree)
    (root' : Path) :
    plan.routeExists tree root' = tree.pathExists (root'.join (generator.pathFor .route)) := by
  obtain ⟨-, paths, layers⟩ := plan_eq_ok planned
  cases listed : plan.files with
  | nil =>
      rw [listed] at layers
      cases layers
  | cons file rest =>
      rw [listed, Layer.all, List.map_cons] at paths layers
      rw [ScaffoldPlan.routeExists, ScaffoldPlan.file?, listed,
        List.find?_cons_of_pos (by simpa using (List.cons.inj layers).1), Option.any_some,
        (List.cons.inj paths).1]

end Generator

/-! ## Targets of generated plans -/

/-- No target lies below another one. -/
def ScaffoldPlan.NoneBelow (plan : ScaffoldPlan) (root : Path) (tree : FileTree) : Prop :=
  ∀ first ∈ plan.targets, ∀ second ∈ plan.targets,
    tree.place (root.join first) <+: tree.place (root.join second) →
      tree.place (root.join first) = tree.place (root.join second)

theorem ScaffoldPlan.noneBelow_iff_places {plan : ScaffoldPlan} {root : Path} {tree : FileTree} :
    plan.NoneBelow root tree ↔
      ∀ place ∈ plan.targets.map fun target => tree.place (root.join target),
        ∀ other ∈ plan.targets.map fun target => tree.place (root.join target),
          place <+: other → place = other := by
  simp [NoneBelow]

/-- The aggregator is not the file of a layer if all targets of a generated plan are different. -/
theorem Generator.place_aggregatorPath_ne {generator : Generator} {root root' : Path}
    {plan : ScaffoldPlan} {tree : FileTree} {before after : Session}
    (planned : generator.plan root before = .ok plan after)
    (distinct : (plan.targets.map fun target => tree.place (root'.join target)).Nodup)
    (layer : Layer) :
    tree.place (root'.join generator.aggregatorPath) ≠
      tree.place (root'.join (generator.pathFor layer)) := by
  obtain ⟨aggregator, paths, -⟩ := plan_eq_ok planned
  rw [ScaffoldPlan.targets, aggregator, paths, List.map_cons, List.nodup_cons] at distinct
  intro same
  refine distinct.1 ?_
  rw [same]
  exact List.mem_map_of_mem (List.mem_map_of_mem layer.mem_all)

/-- The targets of a generated plan are apart if the aggregator is not the file of a layer and no
target lies below another one. -/
theorem Generator.targetsApart {generator : Generator} {root root' : Path} {plan : ScaffoldPlan}
    {tree : FileTree} {before after : Session}
    (planned : generator.plan root before = .ok plan after)
    (different : ∀ layer, tree.place (root'.join generator.aggregatorPath) ≠
      tree.place (root'.join (generator.pathFor layer)))
    (noneBelow : plan.NoneBelow root' tree) : plan.TargetsApart root' tree := by
  obtain ⟨aggregator, paths, -⟩ := plan_eq_ok planned
  have apart {first second : Path} (isFirst : first ∈ plan.targets) (isSecond : second ∈ plan.targets)
      (differ : tree.place (root'.join first) ≠ tree.place (root'.join second)) :
      Apart (tree.place (root'.join first)) (tree.place (root'.join second)) :=
    ⟨fun leads => differ (noneBelow first isFirst second isSecond leads),
      fun leads => differ (noneBelow second isSecond first isFirst leads).symm⟩
  have targets : plan.targets = generator.aggregatorPath :: Layer.all.map generator.pathFor := by
    rw [ScaffoldPlan.targets, aggregator, paths]
  have isLayer (layer : Layer) : generator.pathFor layer ∈ plan.targets := by
    rw [targets]
    exact List.mem_cons_of_mem _ (List.mem_map_of_mem layer.mem_all)
  rw [ScaffoldPlan.TargetsApart, targets, List.map_cons, List.pairwise_cons, List.map_map,
    List.pairwise_map]
  constructor
  · rw [List.forall_mem_map]
    intro layer _
    exact apart (by simp [targets]) (isLayer layer) (different layer)
  · refine Layer.nodup_all.imp fun {first second} differ => ?_
    exact apart (isLayer first) (isLayer second) fun same => differ (place_pathFor_inj same)

end ResourceScaffold
