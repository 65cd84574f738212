import ResourceScaffold.Proofs.Apply.Aggregator
import ResourceScaffold.Proofs.Runs.Repeated
import ResourceScaffold.Proofs.Runs.Skip

/-!
Contract: that a dry run shows what a run does to the aggregator.

Owns:
- the plan that a dry run shows, and the run that carries out the same plan;
- when the aggregator is changed as its plan says, and runs for which it is not.

Does not own: how a change is printed as a difference.
-/

namespace ResourceScaffold

open FileTree ResourceScaffold.Action

/-! ## The aggregator after a plan -/

/-- The aggregator had the text that an edit begins with, and has the text that it ends with. -/
structure AggregatorEdit.Happens (edit : AggregatorEdit) (root : Path) (before after : FileTree) :
    Prop where
  original :
    before.contents (before.landingBelow root edit.path) = some edit.before.toUTF8
  updated :
    after.contents (before.landingBelow root edit.path) = some edit.after.toUTF8

/-- A plan leaves the aggregator with its new text. -/
structure ScaffoldPlan.Updates (plan : ScaffoldPlan) (policy : OverwritePolicy) (root : Path)
    (before : FileTree) (report : ScaffoldReport) : Prop where
  /-- An aggregator that the policy keeps has its new text already, or a file is written in its
  place. -/
  written : plan.KeepsAggregator policy root before →
    plan.aggregator.before = plan.aggregator.after ∨
      ∃ file ∈ plan.files, file.path ∈ report.written ∧
        before.landingBelow root file.path = before.landingBelow root plan.aggregator.path
  /-- A file that is written in the place of the aggregator has its new text. -/
  files : ∀ file ∈ plan.files, file.path ∈ report.written →
    before.landingBelow root file.path = before.landingBelow root plan.aggregator.path →
      file.content = plan.aggregator.after
  /-- A backup that is put in the place of the aggregator has its new text. -/
  backups : ∀ pair ∈ report.backedUp,
    before.landingBelow root pair.2 = before.landingBelow root plan.aggregator.path →
      plan.updated policy root before (before.landingBelow root pair.1) =
        some plan.aggregator.after.toUTF8
  /-- The directory of the aggregator is not moved aside. -/
  directories : ∀ pair ∈ report.backedUp,
    before.landingBelow root pair.1 <+: before.landingBelow root plan.aggregator.path →
      before.landingBelow root pair.1 = before.landingBelow root plan.aggregator.path

/-- No change of a text happens to files that stay as they are. -/
theorem AggregatorEdit.not_happens {edit : AggregatorEdit} (differs : edit.before ≠ edit.after)
    (root : Path) (tree : FileTree) : ¬edit.Happens root tree tree := by
  rintro ⟨original, updated⟩
  rw [original, Option.some.injEq] at updated
  exact differs (toUTF8_inj updated)

namespace ScaffoldPlan.Course

variable {plan : ScaffoldPlan} {policy : OverwritePolicy} {root : Path} {before after : FileTree}
  {report : ScaffoldReport} {tasks : List Task}
  (course : plan.Course policy root before after report tasks)
  (original : before.contents (before.landingBelow root plan.aggregator.path) =
    some plan.aggregator.before.toUTF8)

include course original

/-- A plan leaves the aggregator with its new text if and only if it delivers that text. -/
theorem updates_iff_delivers :
    plan.Updates policy root before report ↔
      plan.Delivers policy root before report plan.aggregator.after.toUTF8 := by
  constructor
  · rintro ⟨written, files, backups, directories⟩
    refine ⟨?_, fun file isFile listed there => ?_, backups, directories⟩
    · rw [updated_aggregator]
      by_cases keeps : plan.KeepsAggregator policy root before
      · rw [if_pos keeps, original]
        exact (written keeps).imp (congrArg fun text : String => some text.toUTF8) Or.inl
      · exact Or.inl (if_neg keeps)
    · rw [files file isFile listed there]
  · rintro ⟨own, files, backups, directories⟩
    refine ⟨fun keeps => ?_, fun file isFile listed there => ?_, backups, directories⟩
    · rw [updated_aggregator, if_pos keeps, original, Option.some.injEq] at own
      refine own.imp toUTF8_inj (Or.resolve_right · ?_)
      -- A policy that keeps files makes no backups.
      rintro ⟨⟨path, backup⟩, listed, -⟩
      obtain ⟨task, member, -, backsUp⟩ := course.mem_backedUp_iff.1 listed
      have backs := (course.follows task member).backedUp backup backsUp
      rw [keeps.1] at backs
      cases backs
    · exact toUTF8_inj (files file isFile listed there)

end ScaffoldPlan.Course

/-! ## The plan of a run -/

namespace Options

variable {options : Options} {host : Host} {before after : Session} {policy : OverwritePolicy}
  {plan : ScaffoldPlan} {report : ScaffoldReport}

def dry (options : Options) : Options :=
  { options with dryRun := true }

/-- The options for the run itself, without the generated test. -/
def live (options : Options) : Options :=
  { options with
    dryRun := false
    noVerify := true }

def withLines (output : String) (lines : List String) : String :=
  lines.foldl (fun text line => text ++ line ++ "\n") output

theorem printLines_run (lines : List String) (session : Session) :
    printLines lines session = .ok () { session with output := withLines session.output lines } := by
  induction lines generalizing session with
  | nil => rfl
  | cons line rest inductionHypothesis =>
      change (printLine line >>= fun _ => printLines rest) session = _
      rw [bind_of_ok (printLine_run line session), inductionHypothesis]
      rfl

/-- A dry run shows a plan: the change of its aggregator and its files. -/
def Previews (options : Options) (host : Host) (before : Session) (plan : ScaffoldPlan) : Prop :=
  ∃ generator prepared, options.prepare host before = .ok (generator, plan) prepared ∧
    options.dry.execute host before =
      .ok () { prepared with
        output := withLines prepared.output
          (Display.dryRun (Display.showsSigns host) plan before.files options.root) }

/-- A run carries a plan out under a policy. -/
def CarriesOut (options : Options) (host : Host) (policy : OverwritePolicy) (before : Session)
    (plan : ScaffoldPlan) (report : ScaffoldReport) (after : Session) : Prop :=
  ∃ generator prepared applied, options.prepare host before = .ok (generator, plan) prepared ∧
    plan.apply host options.root policy prepared = .ok report applied ∧ applied.files = after.files

theorem plan_of_prepare {generator : Generator} {prepared : Session}
    (ready : options.prepare host before = .ok (generator, plan) prepared) :
    ∃ planning, planning.files = before.files ∧
      generator.plan options.root planning = .ok plan prepared := by
  have untouched := onlyLooks_prepare options host before
  rw [final_of_ok ready] at untouched
  obtain ⟨settings, loaded, -, named⟩ := Action.bind_eq_ok_iff.1 ready
  obtain ⟨name, resolved, -, announced⟩ := Action.bind_eq_ok_iff.1 named
  obtain ⟨⟨⟩, shown, -, created⟩ := Action.bind_eq_ok_iff.1 announced
  obtain ⟨_, planning, -, planned⟩ := Action.bind_eq_ok_iff.1 created
  obtain ⟨plan', last, makes, ends⟩ := Action.bind_eq_ok_iff.1 planned
  cases ends
  have made := mapError_eq_ok_iff.1 makes
  have looks := generator.onlyLooks_plan options.root planning
  rw [final_of_ok made] at looks
  exact ⟨planning, looks.files.symm.trans untouched.files, made⟩

/-- A dry run ends with a description of its plan. -/
theorem conclude_dry (options : Options) (host : Host) (generator : Generator)
    (plan : ScaffoldPlan) (session : Session) :
    options.dry.conclude host generator plan session =
      .ok () { session with
        output := withLines session.output
          (Display.dryRun (Display.showsSigns host) plan session.files options.root) } := by
  have dry : options.dry.dryRun = true := rfl
  rw [conclude, bind_of_ok (files_run session), if_pos dry]
  exact printLines_run _ _

/-- A run that asks nothing ends with its plan carried out. -/
theorem conclude_live (direct : options.onConflict.policy? = some policy) (host : Host)
    (generator : Generator) (plan : ScaffoldPlan) (session : Session) :
    options.live.conclude host generator plan session =
      options.live.carryOut host generator plan policy session := by
  have notDry : ¬options.live.dryRun = true := nofun
  have direct' : options.live.onConflict.policy? = some policy := direct
  rw [conclude, bind_of_ok (files_run session), if_neg notDry,
    resolvePolicy_of_policy? _ _ direct', pure_bind, proceed]

/-- Without the generated test, a plan is carried out and then described. -/
theorem carryOut_live (options : Options) (host : Host) (generator : Generator)
    (plan : ScaffoldPlan) (policy : OverwritePolicy) :
    options.live.carryOut host generator plan policy =
      (plan.apply host options.root policy).mapError
          (RunFailure.during "Failed to write scaffold files") >>= fun report =>
        printLines (Display.report (Display.showsSigns host) plan report) >>= fun _ =>
          printLines (Display.farewell generator.name.pascal) :=
  rfl

theorem previews_of_prepare {generator : Generator} {prepared : Session}
    (ready : options.prepare host before = .ok (generator, plan) prepared) :
    options.Previews host before plan := by
  have untouched := onlyLooks_prepare options host before
  rw [final_of_ok ready] at untouched
  refine ⟨generator, prepared, ready, ?_⟩
  have ready' : options.dry.prepare host before = .ok (generator, plan) prepared := ready
  rw [execute_eq, bind_of_ok ready', conclude_dry, untouched.files]

/-- A run that asks nothing and verifies nothing carries its plan out if it succeeds. -/
theorem carriesOut_of_execute (direct : options.onConflict.policy? = some policy)
    (ran : options.live.execute host before = .ok () after) :
    ∃ plan report, options.CarriesOut host policy before plan report after := by
  rw [execute_eq] at ran
  obtain ⟨⟨generator, plan⟩, prepared, ready, concluded⟩ := Action.bind_eq_ok_iff.1 ran
  rw [conclude_live direct, carryOut_live] at concluded
  obtain ⟨report, applied, carried, shown⟩ := Action.bind_eq_ok_iff.1 concluded
  refine ⟨plan, report, generator, prepared, applied, ready, mapError_eq_ok_iff.1 carried, ?_⟩
  have untouched := ((onlyLooks_printLines
    (Display.report (Display.showsSigns host) plan report)).bind fun _ =>
      onlyLooks_printLines (Display.farewell generator.name.pascal)) applied
  rw [final_of_ok shown] at untouched
  exact untouched.files.symm

/-- A run that asks nothing and verifies nothing succeeds if its plan can be carried out. -/
theorem execute_of_apply {generator : Generator} {prepared applied : Session}
    (direct : options.onConflict.policy? = some policy)
    (ready : options.prepare host before = .ok (generator, plan) prepared)
    (carried : plan.apply host options.root policy prepared = .ok report applied) :
    ∃ after, options.live.execute host before = .ok () after ∧ after.files = applied.files := by
  have ready' : options.live.prepare host before = .ok (generator, plan) prepared := ready
  have carried' : (plan.apply host options.root policy).mapError
      (RunFailure.during "Failed to write scaffold files") prepared = .ok report applied :=
    mapError_eq_ok_iff.2 carried
  refine ⟨{ applied with
    output := withLines (withLines applied.output
      (Display.report (Display.showsSigns host) plan report))
        (Display.farewell generator.name.pascal) }, ?_, rfl⟩
  rw [execute_eq, bind_of_ok ready', conclude_live direct, carryOut_live, bind_of_ok carried',
    bind_of_ok (printLines_run _ _), printLines_run]

/-- If a run that asks nothing and verifies nothing succeeds, then it carries out the plan that the dry
run shows. What is shown of the aggregator is what happens if and only if the plan leaves the
aggregator with its new text. -/
theorem dryRun_happens_iff (direct : options.onConflict.policy? = some policy)
    (wellFormed : before.files.WellFormed) (shows : host.ShowsDigits)
    (ran : options.live.execute host before =
      .ok () after) :
    ∃ plan report, options.Previews host before plan ∧
      options.CarriesOut host policy before plan report after ∧
      (plan.aggregator.Happens options.root before.files after.files ↔
        plan.Updates policy options.root before.files report) := by
  obtain ⟨plan, report, carriesOut⟩ := carriesOut_of_execute direct ran
  refine ⟨plan, report, ?_, carriesOut, ?_⟩
  all_goals obtain ⟨generator, prepared, applied, ready, carried, same⟩ := carriesOut
  · exact previews_of_prepare ready
  · obtain ⟨planning, files, planned⟩ := plan_of_prepare ready
    have untouched := onlyLooks_prepare options host before
    rw [final_of_ok ready] at untouched
    have original := Generator.plan_original planned
    rw [files] at original
    obtain ⟨tasks, course⟩ := ScaffoldPlan.apply_course shows (Generator.endInNames planned)
      (untouched.files ▸ wellFormed) carried
    rw [untouched.files, same] at course
    have distinct := Generator.distinct_of_plan planned course.files before.files options.root
    obtain ⟨content, there⟩ := ScaffoldPlan.exists_updated original policy
    have happens : plan.aggregator.Happens options.root before.files after.files ↔
        after.files.contents (before.files.landingBelow options.root plan.aggregator.path) =
          some plan.aggregator.after.toUTF8 :=
      ⟨AggregatorEdit.Happens.updated, fun updated => ⟨original, updated⟩⟩
    rw [happens, course.updates_iff_delivers original]
    obtain ⟨front, name, here⟩ := exists_name original
    rw [here] at there ⊢
    exact course.contents_iff_delivers distinct here there

/-- Asks for the files for orders, and to keep the files that are there. -/
def keepingOptions : Options where
  name := some (some "order")
  onConflict := .skip

/-- A project that has all files for orders, but whose main router lacks the route. -/
def unroutedProject : Session where
  files :=
    { routelessProject.files with
      nodes := routelessProject.files.nodes ++
        [(["work", "src", "routes", "order.routes.ts"], .file "".toUTF8)] }

theorem unroutedProject_files (layer : Layer) :
    unroutedProject.files.pathExists (Path.join ⟨"."⟩ (defaultFile orderName layer)) = true := by
  cases layer <;> decide +kernel

theorem apply_unroutedProject (host : Host) {session : Session}
    (same : session.files = unroutedProject.files) :
    ∃ report applied, (defaultPlan orderName routelessAggregator routedAggregator).apply host ⟨"."⟩
        .skip session = .ok report applied ∧ applied.files = session.files := by
  refine ScaffoldPlan.apply_of_kept host ?_ fun file member => ?_
  · rw [routeExists_defaultPlan, same]
    exact unroutedProject_files .route
  · obtain ⟨layer, -, rfl⟩ := List.mem_map.1 member
    rw [same, Generator.fileOf]
    exact unroutedProject_files layer

theorem keepingOptions_run :
    (∃ prepared, keepingOptions.prepare calmHost unroutedProject =
      .ok (Generator.standard orderName {},
        defaultPlan orderName routelessAggregator routedAggregator) prepared) ∧
      ∃ after, keepingOptions.live.execute calmHost unroutedProject = .ok () after ∧
        after.files = unroutedProject.files := by
  have loads : (Settings.load unroutedProject.files [] ⟨"."⟩ none).toOption = some {} := by
    decide +kernel
  have read : unroutedProject.files.readText (Path.join ⟨"."⟩ defaultAggregator) =
      .ok routelessAggregator :=
    readText_eq_ok_iff.2 ⟨_, by decide +kernel, fromUTF8?_toUTF8 _⟩
  obtain ⟨prepared, ready, same⟩ : ∃ prepared, keepingOptions.prepare calmHost unroutedProject =
      .ok (Generator.standard orderName {},
        defaultPlan orderName routelessAggregator routedAggregator) prepared ∧
      prepared.files = unroutedProject.files :=
    prepare_orders loads rfl read
  obtain ⟨report, applied, carried, kept⟩ := apply_unroutedProject calmHost same
  obtain ⟨after, ran, files⟩ := execute_of_apply rfl ready carried
  exact ⟨⟨prepared, ready⟩, after, ran, files.trans (kept.trans same)⟩

theorem routelessAggregator_ne_routed : routelessAggregator ≠ routedAggregator := by
  decide +kernel

/-- The main router that the policy keeps is not left with the route. -/
theorem dryRun_happens_iff_unrouted :
    ∃ after plan report, keepingOptions.live.execute calmHost unroutedProject = .ok () after ∧
      keepingOptions.Previews calmHost unroutedProject plan ∧
      ¬plan.Updates .skip ⟨"."⟩ unroutedProject.files report := by
  obtain ⟨⟨prepared, ready⟩, after, ran, same⟩ := keepingOptions_run
  have direct : keepingOptions.onConflict.policy? = some .skip := rfl
  have digits := (orderPlan_admissible (fun _ _ => none) .skip).digits
  obtain ⟨plan, report, previews, ⟨generator, prepared', applied, ready', -, -⟩, happens⟩ :=
    dryRun_happens_iff direct (by decide) digits ran
  refine ⟨after, plan, report, ran, previews, fun updates => ?_⟩
  rw [ready] at ready'
  cases ready'
  have shown := happens.2 updates
  rw [same] at shown
  exact AggregatorEdit.not_happens routelessAggregator_ne_routed _ _ shown

/-- The dry run shows that the route is added to the main router, but the run leaves it as it is. -/
theorem dryRun_shows_unrouted :
    ∃ after plan, keepingOptions.live.execute calmHost unroutedProject = .ok () after ∧
      keepingOptions.Previews calmHost unroutedProject plan ∧
      ¬plan.aggregator.Happens ⟨"."⟩ unroutedProject.files after.files := by
  obtain ⟨⟨prepared, ready⟩, after, ran, same⟩ := keepingOptions_run
  refine ⟨after, _, ran, previews_of_prepare ready, ?_⟩
  rw [same]
  exact AggregatorEdit.not_happens routelessAggregator_ne_routed _ _

end Options

end ResourceScaffold
