import ResourceScaffold.Proofs.Runs.Sequence

/-!
Contract: what repeated runs for one name leave in the aggregator when they keep what is there.

Owns:
- runs that change the aggregator and leave the route file there, and runs that do not get that far;
- how often the lines of the name stand in the aggregator after any number of runs, failed ones
  included;
- names whose route file has a name that is too long.

Does not own: runs for several names.
-/

namespace ResourceScaffold

open FileTree

variable {root : Path} {name : ResourceName} {request : Request} {before after : Session}
  {text : String}

/-! ## Runs -/

/-- The text of the aggregator, or none if it cannot be read. -/
def aggregatorText (root : Path) (tree : FileTree) : String :=
  (tree.readText (root.join defaultAggregator)).toOption.getD ""

theorem aggregatorText_of_read {tree : FileTree}
    (read : tree.readText (root.join defaultAggregator) = .ok text) :
    aggregatorText root tree = text := by
  rw [aggregatorText, read]
  rfl

/-- Asks for a name, and to keep the files that are there. -/
def skipRequest (name : ResourceName) (host : Host) : Request :=
  ⟨name, .skip, host⟩

/-- Runs for one name that keep the files that are there, on these hosts. -/
def skipRequests (name : ResourceName) (hosts : List Host) : List Request :=
  hosts.map (skipRequest name)

theorem skipRequests_cons (name : ResourceName) (host : Host) (rest : List Host) :
    skipRequests name (host :: rest) = skipRequest name host :: skipRequests name rest :=
  List.map_cons

namespace Run

/-- Whether a run changed the text of the aggregator. -/
def rewrites (root : Path) (run : Run) : Bool :=
  aggregatorText root run.after.files ≠ aggregatorText root run.before.files

def routed (root : Path) (run : Run) : Bool :=
  run.after.files.pathExists (root.join (defaultFile run.request.name .route))

/-- Whether a run changed the aggregator and left the route file there. -/
def completes (root : Path) (run : Run) : Bool :=
  run.rewrites root && run.routed root

/-- Whether a run changed the aggregator but did not get as far as the route file. -/
def strands (root : Path) (run : Run) : Bool :=
  run.rewrites root && !run.routed root

theorem rewrites_toNat (root : Path) (run : Run) :
    (run.rewrites root).toNat =
      (if run.strands root = true then 1 else 0) + (if run.completes root = true then 1 else 0) := by
  rw [strands, completes]
  cases run.rewrites root <;> cases run.routed root <;> rfl

end Run

theorem Request.run_request (request : Request) (root : Path) (before : Session) :
    (request.run root before).request = request := by
  rw [run]
  cases request.plan root before with
  | error failure after => rfl
  | ok plan middle =>
      rw [carryOut]
      cases plan.apply request.host root request.policy middle <;> rfl

theorem Request.run_before (request : Request) (root : Path) (before : Session) :
    (request.run root before).before = before := by
  rw [run]
  cases request.plan root before with
  | error failure after => rfl
  | ok plan middle =>
      rw [carryOut]
      cases plan.apply request.host root request.policy middle <;> rfl

theorem Request.plan_eq_ok {plan : ScaffoldPlan} {middle : Session}
    (planned : request.plan root before = .ok plan middle) :
    ∃ text text', before.files.readText (root.join defaultAggregator) = .ok text ∧
      (Generator.spliceOf request.name {}).apply text defaultAggregator = .ok text' ∧
      plan = defaultPlan request.name text text' ∧ middle.files = before.files := by
  have inner := planned
  rw [request.plan_run] at inner
  obtain ⟨text, session, reads, spliced⟩ := Action.bind_eq_ok_iff.1 inner
  obtain ⟨read, rfl⟩ := Action.reading_eq_ok_iff.1 reads
  obtain ⟨text', session', splices, -⟩ := Action.bind_eq_ok_iff.1 spliced
  rw [Generator.spliceAggregator, Generator.aggregatorSplice_standard,
    Action.bind_of_ok (Action.ofExcept_ok_run _ _)] at splices
  obtain ⟨_, noted, -, applies⟩ := Action.bind_eq_ok_iff.1 splices
  obtain ⟨applied, -⟩ := Action.ofExcept_eq_ok_iff.1 applies
  have whole : request.plan root session = _ := Request.plan_of_splice read applied
  rw [whole] at planned
  cases planned
  exact ⟨text, text', read, applied, rfl, rfl⟩

theorem Request.plan_error {failure : Failure}
    (planned : request.plan root before = .error failure after) : after.files = before.files := by
  have looks : (request.plan root).OnlyLooks :=
    (Generator.onlyLooks_create request.name {}).bind fun generator => generator.onlyLooks_plan root
  have untouched := looks before
  rw [Action.final_of_error planned] at untouched
  exact untouched.files

theorem routeExists_defaultPlan (text text' : String) (tree : FileTree) (root : Path) :
    (defaultPlan name text text').routeExists tree root =
      tree.pathExists (root.join (defaultFile name .route)) := by
  have found : (defaultPlan name text text').file? .route =
      some ((Generator.standard name {}).fileOf .route) := rfl
  rw [ScaffoldPlan.routeExists, found, Option.any_some, Generator.fileOf]

/-! ## Steps -/

/-- What a run leaves that keeps what is there: the route is added at most once, and only if its
file was not there. -/
structure SkipStep (root : Path) (name : ResourceName) (before after : FileTree) : Prop where
  wellFormed : after.WellFormed
  existing : before.pathExists (root.join (defaultFile name .route)) = true →
    after.pathExists (root.join (defaultFile name .route)) = true
  text : aggregatorText root after = aggregatorText root before ∨
    before.pathExists (root.join (defaultFile name .route)) = false ∧
      Gains name (aggregatorText root before) (aggregatorText root after)

theorem skipStep_of_apply {host : Host} {text' : String} (identifier : IsIdentifier name.camel)
    (wellFormed : before.files.WellFormed)
    (read : before.files.readText (root.join defaultAggregator) = .ok text)
    (gains : Gains name text text')
    (ran : (∃ report, (defaultPlan name text text').apply host root .skip before =
        .ok report after) ∨
      ∃ failure, (defaultPlan name text text').apply host root .skip before =
        .error failure after) : SkipStep root name before.files after.files := by
  obtain ⟨settles, written⟩ := ScaffoldPlan.apply_skip_settles
    (defaultPlan_ofSources identifier text text') (.of_read wellFormed read) read ran
  refine ⟨settles.sound.wellFormed, settles.existing (defaultFile_isSource identifier .route), ?_⟩
  rw [routeExists_defaultPlan] at written
  rw [aggregatorText_of_read read]
  rcases written with ⟨kept, -⟩ | ⟨replaced, absent⟩
  · exact Or.inl (aggregatorText_of_read kept)
  · rw [aggregatorText_of_read replaced]
    exact Or.inr ⟨absent, gains⟩

theorem skipRequest_run (root : Path) (host : Host) (identifier : IsIdentifier name.camel)
    (wellFormed : before.files.WellFormed) :
    SkipStep root name before.files ((skipRequest name host).run root before).after.files := by
  cases planned : (skipRequest name host).plan root before with
  | error failure after =>
      rw [Request.run_of_unplanned planned, Request.plan_error planned]
      exact ⟨wellFormed, id, Or.inl rfl⟩
  | ok plan middle =>
      obtain ⟨text, text', read, applied, rfl, same⟩ := Request.plan_eq_ok planned
      have gains : Gains name text text' := by
        obtain ⟨text'', applied', gains⟩ :=
          exists_gains identifier (hasAnchors_of_apply identifier applied) defaultAggregator
        cases applied.symm.trans applied'
        exact gains
      rw [← same] at read wellFormed ⊢
      cases ran : (defaultPlan name text text').apply host root .skip middle with
      | error failure after =>
          rw [Request.run_of_stopped planned ran]
          exact skipStep_of_apply identifier wellFormed read gains (Or.inr ⟨failure, ran⟩)
      | ok report after =>
          rw [Request.run_of_applied planned ran]
          exact skipStep_of_apply identifier wellFormed read gains (Or.inl ⟨report, ran⟩)

/-- A run changes the text of the aggregator by one import line and one registration line, or not
at all. -/
theorem SkipStep.occurrences_eq {tree tree' : FileTree} (step : SkipStep root name tree tree')
    (identifier : IsIdentifier name.camel) :
    occurrences name.importLine (aggregatorText root tree') =
        occurrences name.importLine (aggregatorText root tree) +
          (decide (aggregatorText root tree' ≠ aggregatorText root tree)).toNat ∧
      occurrences name.registrationLine (aggregatorText root tree') =
        occurrences name.registrationLine (aggregatorText root tree) +
          (decide (aggregatorText root tree' ≠ aggregatorText root tree)).toNat := by
  rcases step.text with same | ⟨-, gains⟩
  · simp [same]
  · have imports := gains.imports name identifier
    have registrations := gains.registrations name identifier
    rw [if_pos rfl] at imports registrations
    have different : aggregatorText root tree' ≠ aggregatorText root tree := fun same => by
      rw [same] at imports
      omega
    rw [decide_eq_true different]
    exact ⟨imports, registrations⟩

/-! ## Sequences -/

/-- Runs that keep what is there do not change the aggregator once the route file is there. -/
theorem countP_rewrites_of_routed (identifier : IsIdentifier name.camel) (hosts : List Host)
    (wellFormed : before.files.WellFormed)
    (there : before.files.pathExists (root.join (defaultFile name .route)) = true) :
    (runs root (skipRequests name hosts) before).countP (·.rewrites root) = 0 := by
  induction hosts generalizing before with
  | nil => rfl
  | cons host rest inductionHypothesis =>
      have step := skipRequest_run root host identifier wellFormed
      have later := inductionHypothesis step.wellFormed (step.existing there)
      have idle : ((skipRequest name host).run root before).rewrites root = false := by
        rw [Run.rewrites, Request.run_before]
        rcases step.text with same | ⟨absent, -⟩
        · simpa using same
        · rw [there] at absent
          cases absent
      rw [skipRequests_cons, runs, List.countP_cons, idle, later]
      rfl

/-- After any number of runs for one name that keep what is there, whether they fail or not, the
name has one more import line and one more registration line for every run that changed the
aggregator. One such run at most leaves the route file there: all others stopped between the
aggregator and the route file. -/
theorem skipRuns_account (hosts : List Host) (identifier : IsIdentifier name.camel)
    (wellFormed : before.files.WellFormed) :
    occurrences name.importLine
          (aggregatorText root (afterRuns root (skipRequests name hosts) before).files) =
        occurrences name.importLine (aggregatorText root before.files) +
          (runs root (skipRequests name hosts) before).countP (·.strands root) +
          (runs root (skipRequests name hosts) before).countP (·.completes root) ∧
      occurrences name.registrationLine
          (aggregatorText root (afterRuns root (skipRequests name hosts) before).files) =
        occurrences name.registrationLine (aggregatorText root before.files) +
          (runs root (skipRequests name hosts) before).countP (·.strands root) +
          (runs root (skipRequests name hosts) before).countP (·.completes root) ∧
      (runs root (skipRequests name hosts) before).countP (·.completes root) ≤ 1 := by
  induction hosts generalizing before with
  | nil => simp [skipRequests, runs, afterRuns]
  | cons host rest inductionHypothesis =>
      have step := skipRequest_run root host identifier wellFormed
      obtain ⟨imports, registrations⟩ := step.occurrences_eq identifier
      obtain ⟨imports', registrations', once⟩ := inductionHypothesis step.wellFormed
      have changes : decide (aggregatorText root ((skipRequest name host).run root
          before).after.files ≠ aggregatorText root before.files) =
          ((skipRequest name host).run root before).rewrites root := by
        rw [Run.rewrites, Request.run_before]
      -- After a run that left the route file there, no run changes the aggregator.
      have last : ((skipRequest name host).run root before).completes root = true →
          (runs root (skipRequests name rest)
            ((skipRequest name host).run root before).after).countP (·.completes root) = 0 := by
        intro completes
        have routed := (Bool.and_eq_true_iff.1 completes).2
        rw [Run.routed, Request.run_request] at routed
        have idle := countP_rewrites_of_routed identifier rest step.wellFormed routed
        refine Nat.le_zero.1 (idle ▸ List.countP_mono_left fun run _ completes => ?_)
        exact (Bool.and_eq_true_iff.1 completes).1
      rw [changes, Run.rewrites_toNat] at imports registrations
      rw [skipRequests_cons, runs, afterRuns_cons, List.countP_cons, List.countP_cons]
      refine ⟨by omega, by omega, ?_⟩
      by_cases completes : ((skipRequest name host).run root before).completes root = true
      · rw [last completes, if_pos completes]
      · rw [if_neg completes]
        exact once

/-- Two runs for orders in a project that lacks their route. -/
theorem skipRuns_account_orders :
    occurrences orderName.importLine (aggregatorText ⟨"."⟩ (afterRuns ⟨"."⟩
            (skipRequests orderName [calmHost, calmHost]) routelessProject).files) =
        occurrences orderName.importLine (aggregatorText ⟨"."⟩ routelessProject.files) +
          (runs ⟨"."⟩ (skipRequests orderName [calmHost, calmHost])
            routelessProject).countP (·.strands ⟨"."⟩) +
          (runs ⟨"."⟩ (skipRequests orderName [calmHost, calmHost])
            routelessProject).countP (·.completes ⟨"."⟩) ∧
      occurrences orderName.registrationLine (aggregatorText ⟨"."⟩ (afterRuns ⟨"."⟩
            (skipRequests orderName [calmHost, calmHost]) routelessProject).files) =
        occurrences orderName.registrationLine
            (aggregatorText ⟨"."⟩ routelessProject.files) +
          (runs ⟨"."⟩ (skipRequests orderName [calmHost, calmHost])
            routelessProject).countP (·.strands ⟨"."⟩) +
          (runs ⟨"."⟩ (skipRequests orderName [calmHost, calmHost])
            routelessProject).countP (·.completes ⟨"."⟩) ∧
      (runs ⟨"."⟩ (skipRequests orderName [calmHost, calmHost])
        routelessProject).countP (·.completes ⟨"."⟩) ≤ 1 :=
  skipRuns_account [calmHost, calmHost] ⟨by decide, by decide⟩ routelessProject_wellFormed

/-! ## Names that are too long for a route file -/

/-- The route file of a name that is too long is never there. -/
theorem pathExists_of_tooLong {tree : FileTree} (identifier : IsIdentifier name.camel)
    (tooLong : nameLimit < (name.camel ++ ".routes.ts").utf8ByteSize) (sound : Sound root tree) :
    tree.pathExists (root.join (defaultFile name .route)) = false := by
  obtain ⟨isTarget, names⟩ := defaultFile_isTarget identifier .route
  by_contra there
  obtain ⟨node, found⟩ := pathExists_iff.1 (by simpa using there)
  obtain ⟨-, fit, -⟩ := (sound.status_iff isTarget).1 found
  have member : (name.camel ++ ".routes.ts").toList ∈ (defaultFile name .route).names := by
    rw [names]
    exact List.mem_append_right _ List.mem_cons_self
  have fits := fit _ member
  rw [String.ofList_toList] at fits
  omega

theorem status_routes (sound : Sound root before.files)
    (read : before.files.readText (root.join defaultAggregator) = .ok text)
    (checked : checkPath (root.join ⟨"src/routes"⟩) = .ok ()) :
    before.files.status (root.join ⟨"src/routes"⟩) = .ok .directory := by
  obtain ⟨old, found, -⟩ := readText_eq_ok_iff.1 read
  obtain ⟨-, -, here⟩ := (sound.status_iff defaultAggregator_isSource.toIsTarget).1 found
  have names : Path.names ⟨"src/routes"⟩ = ["src".toList, "routes".toList] := by decide +kernel
  have fit : NamesFit (Path.segments ⟨"src/routes"⟩) := by
    unfold NamesFit
    decide +kernel
  refine (sound.wellFormed.status_join_iff (by decide +kernel) (by decide +kernel)
    (by decide +kernel)).2 ⟨checked, fit, sound.reaches, sound.wellFormed _ "_index.ts" ?_⟩
  rw [placeBelow, defaultAggregator_names] at here
  rw [placeBelow, names, List.append_assoc]
  simp only [List.map_cons, List.map_nil, String.ofList_toList, List.cons_append, List.nil_append]
    at here ⊢
  simp [here]

/-- The aggregator of the working directory can be written if it can be read, on a host that refuses
nothing. -/
theorem writeText_aggregator {host : Host}
    (accepts : ∀ operation tree, host.refuses operation tree = none)
    (sound : Sound ⟨"."⟩ before.files)
    (read : before.files.readText (Path.join ⟨"."⟩ defaultAggregator) = .ok text)
    (content : String) :
    ∃ after, writeText host (Path.join ⟨"."⟩ defaultAggregator) content before = .ok () after := by
  have parent : Path.parent? (Path.join ⟨"."⟩ defaultAggregator) =
      some (Path.join ⟨"."⟩ ⟨"src/routes"⟩) := by
    decide +kernel
  obtain ⟨parents, above⟩ : ∃ parents, Path.ancestors (Path.join ⟨"."⟩ ⟨"src/routes"⟩) =
      Path.join ⟨"."⟩ ⟨"src/routes"⟩ :: parents := ⟨_, rfl⟩
  obtain ⟨old, found, -⟩ := readText_eq_ok_iff.1 read
  have directory := status_routes sound read (by decide +kernel)
  have created : createDirectories host (Path.join ⟨"."⟩ ⟨"src/routes"⟩) before = .ok () before := by
    have made : host.make before.files (Path.join ⟨"."⟩ ⟨"src/routes"⟩) = .error .alreadyExists := by
      rw [Host.make, Host.change, accepts]
      exact createDirectory_of_status directory
    have chain : before.files.createDirectories (Path.join ⟨"."⟩ ⟨"src/routes"⟩) host.make =
        (before.files, none) := by
      unfold FileTree.createDirectories
      rw [above]
      exact createChain_of_status made directory parents
    rw [createDirectories, chain]
  have written : host.change (.writeFile (Path.join ⟨"."⟩ defaultAggregator) content.toUTF8)
      before.files = .ok (before.files.set (before.files.landing (Path.join ⟨"."⟩ defaultAggregator))
        (.file content.toUTF8)) := by
    rw [Host.change, accepts]
    exact writeFile_of_status found (by decide +kernel)
  rw [writeText, parent]
  exact ⟨_, (Action.bind_of_ok created).trans (Action.changing_eq_ok_iff.2 ⟨_, written, rfl⟩)⟩

/-- A run for a name that is too long writes the aggregator, since there is no route file. -/
theorem skipRequest_run_of_tooLong {host : Host}
    (accepts : ∀ operation tree, host.refuses operation tree = none)
    (identifier : IsIdentifier name.camel)
    (tooLong : nameLimit < (name.camel ++ ".routes.ts").utf8ByteSize)
    (extensible : Extensible ⟨"."⟩ text before.files) :
    ∃ text', Gains name text text' ∧
      Extensible ⟨"."⟩ text' ((skipRequest name host).run ⟨"."⟩ before).after.files := by
  obtain ⟨text', middle, gains, planned, same⟩ : ∃ text' middle, Gains name text text' ∧
      (skipRequest name host).plan ⟨"."⟩ before = .ok (defaultPlan name text text') middle ∧
      middle.files = before.files :=
    (skipRequest name host).plan_eq identifier extensible.read extensible.anchors
  rw [← same] at extensible
  have absent := pathExists_of_tooLong identifier tooLong extensible.sound
  rw [← routeExists_defaultPlan text text'] at absent
  have settled {after : Session}
      (ran : (∃ report, (defaultPlan name text text').apply host ⟨"."⟩ .skip middle =
          .ok report after) ∨
        ∃ failure, (defaultPlan name text text').apply host ⟨"."⟩ .skip middle =
          .error failure after) : Extensible ⟨"."⟩ text' after.files := by
    obtain ⟨settles, written⟩ := ScaffoldPlan.apply_skip_settles
      (defaultPlan_ofSources identifier text text') extensible.sound extensible.read ran
    rcases written with ⟨-, there | ⟨failure, stopped, failed⟩⟩ | ⟨written, -⟩
    · rw [absent] at there
      cases there
    · obtain ⟨last, wrote⟩ :=
        writeText_aggregator accepts extensible.sound extensible.read text'
      rcases ScaffoldPlan.applyAggregator_cases (defaultPlan name text text') host ⟨"."⟩ .skip
        middle with ⟨⟨-, there⟩, -⟩ | ⟨-, step⟩
      · rw [absent] at there
        cases there
      · rw [step] at failed
        rcases Action.bind_eq_error_iff.1 failed with unwritten | ⟨_, _, _, noted⟩
        · cases wrote.symm.trans unwritten
        · cases noted
    · exact ⟨settles.sound, written, gains.anchors⟩
  refine ⟨text', gains, ?_⟩
  cases ran : (defaultPlan name text text').apply host ⟨"."⟩ .skip middle with
  | error failure after =>
      rw [Request.run_of_stopped planned ran]
      exact settled (Or.inr ⟨failure, ran⟩)
  | ok report after =>
      rw [Request.run_of_applied planned ran]
      exact settled (Or.inl ⟨report, ran⟩)

/-- Every run for a name that is too long adds its route once more, on hosts that refuse nothing. -/
theorem skipRuns_of_tooLong (name : ResourceName) (hosts : List Host)
    (accepts : ∀ host ∈ hosts, ∀ operation tree, host.refuses operation tree = none)
    (identifier : IsIdentifier name.camel)
    (tooLong : nameLimit < (name.camel ++ ".routes.ts").utf8ByteSize)
    (extensible : Extensible ⟨"."⟩ text before.files) :
    occurrences name.importLine (aggregatorText ⟨"."⟩
          (afterRuns ⟨"."⟩ (skipRequests name hosts) before).files) =
        occurrences name.importLine text + hosts.length ∧
      occurrences name.registrationLine (aggregatorText ⟨"."⟩
          (afterRuns ⟨"."⟩ (skipRequests name hosts) before).files) =
        occurrences name.registrationLine text + hosts.length := by
  induction hosts generalizing before text with
  | nil =>
      rw [← aggregatorText_of_read extensible.read]
      exact ⟨rfl, rfl⟩
  | cons host rest inductionHypothesis =>
      rw [List.forall_mem_cons] at accepts
      obtain ⟨text', gains, extensible'⟩ :=
        skipRequest_run_of_tooLong accepts.1 identifier tooLong extensible
      obtain ⟨imports, registrations⟩ := inductionHypothesis accepts.2 extensible'
      have imported := gains.imports name identifier
      have registered := gains.registrations name identifier
      rw [if_pos rfl] at imported registered
      rw [skipRequests_cons, afterRuns_cons, imports, registrations, imported, registered,
        List.length_cons, Nat.add_assoc, Nat.add_assoc, Nat.add_comm 1]
      exact ⟨rfl, rfl⟩

/-- A name that goes on with so many letters after the first one. -/
@[irreducible] def letters (count : Nat) : ResourceName :=
  ⟨String.ofList ('x' :: List.replicate count 'x'), by simp⟩

theorem letters_isIdentifier (count : Nat) : IsIdentifier (letters count).camel := by
  have chars : (letters count).camel.toList = 'x' :: List.replicate count 'x' := by
    rw [letters, String.toList_ofList]
  rw [IsIdentifier, chars]
  refine ⟨by decide, List.all_eq_true.2 fun character member => ?_⟩
  rw [List.eq_of_mem_replicate member]
  decide

theorem brace_mem_importLine (name : ResourceName) : '\x7b' ∈ name.importLine.toList := by
  simp [ResourceName.importLine]

/-- The second run for a name of 246 letters imports its route a second time: the file of the route
would have a name of 256 bytes. -/
theorem skipRuns_import_twice :
    IsIdentifier (letters 245).camel ∧ routelessProject.files.WellFormed ∧
      occurrences (letters 245).importLine (aggregatorText ⟨"."⟩ routelessProject.files) = 0 ∧
      occurrences (letters 245).importLine (aggregatorText ⟨"."⟩ (afterRuns ⟨"."⟩
        (skipRequests (letters 245) [calmHost, calmHost])
        routelessProject).files) = 2 := by
  have absent : occurrences (letters 245).importLine routelessAggregator = 0 := by
    refine Text.count_eq_zero_iff.2 fun part => ?_
    exact absurd (part.subset (brace_mem_importLine _)) (by decide +kernel)
  have accepts : ∀ host ∈ [calmHost, calmHost], ∀ operation tree,
      host.refuses operation tree = none := by
    simp [orderHost]
  obtain ⟨imports, -⟩ := skipRuns_of_tooLong (letters 245) [calmHost, calmHost] accepts
    (letters_isIdentifier 245) (by decide +kernel)
    ⟨.of_read routelessProject_wellFormed routelessProject_read, routelessProject_read,
      routelessAggregator_hasAnchors⟩
  rw [absent] at imports
  rw [aggregatorText_of_read routelessProject_read]
  exact ⟨letters_isIdentifier 245, routelessProject_wellFormed, absent, imports⟩

end ResourceScaffold
