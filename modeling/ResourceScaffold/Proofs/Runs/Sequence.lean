import ResourceScaffold.Proofs.Execution.Untouched
import ResourceScaffold.Proofs.Runs.Keeping
import ResourceScaffold.Proofs.Splice.Growth

/-!
Contract: what is in a project after several runs with the default settings.

Owns:
- a run for one name, and runs one after the other;
- how often the routes of a name were added to the aggregator, and that their files are there.

Does not own: runs that fail on the files.
-/

namespace ResourceScaffold

open FileTree

/-! ## Runs -/

/-- What is asked of a run: the route of a name, under a policy, on a host. -/
structure Request where
  name : ResourceName
  policy : OverwritePolicy
  host : Host

/-- What a run came to. -/
inductive RunEnd where
  /-- There was no plan. -/
  | unplanned (failure : Failure)
  /-- The plan was refused, or was not carried out to its end. -/
  | stopped (failure : Failure)
  | applied (report : ScaffoldReport)

/-- A run, with the sessions before and after it. -/
structure Run where
  request : Request
  before : Session
  ending : RunEnd
  after : Session

def Request.plan (request : Request) (root : Path) : Action Failure ScaffoldPlan :=
  Generator.create request.name {} >>= fun generator => generator.plan root

def Request.carryOut (request : Request) (root : Path) (before : Session) :
    EStateM.Result Failure Session ScaffoldPlan → Run
  | .error failure after => ⟨request, before, .unplanned failure, after⟩
  | .ok plan middle =>
      match plan.apply request.host root request.policy middle with
      | .error failure after => ⟨request, before, .stopped failure, after⟩
      | .ok report after => ⟨request, before, .applied report, after⟩

/-- Makes a plan with the default settings and carries it out. -/
def Request.run (request : Request) (root : Path) (before : Session) : Run :=
  request.carryOut root before (request.plan root before)

/-- Several runs, each in what the ones before it left. -/
def runs (root : Path) : List Request → Session → List Run
  | [], _ => []
  | request :: rest, before =>
      request.run root before :: runs root rest (request.run root before).after

def afterRuns (root : Path) (requests : List Request) (before : Session) : Session :=
  requests.foldl (fun session request => (request.run root session).after) before

/-- Whether a run added the route of a name to the aggregator, by its report. -/
def Run.adds (run : Run) (name : ResourceName) : Bool :=
  match run.ending with
  | .applied report => decide (run.request.name = name) && report.aggregator.isSome
  | .unplanned _ | .stopped _ => false

theorem Run.adds_of_applied {run : Run} {report : ScaffoldReport}
    (applied : run.ending = .applied report) (adds : report.aggregator.isSome = true)
    (name : ResourceName) : run.adds name = decide (run.request.name = name) := by
  rw [Run.adds, applied]
  simp [adds]

theorem afterRuns_cons (root : Path) (request : Request) (rest : List Request) (before : Session) :
    afterRuns root (request :: rest) before = afterRuns root rest (request.run root before).after :=
  List.foldl_cons

variable {root : Path} {name : ResourceName} {request : Request} {before after : Session}
  {text : String}

theorem Request.run_of_unplanned {failure : Failure}
    (planned : request.plan root before = .error failure after) :
    request.run root before = ⟨request, before, .unplanned failure, after⟩ := by
  rw [run, planned, carryOut]

theorem Request.run_of_stopped {plan : ScaffoldPlan} {middle : Session} {failure : Failure}
    (planned : request.plan root before = .ok plan middle)
    (applied : plan.apply request.host root request.policy middle = .error failure after) :
    request.run root before = ⟨request, before, .stopped failure, after⟩ := by
  rw [run, planned, carryOut, applied]

theorem Request.run_of_applied {plan : ScaffoldPlan} {middle : Session} {report : ScaffoldReport}
    (planned : request.plan root before = .ok plan middle)
    (applied : plan.apply request.host root request.policy middle = .ok report after) :
    request.run root before = ⟨request, before, .applied report, after⟩ := by
  rw [run, planned, carryOut, applied]

/-! ## Plans with the default settings -/

/-- The plan for a name that turns one text of the aggregator into another one. -/
def defaultPlan (name : ResourceName) (text text' : String) : ScaffoldPlan :=
  ⟨⟨defaultAggregator, text, text'⟩, Layer.all.map (Generator.standard name {}).fileOf⟩

theorem mem_defaultPlan {text' : String} {file : GeneratedFile}
    (member : file ∈ (defaultPlan name text text').files) :
    ∃ layer, file.path = defaultFile name layer := by
  obtain ⟨layer, -, rfl⟩ := List.mem_map.1 member
  exact ⟨layer, by rw [Generator.fileOf]⟩

theorem fileOf_mem_defaultPlan {text' : String} (layer : Layer) :
    (Generator.standard name {}).fileOf layer ∈ (defaultPlan name text text').files :=
  List.mem_map_of_mem layer.mem_all

theorem defaultPlan_ofSources (identifier : IsIdentifier name.camel) (text text' : String) :
    (defaultPlan name text text').OfSources where
  aggregator := by
    unfold defaultPlan
    exact defaultAggregator_isSource
  files file member := by
    obtain ⟨layer, path⟩ := mem_defaultPlan member
    rw [path]
    exact defaultFile_isSource identifier layer
  different file member := by
    obtain ⟨layer, path⟩ := mem_defaultPlan member
    rw [path]
    unfold defaultPlan
    exact (defaultFile_ne_aggregator identifier layer).symm

theorem Request.plan_run (request : Request) (root : Path) (before : Session) :
    request.plan root before = (Generator.standard request.name {}).plan root before :=
  Action.bind_of_ok (Generator.create_run request.name rfl before)

/-- There is a plan for a name if its route can be added to the aggregator. -/
theorem Request.plan_of_splice {text' : String}
    (read : before.files.readText (root.join defaultAggregator) = .ok text)
    (spliced : (Generator.spliceOf request.name {}).apply text defaultAggregator = .ok text') :
    request.plan root before =
      .ok (defaultPlan request.name text text')
        { before with
          events := before.events ++
            (Generator.spliceOf request.name {}).events text defaultAggregator } :=
  (request.plan_run root before).trans (Generator.plan_eq read spliced)

/-- A session in which a plan was made that adds the route of a name to a text. -/
def Session.planning (session : Session) (name : ResourceName) (text : String) : Session :=
  { session with
    events := session.events ++ (Generator.spliceOf name {}).events text defaultAggregator }

/-- A run whose route can be added, and whose plan is carried out. -/
theorem Request.run_of_splice {text' : String} {report : ScaffoldReport}
    (read : before.files.readText (root.join defaultAggregator) = .ok text)
    (spliced : (Generator.spliceOf request.name {}).apply text defaultAggregator = .ok text')
    (applied : (defaultPlan request.name text text').apply request.host root request.policy
      (before.planning request.name text) = .ok report after) :
    request.run root before = ⟨request, before, .applied report, after⟩ :=
  run_of_applied (plan_of_splice read spliced) applied

/-- There is a plan for an identifier if the aggregator has both anchors. -/
theorem Request.plan_eq (request : Request) (identifier : IsIdentifier request.name.camel)
    (read : before.files.readText (root.join defaultAggregator) = .ok text)
    (anchors : HasAnchors text) :
    ∃ text' middle, Gains request.name text text' ∧
      request.plan root before = .ok (defaultPlan request.name text text') middle ∧
      middle.files = before.files := by
  obtain ⟨text', spliced, gains⟩ := exists_gains identifier anchors defaultAggregator
  exact ⟨text', _, gains, plan_of_splice read spliced, rfl⟩

/-- A root below which the aggregator can be read is reached. -/
theorem Sound.of_read {tree : FileTree} (wellFormed : tree.WellFormed)
    (read : tree.readText (root.join defaultAggregator) = .ok text) : Sound root tree := by
  obtain ⟨content, found, -⟩ := readText_eq_ok_iff.1 read
  have reaches := ((wellFormed.status_join_iff defaultAggregator_isSource.relative
    defaultAggregator_isSource.plain defaultAggregator_isSource.busy).1 found).2.2.1
  exact ⟨wellFormed, reaches⟩

/-! ## Progress -/

/-- The project can take further runs: the aggregator has a text with both anchors. -/
structure Extensible (root : Path) (text : String) (tree : FileTree) : Prop where
  sound : Sound root tree
  read : tree.readText (root.join defaultAggregator) = .ok text
  anchors : HasAnchors text

/-- A project after the routes of names were added to it, each so many times. -/
structure Advances (root : Path) (added : ResourceName → Nat) (text text' : String)
    (before after : FileTree) : Prop where
  extensible : Extensible root text' after
  imports : ∀ name, IsIdentifier name.camel →
    occurrences name.importLine text' = occurrences name.importLine text + added name
  registrations : ∀ name, IsIdentifier name.camel →
    occurrences name.registrationLine text' = occurrences name.registrationLine text + added name
  routed : ∀ name, IsIdentifier name.camel → 0 < added name → ∀ layer,
    after.pathExists (root.join (defaultFile name layer)) = true
  existing : ∀ {other}, IsSource other → before.pathExists (root.join other) = true →
    after.pathExists (root.join other) = true

namespace Advances

variable {added added' : ResourceName → Nat} {text' text'' : String} {first second third : FileTree}

theorem refl (extensible : Extensible root text first) :
    Advances root (fun _ => 0) text text first first :=
  ⟨extensible, fun _ _ => rfl, fun _ _ => rfl, fun _ _ positive => absurd positive (by decide),
    fun _ found => found⟩

theorem trans (advances : Advances root added text text' first second)
    (advances' : Advances root added' text' text'' second third) :
    Advances root (fun name => added name + added' name) text text'' first third where
  extensible := advances'.extensible
  imports name identifier := by
    rw [advances'.imports name identifier, advances.imports name identifier, Nat.add_assoc]
  registrations name identifier := by
    rw [advances'.registrations name identifier, advances.registrations name identifier,
      Nat.add_assoc]
  routed name identifier positive layer := by
    by_cases later : 0 < added' name
    · exact advances'.routed name identifier later layer
    · have earlier : 0 < added name := by omega
      exact advances'.existing (defaultFile_isSource identifier layer)
        (advances.routed name identifier earlier layer)
  existing isSource found := advances'.existing isSource (advances.existing isSource found)

end Advances

/-- The text of the aggregator after a plan was carried out, by what the report says. -/
theorem advances_of_applied {text' : String} (anchors : HasAnchors text)
    (gains : Gains name text text') {tree tree' : FileTree} {aggregator : Option Path}
    {paths : List Path} (settles : Settles root paths tree tree')
    (read : tree'.readText (root.join defaultAggregator) =
      .ok (if aggregator.isSome then text' else text))
    (present : ∀ layer, tree'.pathExists (root.join (defaultFile name layer)) = true) :
    Advances root (fun other => (decide (name = other) && aggregator.isSome).toNat) text
      (if aggregator.isSome then text' else text) tree tree' := by
  cases aggregator with
  | none =>
      simp only [Option.isSome_none, Bool.false_eq_true, if_false, Bool.and_false,
        Bool.toNat_false] at read ⊢
      exact ⟨⟨settles.sound, read, anchors⟩, fun _ _ => rfl, fun _ _ => rfl,
        fun _ _ positive => absurd positive (by decide), settles.existing⟩
  | some path =>
      simp only [Option.isSome_some, if_true, Bool.and_true] at read ⊢
      have once (other : ResourceName) :
          (if other = name then 1 else 0) = (decide (name = other)).toNat := by
        by_cases own : other = name
        · simp [own]
        · simp [own, Ne.symm own]
      refine ⟨⟨settles.sound, read, gains.anchors⟩, fun other identifier' => ?_,
        fun other identifier' => ?_, fun other _ positive layer => ?_, settles.existing⟩
      · rw [gains.imports other identifier', once]
      · rw [gains.registrations other identifier', once]
      · obtain rfl : name = other := by
          by_contra different
          simp [different] at positive
        exact present layer

/-- A run does not fail on the files. -/
def Run.Withstands (run : Run) : Prop :=
  ∀ path fault, run.ending ≠ .stopped (.fileSystem path fault)

/-- A run carries out its plan, or is refused because of a file that is there already. -/
def Run.EndsWell (run : Run) : Prop :=
  (∃ report, run.ending = .applied report) ∨
    run.request.policy = .fail ∧ ∃ path, run.ending = .stopped (.fileExists path)

theorem Run.withstands_of_applied {run : Run} {report : ScaffoldReport}
    (applied : run.ending = .applied report) : run.Withstands := by
  intro path fault stopped
  rw [applied] at stopped
  cases stopped

/-- A run that does not fail on the files adds the route of its name if its report says so. -/
theorem Request.run_advances (identifier : IsIdentifier request.name.camel)
    (shows : request.policy = .backup → request.host.ShowsDigits)
    (extensible : Extensible root text before.files)
    (withstands : (request.run root before).Withstands) :
    (request.run root before).EndsWell ∧
      ∃ text', Advances root (fun name => ((request.run root before).adds name).toNat) text text'
        before.files (request.run root before).after.files := by
  obtain ⟨text', middle, gains, planned, same⟩ :=
    request.plan_eq identifier extensible.read extensible.anchors
  cases applied : (defaultPlan request.name text text').apply request.host root request.policy
      middle with
  | error failure after =>
      rw [run_of_stopped planned applied] at withstands ⊢
      rcases ScaffoldPlan.apply_error_cases applied with
        ⟨stops, rfl, path, -, rfl⟩ | ⟨path, fault, rfl⟩
      · refine ⟨Or.inr ⟨stops, path, rfl⟩, text, ?_⟩
        rw [same]
        exact .refl extensible
      · exact absurd rfl (withstands path fault)
  | ok report after =>
      rw [run_of_applied planned applied]
      have sound : Sound root middle.files := same ▸ extensible.sound
      have read : middle.files.readText (root.join defaultAggregator) = .ok text :=
        same ▸ extensible.read
      obtain ⟨settles, present, written⟩ := ScaffoldPlan.apply_settles shows
        (defaultPlan_ofSources identifier text text') sound read applied
      rw [same] at settles
      refine ⟨Or.inl ⟨report, rfl⟩, _, advances_of_applied extensible.anchors gains settles written
        fun layer => ?_⟩
      have there := present _ (fileOf_mem_defaultPlan layer)
      rw [Generator.fileOf] at there
      exact there

/-- After a plan was carried out that added a route, the aggregator has the text of the plan. -/
theorem readText_of_applied {host : Host} {policy : OverwritePolicy} {text' : String}
    {report : ScaffoldReport} (identifier : IsIdentifier name.camel)
    (shows : policy = .backup → host.ShowsDigits) (wellFormed : before.files.WellFormed)
    (read : before.files.readText (root.join defaultAggregator) = .ok text)
    (applied : (defaultPlan name text text').apply host root policy before = .ok report after)
    (adds : report.aggregator.isSome = true) :
    after.files.readText (root.join defaultAggregator) = .ok text' := by
  obtain ⟨-, -, written⟩ := ScaffoldPlan.apply_settles shows
    (defaultPlan_ofSources identifier text text') (.of_read wellFormed read) read applied
  rwa [if_pos adds] at written

/-- Runs that do not fail on the files add the routes that their reports name. -/
theorem runs_advance {requests : List Request}
    (identifiers : ∀ request ∈ requests, IsIdentifier request.name.camel)
    (shows : ∀ request ∈ requests, request.policy = .backup → request.host.ShowsDigits)
    (extensible : Extensible root text before.files)
    (withstand : ∀ run ∈ runs root requests before, run.Withstands) :
    (∀ run ∈ runs root requests before, run.EndsWell) ∧
      ∃ text', Advances root (fun name => (runs root requests before).countP (·.adds name)) text
        text' before.files (afterRuns root requests before).files := by
  induction requests generalizing before text with
  | nil => exact ⟨by simp [runs], text, .refl extensible⟩
  | cons request rest inductionHypothesis =>
      rw [List.forall_mem_cons] at identifiers shows
      rw [runs, List.forall_mem_cons] at withstand
      rw [runs, List.forall_mem_cons, afterRuns_cons]
      obtain ⟨endsWell, text', advances⟩ :=
        request.run_advances identifiers.1 shows.1 extensible withstand.1
      obtain ⟨endWell, text'', advances'⟩ :=
        inductionHypothesis identifiers.2 shows.2 advances.extensible withstand.2
      refine ⟨⟨endsWell, endWell⟩, text'', ?_⟩
      have both := advances.trans advances'
      -- A count over all runs is that over the later ones and one more for the first, if it counts.
      have counts : (fun name => ((request.run root before).adds name).toNat +
          (runs root rest (request.run root before).after).countP (·.adds name)) =
          fun name => (request.run root before :: runs root rest (request.run root before).after).countP
            (·.adds name) := by
        funext name
        rw [List.countP_cons, Nat.add_comm]
        cases (request.run root before).adds name <;> rfl
      rw [counts] at both
      exact both

/-- Runs with the default settings in a project whose aggregator has both default anchors, none of
which fails on the files: every run carries out its plan, or is refused because of a file that is
there already, and each name has as many more import lines and registration lines in the aggregator
as runs added its route, and all of its files if there was such a run. -/
theorem runs_account {requests : List Request} (wellFormed : before.files.WellFormed)
    (read : before.files.readText (root.join defaultAggregator) = .ok text)
    (anchors : HasAnchors text)
    (identifiers : ∀ request ∈ requests, IsIdentifier request.name.camel)
    (shows : ∀ request ∈ requests, request.policy = .backup → request.host.ShowsDigits)
    (withstand : ∀ run ∈ runs root requests before, run.Withstands) :
    (∀ run ∈ runs root requests before, run.EndsWell) ∧
      ∃ text', (afterRuns root requests before).files.readText (root.join defaultAggregator) =
          .ok text' ∧
        ∀ name, IsIdentifier name.camel →
          occurrences name.importLine text' = occurrences name.importLine text +
              (runs root requests before).countP (·.adds name) ∧
            occurrences name.registrationLine text' = occurrences name.registrationLine text +
              (runs root requests before).countP (·.adds name) ∧
            (0 < (runs root requests before).countP (·.adds name) → ∀ layer,
              (afterRuns root requests before).files.pathExists
                (root.join (defaultFile name layer)) = true) := by
  obtain ⟨endWell, text', advances⟩ :=
    runs_advance identifiers shows ⟨.of_read wellFormed read, read, anchors⟩ withstand
  exact ⟨endWell, text', advances.extensible.read, fun name identifier =>
    ⟨advances.imports name identifier, advances.registrations name identifier,
      advances.routed name identifier⟩⟩

theorem routelessAggregator_hasAnchors : HasAnchors routelessAggregator :=
  ⟨⟨[], "\nexport default appRoutes;\n".toList, by decide +kernel⟩,
    ⟨"const appRoutes = Router();\n".toList, ['\n'], by decide +kernel⟩⟩

def invoiceName : ResourceName :=
  ⟨"invoice", by decide⟩

/-- A project with an older service for orders, and all files for invoices but their route. -/
def tradeProject : Session where
  files :=
    { workingDirectory := []
      nodes := [(["src"], .directory), (["src", "routes"], .directory),
        (["src", "routes", "_index.ts"], .file routelessAggregator.toUTF8),
        (["src", "controller"], .directory),
        (["src", "controller", "InvoiceController.ts"], .file "".toUTF8),
        (["src", "service"], .directory),
        (["src", "service", "OrderService.ts"], .file "".toUTF8),
        (["src", "service", "InvoiceService.ts"], .file "".toUTF8),
        (["src", "repository"], .directory),
        (["src", "repository", "InvoiceRepository.ts"], .file "".toUTF8),
        (["test"], .directory), (["test", "integration"], .directory),
        (["test", "integration", "Invoice.test.ts"], .file "".toUTF8)] }

/-- The route for orders, with a backup of the older service, and then that for invoices. -/
def tradeRequests : List Request :=
  [⟨orderName, .backup, calmHost⟩, ⟨invoiceName, .skip, calmHost⟩]

theorem tradeProject_wellFormed : tradeProject.files.WellFormed := by
  decide

theorem tradeProject_read :
    tradeProject.files.readText (Path.join ⟨""⟩ defaultAggregator) = .ok routelessAggregator := by
  have found : tradeProject.files.status (Path.join ⟨""⟩ defaultAggregator) =
      .ok (.file routelessAggregator.toUTF8) := by
    decide +kernel
  exact readText_eq_ok_iff.2 ⟨_, found, fromUTF8?_toUTF8 _⟩

/-- The text of the aggregator with the route of a name added. -/
def withRoute (name : ResourceName) (text : String) : String :=
  ((Generator.spliceOf name {}).apply text defaultAggregator).toOption.getD ""

theorem apply_withRoute (identifier : IsIdentifier name.camel) (anchors : HasAnchors text) :
    (Generator.spliceOf name {}).apply text defaultAggregator = .ok (withRoute name text) ∧
      HasAnchors (withRoute name text) := by
  obtain ⟨text', spliced, gains⟩ := exists_gains identifier anchors defaultAggregator
  rw [withRoute, spliced]
  exact ⟨rfl, gains.anchors⟩

theorem tradePlans_applied :
    ∃ report middle,
      (defaultPlan orderName routelessAggregator (withRoute orderName routelessAggregator)).apply
          calmHost ⟨""⟩ .backup (tradeProject.planning orderName routelessAggregator) =
        .ok report middle ∧
      report.aggregator.isSome = true ∧
      ∃ report' after,
        (defaultPlan invoiceName (withRoute orderName routelessAggregator)
            (withRoute invoiceName (withRoute orderName routelessAggregator))).apply calmHost ⟨""⟩
            .skip (middle.planning invoiceName (withRoute orderName routelessAggregator)) =
          .ok report' after ∧
        report'.aggregator.isSome = true := by
  decide +kernel

theorem tradeRequests_identifiers :
    ∀ request ∈ tradeRequests, IsIdentifier request.name.camel := by
  rw [tradeRequests, List.forall_mem_cons, List.forall_mem_singleton]
  exact ⟨⟨by decide, by decide⟩, ⟨by decide, by decide⟩⟩

/-- Both runs carry out their plans and add their routes. -/
theorem runs_tradeRequests :
    ∃ first second report report', runs ⟨""⟩ tradeRequests tradeProject = [first, second] ∧
      (first.request.name = orderName ∧ first.ending = .applied report ∧
        report.aggregator.isSome = true) ∧
      second.request.name = invoiceName ∧ second.ending = .applied report' ∧
        report'.aggregator.isSome = true := by
  obtain ⟨report, middle, applied, adds, report', after, applied', adds'⟩ := tradePlans_applied
  have isOrder : IsIdentifier orderName.camel := tradeRequests_identifiers _ List.mem_cons_self
  have isInvoice : IsIdentifier invoiceName.camel :=
    tradeRequests_identifiers _ (List.mem_cons_of_mem _ List.mem_cons_self)
  obtain ⟨spliced, anchors⟩ := apply_withRoute isOrder routelessAggregator_hasAnchors
  obtain ⟨spliced', -⟩ := apply_withRoute isInvoice anchors
  have read : middle.files.readText (Path.join ⟨""⟩ defaultAggregator) =
      .ok (withRoute orderName routelessAggregator) :=
    readText_of_applied isOrder (fun _ => orderHost_digits _) tradeProject_wellFormed
      tradeProject_read applied adds
  have ran : Request.run ⟨orderName, .backup, calmHost⟩ ⟨""⟩ tradeProject =
      ⟨_, _, .applied report, middle⟩ :=
    Request.run_of_splice tradeProject_read spliced applied
  have ran' : Request.run ⟨invoiceName, .skip, calmHost⟩ ⟨""⟩ middle =
      ⟨_, _, .applied report', after⟩ :=
    Request.run_of_splice read spliced' applied'
  rw [tradeRequests, runs, ran, runs, ran', runs]
  exact ⟨_, _, report, report', rfl, ⟨rfl, rfl, adds⟩, rfl, rfl, adds'⟩

/-- Each of both runs adds the route of its name, once. -/
theorem runs_account_trades :
    (∀ run ∈ runs ⟨""⟩ tradeRequests tradeProject, run.EndsWell) ∧
      ∃ text, (afterRuns ⟨""⟩ tradeRequests tradeProject).files.readText
            (Path.join ⟨""⟩ defaultAggregator) = .ok text ∧
        ∀ name ∈ [orderName, invoiceName],
          (runs ⟨""⟩ tradeRequests tradeProject).countP (·.adds name) = 1 ∧
            occurrences name.importLine text =
              occurrences name.importLine routelessAggregator + 1 ∧
            occurrences name.registrationLine text =
              occurrences name.registrationLine routelessAggregator + 1 ∧
            ∀ layer, (afterRuns ⟨""⟩ tradeRequests tradeProject).files.pathExists
              (Path.join ⟨""⟩ (defaultFile name layer)) = true := by
  obtain ⟨first, second, report, report', both, ⟨isOrder, applied, adds⟩, isInvoice, applied',
    adds'⟩ := runs_tradeRequests
  have withstand : ∀ run ∈ runs ⟨""⟩ tradeRequests tradeProject, run.Withstands := by
    rw [both, List.forall_mem_cons, List.forall_mem_singleton]
    exact ⟨Run.withstands_of_applied applied, Run.withstands_of_applied applied'⟩
  have shows : ∀ request ∈ tradeRequests, request.policy = .backup →
      request.host.ShowsDigits := by
    rw [tradeRequests, List.forall_mem_cons, List.forall_mem_singleton]
    exact ⟨fun _ => orderHost_digits _, fun _ => orderHost_digits _⟩
  have once : ∀ name ∈ [orderName, invoiceName],
      (runs ⟨""⟩ tradeRequests tradeProject).countP (·.adds name) = 1 := by
    rw [both, List.forall_mem_cons, List.forall_mem_singleton]
    simp only [List.countP_cons, List.countP_nil, Run.adds_of_applied applied adds,
      Run.adds_of_applied applied' adds', isOrder, isInvoice]
    decide
  obtain ⟨endWell, text, read, account⟩ := runs_account tradeProject_wellFormed tradeProject_read
    routelessAggregator_hasAnchors tradeRequests_identifiers shows withstand
  refine ⟨endWell, text, read, fun name member => ⟨once name member, ?_⟩⟩
  have identifier : IsIdentifier name.camel := by
    rcases List.mem_cons.1 member with rfl | later
    · exact tradeRequests_identifiers _ List.mem_cons_self
    · rw [List.mem_singleton.1 later]
      exact tradeRequests_identifiers _ (List.mem_cons_of_mem _ List.mem_cons_self)
  have counted := account name identifier
  rw [once name member] at counted
  exact ⟨counted.1, counted.2.1, counted.2.2 Nat.one_pos⟩

end ResourceScaffold
