import ResourceScaffold.Proofs.Apply.Account
import ResourceScaffold.Proofs.Apply.Halt
import ResourceScaffold.Proofs.Execution.Untouched
import ResourceScaffold.Proofs.FileTree.Additions

/-!
Contract: that the log of carrying out a plan tells what became of the files.

Owns:
- playing the events of a log back on a file tree, with the contents that the plan has for them;
- that this gives the files that are there in the end, also if the plan was not carried out to its
  end, but for directories that were created;
- that the report lists the paths of the events.

Does not own: events that come before or after the plan is carried out.
-/

namespace ResourceScaffold

open FileTree

/-! ## Events -/

namespace Event

/-- Whether an event says that files have changed. -/
def changesFiles : Event → Bool
  | aggregatorUpdated _ | fileBackedUp _ _ | fileWritten _ _ => true
  | _ => false

def updated? : Event → Option Path
  | aggregatorUpdated path => some path
  | _ => none

def written? : Event → Option Path
  | fileWritten _ path => some path
  | _ => none

def backedUp? : Event → Option (Path × Path)
  | fileBackedUp path backup => some (path, backup)
  | _ => none

def skipped? : Event → Option Path
  | fileSkipped path => some path
  | _ => none

theorem level_of_changesFiles {event : Event} (changes : event.changesFiles = true) :
    event.level = .info := by
  cases event <;> first | rfl | cases changes

end Event

/-! ## Playback -/

/-- Files that a log is played back on, with the generated files that may still be written. -/
structure Playback where
  files : FileTree
  pending : List GeneratedFile

/-- Whether an event of this layer and path can be about a generated file. -/
def GeneratedFile.isMeant (layer : Layer) (path : Path) (file : GeneratedFile) : Bool :=
  file.layer = layer ∧ file.path = path

/-- Does to the files what an event says. Files are written in the order of the plan, so a written
file is the next one of its layer and path. -/
def Playback.play (plan : ScaffoldPlan) (root : Path) (playback : Playback) : Event → Playback
  | .aggregatorUpdated path =>
      { playback with
        files := playback.files.set (playback.files.landingBelow root path)
          (.file plan.aggregator.after.toUTF8) }
  | .fileBackedUp path backup =>
      { playback with
        files := playback.files.move (playback.files.landingBelow root path)
          (playback.files.landingBelow root backup) }
  | .fileWritten layer path =>
      match playback.pending.dropWhile fun file => !file.isMeant layer path with
      | [] => { playback with pending := [] }
      | file :: later =>
          { files := playback.files.set (playback.files.landingBelow root path)
              (.file file.content.toUTF8)
            pending := later }
  | _ => playback

/-- The files after the events of a log, in order. -/
def ScaffoldPlan.playBack (plan : ScaffoldPlan) (root : Path) (files : FileTree)
    (events : List Event) : FileTree :=
  (events.foldl (Playback.play plan root) ⟨files, plan.files⟩).files

variable {host : Host} {root path : Path} {policy : OverwritePolicy} {file : GeneratedFile}
  {plan : ScaffoldPlan} {before middle after : Session}
  {passed rest pending pending' pending'' : List GeneratedFile} {events events' : List Event}

theorem Playback.play_of_not_changesFiles (playback : Playback) {event : Event}
    (quiet : event.changesFiles = false) : playback.play plan root event = playback := by
  cases event <;> first | rfl | cases quiet

/-- Only the events that say that files have changed matter. -/
theorem Playback.foldl_filter (playback : Playback) (events : List Event) :
    (events.filter fun event => event.level = .info).foldl (play plan root) playback =
      events.foldl (play plan root) playback := by
  induction events generalizing playback with
  | nil => rfl
  | cons event rest inductionHypothesis =>
      rw [List.filter_cons, List.foldl_cons]
      split_ifs with isInfo
      · exact inductionHypothesis _
      · have quiet : event.changesFiles = false := by
          rw [Bool.eq_false_iff]
          exact fun changes => isInfo (by simp [Event.level_of_changesFiles changes])
        rw [inductionHypothesis, play_of_not_changesFiles playback quiet]

/-- A part of a run is on record: played back on files that lack at most some directories, its events
lead to such files again. -/
structure Recorded (plan : ScaffoldPlan) (root : Path) (pending pending' : List GeneratedFile)
    (before after : Session) (events : List Event) : Prop where
  noted : after.events = before.events ++ events
  infos : ∀ event ∈ events, event.level = .info → event.changesFiles = true
  wellFormed : after.files.WellFormed
  plays : ∀ files, AddsDirectories files before.files →
    ∃ files', events.foldl (Playback.play plan root) ⟨files, pending⟩ = ⟨files', pending'⟩ ∧
      AddsDirectories files' after.files

namespace Recorded

theorem trans (first : Recorded plan root pending pending' before middle events)
    (second : Recorded plan root pending' pending'' middle after events') :
    Recorded plan root pending pending'' before after (events ++ events') where
  noted := by rw [second.noted, first.noted, List.append_assoc]
  infos event member := (List.mem_append.1 member).elim (first.infos event) (second.infos event)
  wellFormed := second.wellFormed
  plays files adds := by
    obtain ⟨files', played, adds'⟩ := first.plays files adds
    rw [List.foldl_append, played]
    exact second.plays files' adds'

theorem silent (noted : after.events = before.events) (wellFormed : after.files.WellFormed)
    (adds : AddsDirectories before.files after.files) :
    Recorded plan root pending pending before after [] where
  noted := noted.trans (List.append_nil _).symm
  infos := nofun
  wellFormed := wellFormed
  plays files adds' := ⟨files, rfl, adds'.trans adds⟩

theorem refl (wellFormed : before.files.WellFormed) :
    Recorded plan root pending pending before before [] :=
  silent rfl wellFormed (.refl _)

theorem warning (plan : ScaffoldPlan) (root : Path) (pending : List GeneratedFile) (event : Event)
    (wellFormed : before.files.WellFormed) (quiet : event.changesFiles = false)
    (warns : event.level ≠ .info) :
    Recorded plan root pending pending before
      { before with events := before.events ++ [event] } [event] where
  noted := rfl
  infos := List.forall_mem_singleton.2 fun info => absurd info warns
  wellFormed := wellFormed
  plays files adds :=
    ⟨files, Playback.play_of_not_changesFiles _ quiet, adds⟩

end Recorded

/-! ## Writing -/

theorem CreatesParent.adds {tree created : FileTree}
    (creates : CreatesParent host path tree created) : AddsDirectories tree created := by
  rcases creates with rfl | ⟨directory, -, rfl⟩
  · exact .refl _
  · exact createChain_adds Host.make_eq_ok tree _

theorem writeText_sets {content : String} (wellFormed : before.files.WellFormed)
    (ran : writeText host path content before = .ok () after) :
    ∃ created, AddsDirectories before.files created ∧ created.landing path ≠ [] ∧
      after = { before with files := created.set (created.landing path) (.file content.toUTF8) } ∧
      after.files.WellFormed := by
  obtain ⟨created, changed, creates, written, rfl⟩ := writeText_eq_ok ran
  obtain ⟨-, rfl, valid, noDirectory⟩ :=
    writeFile_landing (creates.keeps wellFormed).2 written
  exact ⟨created, creates.adds, ne_nil_of_noDirectory noDirectory, rfl, valid⟩

theorem Recorded.writeText_error {content : String} (wellFormed : before.files.WellFormed)
    {failure : Failure} (ran : writeText host path content before = .error failure after) :
    Recorded plan root pending pending before after [] := by
  obtain ⟨created, creates, rfl⟩ := writeText_eq_error ran
  exact .silent rfl (creates.keeps wellFormed).2 creates.adds

/-- A write is on record if its event is played back as the same change. -/
theorem Recorded.writeText_note {content : String} (wellFormed : before.files.WellFormed)
    (ran : writeText host (root.join path) content before = .ok () middle) {event : Event}
    (changes : event.changesFiles = true)
    (plays : ∀ files, Playback.play plan root ⟨files, pending⟩ event =
      ⟨files.set (files.landingBelow root path) (.file content.toUTF8), pending'⟩) :
    Recorded plan root pending pending' before
      { middle with events := middle.events ++ [event] } [event] := by
  obtain ⟨created, adds, below, rfl, valid⟩ := writeText_sets wellFormed ran
  refine ⟨rfl, List.forall_mem_singleton.2 fun _ => changes, valid, fun files adds' => ?_⟩
  have both := adds'.trans adds
  refine ⟨_, plays files, ?_⟩
  rw [FileTree.landingBelow, ← both.landingBelow root]
  exact both.set below _

/-! ## Moving aside -/

/-- Only a path that ends in a name can be moved aside. -/
theorem endsInName_of_rename {tree changed : FileTree} {time : String}
    (digits : ∀ character ∈ time.toList, character.isDigit = true) (wellFormed : tree.WellFormed)
    (renamed : tree.rename (root.join path) (root.join (backupPath path time)) = .ok changed) :
    path.EndsInName := by
  cases last : path.names.getLast? with
  | none =>
      -- The backup of a path without names would lie within what the path leads to.
      have unnamed := List.getLast?_eq_none_iff.1 last
      have plain : path.IsPlain := fun up => by
        have named : ['.', '.'] ∈ path.names := List.mem_filter.2 ⟨up, rfl⟩
        rw [unnamed] at named
        cases named
      obtain ⟨names, absolute, -, -⟩ := backupPath_spec plain digits
      obtain ⟨start, landing⟩ := tree.landing_join_names root path
      have within : tree.landing (root.join (backupPath path time)) =
          tree.landing (root.join path) ++ [backupName (path.fileName?.getD "") time] := by
        have whole : '/' ∉ (path.fileName?.getD "").toList := by
          rw [Path.fileName?_eq plain, last]
          simp
        obtain ⟨-, busy, noStepUp⟩ := backupName_isName whole digits
        rw [landing _ absolute, landing _ rfl, names, unnamed, List.dropLast_nil,
          landingFrom_concat start [] busy noStepUp, String.ofList_toList]
      exact absurd renamed (rename_not_within wellFormed within)
  | some final =>
      refine ⟨final, last, ?_⟩
      rintro rfl
      obtain ⟨front, segments⟩ : ∃ front, pathSegments (root.join path) =
          (front ++ path.segments).map String.ofList := by
        cases absolute : path.isAbsolute with
        | true => exact ⟨[], by rw [Path.join_of_isAbsolute root absolute]; rfl⟩
        | false =>
            obtain ⟨front, joined, -⟩ := Path.segments_join root absolute
            exact ⟨front, by rw [pathSegments_eq, joined]⟩
      have dots := endsInDots_of_getLast? front segments last
      rw [rename_endsInDots renamed] at dots
      cases dots

namespace ScaffoldPlan

theorem backUp_recorded (plan : ScaffoldPlan) (pending : List GeneratedFile)
    (shows : host.ShowsDigits) (wellFormed : before.files.WellFormed) {backup : Path}
    (ran : backUp host root file before = .ok backup after) :
    Recorded plan root pending pending before after [.fileBackedUp file.path backup] := by
  obtain ⟨rfl, renamed, -, noted⟩ := backUp_ok ran
  have endsInName := endsInName_of_rename (shows _) wellFormed renamed
  have aside := endsInName.isAside (shows before.clockReadings) before.files root
  obtain ⟨moved, replaces⟩ := rename_eq_move wellFormed aside.apart renamed
  have valid := wellFormed.move replaces.parent aside.apart.2 aside.apart.1
  rw [← moved] at valid
  refine ⟨noted, List.forall_mem_singleton.2 fun _ => rfl, valid, fun files adds => ⟨_, rfl, ?_⟩⟩
  rw [FileTree.landingBelow, FileTree.landingBelow, ← adds.landingBelow root,
    ← adds.landingBelow root, moved]
  exact adds.move aside.apart

theorem backUp_error_recorded (wellFormed : before.files.WellFormed) {failure : Failure}
    (ran : backUp host root file before = .error failure after) :
    Recorded plan root pending pending before after [] := by
  obtain rfl := backUp_error ran
  exact .silent rfl wellFormed (.refl _)

/-! ## Single files -/

/-- Files that were passed over: they were kept as they were, and are there. -/
def PassedOver (policy : OverwritePolicy) (root : Path) (tree : FileTree)
    (passed : List GeneratedFile) : Prop :=
  ∀ file ∈ passed, policy = .skip ∧ tree.pathExists (root.join file.path) = true

theorem PassedOver.nil (policy : OverwritePolicy) (root : Path) (tree : FileTree) :
    PassedOver policy root tree [] :=
  fun _ member => absurd member List.not_mem_nil

/-- What is written next is none of the files that were passed over. -/
theorem dropWhile_passed (noneMeant : ∀ other ∈ passed, other.path ≠ file.path)
    (rest : List GeneratedFile) :
    ((passed ++ file :: rest).dropWhile fun other => !other.isMeant file.layer file.path) =
      file :: rest := by
  rw [List.dropWhile_append_of_pos fun other member => by
    simp [GeneratedFile.isMeant, noneMeant other member]]
  rw [List.dropWhile_cons_of_neg (by simp [GeneratedFile.isMeant])]

theorem writeGenerated_recorded (plan : ScaffoldPlan) (rest : List GeneratedFile)
    {outcome : FileOutcome} {report : FileReport}
    (ran : writeGenerated host root file outcome before = .ok report after)
    (wellFormed : before.files.WellFormed) (noneMeant : ∀ other ∈ passed, other.path ≠ file.path) :
    report = ⟨file.path, outcome⟩ ∧
      Recorded plan root (passed ++ file :: rest) rest before after
        [.fileWritten file.layer file.path] := by
  obtain ⟨⟨⟩, middle, wrote, ends⟩ := Action.bind_eq_ok_iff.1 ran
  cases ends
  refine ⟨rfl, .writeText_note wellFormed wrote rfl fun files => ?_⟩
  simp only [Playback.play, dropWhile_passed noneMeant]

theorem writeGenerated_error_recorded (wellFormed : before.files.WellFormed) {outcome : FileOutcome}
    {failure : Failure} (ran : writeGenerated host root file outcome before = .error failure after) :
    Recorded plan root pending pending before after [] := by
  rcases Action.bind_eq_error_iff.1 ran with failed | ⟨_, _, _, ends⟩
  · exact .writeText_error wellFormed failed
  · cases ends

/-- What a step for a file comes to, with the warning that comes before it. -/
theorem applyFile_warns (host : Host) (root : Path) (policy : OverwritePolicy) (file : GeneratedFile)
    (before : Session) :
    (policy = .skip ∧ before.files.pathExists (root.join file.path) = true ∧
        applyFile host root policy file before = .ok ⟨file.path, .skipped⟩
          { before with events := before.events ++ [.fileSkipped file.path] }) ∨
      (policy = .backup ∧ applyFile host root policy file before =
        (backUp host root file >>= fun backup =>
          writeGenerated host root file (.backedUp backup)) before) ∨
      (policy ≠ .skip ∧ applyFile host root policy file before =
        writeGenerated host root file .written
          { before with events := before.events ++ [.fileReplaced file.path] }) ∨
      before.files.pathExists (root.join file.path) = false ∧
        applyFile host root policy file before = writeGenerated host root file .written before := by
  unfold applyFile
  rw [Action.bind_of_ok (Action.files_run before)]
  cases there : before.files.pathExists (root.join file.path) with
  | false => exact Or.inr (Or.inr (Or.inr ⟨rfl, rfl⟩))
  | true =>
      rw [if_pos rfl]
      cases policy with
      | skip => exact Or.inl ⟨rfl, rfl, Action.bind_of_ok (Action.note_run _ before)⟩
      | backup => exact Or.inr (Or.inl ⟨rfl, rfl⟩)
      | force => exact Or.inr (Or.inr (Or.inl ⟨nofun, Action.bind_of_ok (Action.note_run _ before)⟩))
      | fail => exact Or.inr (Or.inr (Or.inl ⟨nofun, Action.bind_of_ok (Action.note_run _ before)⟩))

theorem PassedOver.noneMeant_of_policy {tree : FileTree}
    (passedOver : PassedOver policy root tree passed) (other : policy ≠ .skip) :
    ∀ file' ∈ passed, file'.path ≠ file.path :=
  fun file' member => absurd (passedOver file' member).1 other

theorem PassedOver.noneMeant_of_vacant {tree : FileTree}
    (passedOver : PassedOver policy root tree passed)
    (vacant : tree.pathExists (root.join file.path) = false) :
    ∀ file' ∈ passed, file'.path ≠ file.path := by
  intro file' member same
  have there := (passedOver file' member).2
  rw [same, vacant] at there
  cases there

/-- Reports list what events say, in order. -/
structure Tells (reports : List FileReport) (events : List Event) : Prop where
  updated : events.filterMap Event.updated? = []
  written : events.filterMap Event.written? = reports.filterMap FileReport.written?
  backedUp : events.filterMap Event.backedUp? = reports.filterMap FileReport.backedUp?
  skipped : events.filterMap Event.skipped? = reports.filterMap FileReport.skipped?

theorem Tells.append {reports reports' : List FileReport} (first : Tells reports events)
    (second : Tells reports' events') : Tells (reports ++ reports') (events ++ events') := by
  constructor <;> simp only [List.filterMap_append]
  · rw [first.updated, second.updated, List.append_nil]
  · rw [first.written, second.written]
  · rw [first.backedUp, second.backedUp]
  · rw [first.skipped, second.skipped]

/-- A step for a file that succeeds is on record; the file itself is passed over, or it is written and
nothing that comes before it can be meant any more. -/
theorem applyFile_recorded (plan : ScaffoldPlan) (rest : List GeneratedFile)
    (shows : host.ShowsDigits) (wellFormed : before.files.WellFormed)
    (passedOver : PassedOver policy root before.files passed) {report : FileReport}
    (ran : applyFile host root policy file before = .ok report after) :
    ∃ events passed',
      Recorded plan root (passed ++ file :: rest) (passed' ++ rest) before after events ∧
        PassedOver policy root after.files passed' ∧ Tells [report] events := by
  rcases applyFile_warns host root policy file before with
    ⟨skips, there, step⟩ | ⟨backsUp, step⟩ | ⟨replaces, step⟩ | ⟨vacant, step⟩
  · rw [step] at ran
    cases ran
    refine ⟨[.fileSkipped file.path], passed ++ [file], ?_, ?_, ⟨rfl, rfl, rfl, rfl⟩⟩
    · rw [List.append_assoc, List.singleton_append]
      exact .warning _ _ _ _ wellFormed rfl nofun
    · intro other member
      rcases List.mem_append.1 member with earlier | this
      · exact passedOver other earlier
      · rw [List.mem_singleton.1 this]
        exact ⟨skips, there⟩
  · rw [step] at ran
    obtain ⟨backup, middle, moves, writes⟩ := Action.bind_eq_ok_iff.1 ran
    have moved := backUp_recorded plan (passed ++ file :: rest) shows wellFormed moves
    obtain ⟨rfl, written⟩ := writeGenerated_recorded plan rest writes moved.wellFormed
      (passedOver.noneMeant_of_policy (backsUp ▸ nofun))
    exact ⟨_, [], moved.trans written, .nil _ _ _, ⟨rfl, rfl, rfl, rfl⟩⟩
  · rw [step] at ran
    obtain ⟨rfl, written⟩ := writeGenerated_recorded plan rest ran wellFormed
      (passedOver.noneMeant_of_policy replaces)
    have warned := Recorded.warning plan root (passed ++ file :: rest) (.fileReplaced file.path)
      wellFormed rfl nofun
    exact ⟨_, [], warned.trans written, .nil _ _ _, ⟨rfl, rfl, rfl, rfl⟩⟩
  · rw [step] at ran
    obtain ⟨rfl, written⟩ := writeGenerated_recorded plan rest ran wellFormed
      (passedOver.noneMeant_of_vacant vacant)
    exact ⟨_, [], written, .nil _ _ _, ⟨rfl, rfl, rfl, rfl⟩⟩

/-- A step for a file that fails is on record: a file that was moved aside is, and directories are
not. -/
theorem applyFile_error_recorded (plan : ScaffoldPlan) (pending : List GeneratedFile)
    (shows : host.ShowsDigits) (wellFormed : before.files.WellFormed) {failure : Failure}
    (ran : applyFile host root policy file before = .error failure after) :
    ∃ events, Recorded plan root pending pending before after events := by
  rcases applyFile_warns host root policy file before with
    ⟨-, -, step⟩ | ⟨-, step⟩ | ⟨-, step⟩ | ⟨-, step⟩
  · rw [step] at ran
    cases ran
  · rw [step] at ran
    rcases Action.bind_eq_error_iff.1 ran with failed | ⟨backup, middle, moves, writes⟩
    · exact ⟨[], backUp_error_recorded wellFormed failed⟩
    · have moved := backUp_recorded plan pending shows wellFormed moves
      exact ⟨_, moved.trans (writeGenerated_error_recorded moved.wellFormed writes)⟩
  · rw [step] at ran
    have warned := Recorded.warning plan root pending (.fileReplaced file.path) wellFormed rfl nofun
    exact ⟨_, warned.trans (writeGenerated_error_recorded wellFormed ran)⟩
  · rw [step] at ran
    exact ⟨_, writeGenerated_error_recorded wellFormed ran⟩

/-! ## All files -/

theorem mapM_applyFile_recorded (plan : ScaffoldPlan) (shows : host.ShowsDigits)
    {files : List GeneratedFile} (wellFormed : before.files.WellFormed)
    (passedOver : PassedOver policy root before.files passed)
    {reports : List FileReport}
    (ran : files.mapM (applyFile host root policy) before = .ok reports after) :
    ∃ events pending', Recorded plan root (passed ++ files) pending' before after events ∧
      Tells reports events := by
  induction files generalizing before reports passed with
  | nil =>
      cases ran
      exact ⟨[], _, .refl wellFormed, ⟨rfl, rfl, rfl, rfl⟩⟩
  | cons file rest inductionHypothesis =>
      obtain ⟨report, middle, reports', first, second, rfl⟩ := Action.mapM_cons_eq_ok ran
      obtain ⟨events, passed', recorded, passedOver', tells⟩ :=
        applyFile_recorded plan rest shows wellFormed passedOver first
      obtain ⟨events', pending', recorded', tells'⟩ :=
        inductionHypothesis recorded.wellFormed passedOver' second
      exact ⟨events ++ events', pending', recorded.trans recorded', tells.append tells'⟩

theorem mapM_applyFile_error_recorded (plan : ScaffoldPlan) (shows : host.ShowsDigits)
    {files : List GeneratedFile} (wellFormed : before.files.WellFormed)
    (passedOver : PassedOver policy root before.files passed)
    {failure : Failure}
    (ran : files.mapM (applyFile host root policy) before = .error failure after) :
    ∃ events pending', Recorded plan root (passed ++ files) pending' before after events := by
  induction files generalizing before passed with
  | nil => cases ran
  | cons file rest inductionHypothesis =>
      rcases Action.mapM_cons_eq_error ran with failed | ⟨report, middle, first, failed⟩
      · obtain ⟨events, recorded⟩ := applyFile_error_recorded plan _ shows wellFormed failed
        exact ⟨events, _, recorded⟩
      · obtain ⟨events, passed', recorded, passedOver', -⟩ :=
          applyFile_recorded plan rest shows wellFormed passedOver first
        obtain ⟨events', pending', recorded'⟩ :=
          inductionHypothesis recorded.wellFormed passedOver' failed
        exact ⟨events ++ events', pending', recorded.trans recorded'⟩

/-! ## Whole plans -/

theorem applyAggregator_warns (plan : ScaffoldPlan) (host : Host) (root : Path)
    (policy : OverwritePolicy) (before : Session) :
    plan.applyAggregator host root policy before = .ok none
        { before with events := before.events ++ [.aggregatorKept plan.aggregator.path] } ∨
      plan.applyAggregator host root policy before =
        (writeText host (root.join plan.aggregator.path) plan.aggregator.after >>= fun _ =>
          Action.note [.aggregatorUpdated plan.aggregator.path] >>= fun _ =>
            pure (some plan.aggregator.path)) before := by
  unfold applyAggregator
  rw [Action.bind_of_ok (Action.files_run before)]
  by_cases keeps : policy = .skip ∧ plan.routeExists before.files root
  · rw [if_pos keeps]
    exact Or.inl (Action.bind_of_ok (Action.note_run _ before))
  · rw [if_neg keeps]
    exact Or.inr rfl

theorem applyAggregator_recorded (pending : List GeneratedFile)
    (wellFormed : before.files.WellFormed) {aggregator : Option Path}
    (ran : plan.applyAggregator host root policy before = .ok aggregator after) :
    ∃ events, Recorded plan root pending pending before after events ∧
      events.filterMap Event.updated? = aggregator.toList ∧
      events.filterMap Event.written? = [] ∧ events.filterMap Event.backedUp? = [] ∧
      events.filterMap Event.skipped? = [] := by
  rcases applyAggregator_warns plan host root policy before with step | step
  · rw [step] at ran
    cases ran
    exact ⟨_, .warning _ _ _ _ wellFormed rfl nofun, rfl, rfl, rfl, rfl⟩
  · rw [step] at ran
    obtain ⟨⟨⟩, middle, wrote, ends⟩ := Action.bind_eq_ok_iff.1 ran
    cases ends
    exact ⟨_, .writeText_note wellFormed wrote rfl fun files => rfl, rfl, rfl, rfl, rfl⟩

theorem applyAggregator_error_recorded (wellFormed : before.files.WellFormed) {failure : Failure}
    (ran : plan.applyAggregator host root policy before = .error failure after) :
    Recorded plan root pending pending before after [] := by
  rcases applyAggregator_warns plan host root policy before with step | step
  · rw [step] at ran
    cases ran
  · rw [step] at ran
    rcases Action.bind_eq_error_iff.1 ran with failed | ⟨_, _, _, ends⟩
    · exact .writeText_error wellFormed failed
    · cases ends

theorem apply_recorded (shows : host.ShowsDigits) (wellFormed : before.files.WellFormed)
    {report : ScaffoldReport} (ran : plan.apply host root policy before = .ok report after) :
    ∃ events pending', Recorded plan root plan.files pending' before after events ∧
      events.filterMap Event.updated? = report.aggregator.toList ∧
      events.filterMap Event.written? = report.written ∧
      events.filterMap Event.backedUp? = report.backedUp ∧
      events.filterMap Event.skipped? = report.skipped := by
  obtain ⟨-, aggregator, middle, reports, first, second, rfl⟩ := apply_eq_ok ran
  obtain ⟨events, recorded, updated, written, backedUp, skipped⟩ :=
    applyAggregator_recorded plan.files wellFormed first
  obtain ⟨events', pending', recorded', tells⟩ := mapM_applyFile_recorded plan shows
    recorded.wellFormed (.nil _ _ _) second
  refine ⟨events ++ events', pending', recorded.trans recorded', ?_, ?_, ?_, ?_⟩
  · rw [List.filterMap_append, updated, tells.updated, List.append_nil]
  · rw [List.filterMap_append, written, tells.written, List.nil_append]
    rfl
  · rw [List.filterMap_append, backedUp, tells.backedUp, List.nil_append]
    rfl
  · rw [List.filterMap_append, skipped, tells.skipped, List.nil_append]
    rfl

theorem apply_error_recorded (shows : host.ShowsDigits) (wellFormed : before.files.WellFormed)
    {failure : Failure} (ran : plan.apply host root policy before = .error failure after) :
    ∃ events pending', Recorded plan root plan.files pending' before after events := by
  rcases apply_eq_error ran with ⟨-, -, rfl⟩ | failed | ⟨aggregator, middle, first, failed⟩
  · exact ⟨[], _, .refl wellFormed⟩
  · exact ⟨[], _, applyAggregator_error_recorded wellFormed failed⟩
  · obtain ⟨events, recorded, -⟩ := applyAggregator_recorded plan.files wellFormed first
    obtain ⟨events', pending', recorded'⟩ := mapM_applyFile_error_recorded plan shows
      recorded.wellFormed (.nil _ _ _) failed
    exact ⟨events ++ events', pending', recorded.trans recorded'⟩

/-- Played back on the files that were there before, the events that say that files have changed give
the files that are there in the end, up to directories that were created, whether the plan was carried
out or not. If it was, the report lists the paths of the events, and those of the files that a
warning says were skipped. -/
theorem apply_log_restores (shows : host.ShowsDigits) (plan : ScaffoldPlan) (root : Path)
    (policy : OverwritePolicy) (wellFormed : before.files.WellFormed) :
    ∃ events, ((plan.apply host root policy).final before).events = before.events ++ events ∧
      (∀ event ∈ events, event.level = .info → event.changesFiles = true) ∧
      AddsDirectories
        (plan.playBack root before.files (events.filter fun event => event.level = .info))
        ((plan.apply host root policy).final before).files ∧
      ∀ report after, plan.apply host root policy before = .ok report after →
        report.aggregator.toList = events.filterMap Event.updated? ∧
          report.written = events.filterMap Event.written? ∧
          report.backedUp = events.filterMap Event.backedUp? ∧
          report.skipped = events.filterMap Event.skipped? := by
  have restores {pending' : List GeneratedFile} {events : List Event} {after : Session}
      (recorded : Recorded plan root plan.files pending' before after events) :
      AddsDirectories
        (plan.playBack root before.files (events.filter fun event => event.level = .info))
        after.files := by
    obtain ⟨files', played, adds⟩ := recorded.plays before.files (.refl _)
    rw [playBack, Playback.foldl_filter, played]
    exact adds
  cases ran : plan.apply host root policy before with
  | ok report after =>
      obtain ⟨events, pending', recorded, updated, written, backedUp, skipped⟩ :=
        apply_recorded shows wellFormed ran
      rw [Action.final_of_ok ran]
      refine ⟨events, recorded.noted, recorded.infos, restores recorded, ?_⟩
      intro report' after' same
      cases same
      exact ⟨updated.symm, written.symm, backedUp.symm, skipped.symm⟩
  | error failure after =>
      obtain ⟨events, pending', recorded⟩ := apply_error_recorded shows wellFormed ran
      rw [Action.final_of_error ran]
      exact ⟨events, recorded.noted, recorded.infos, restores recorded, nofun⟩

/-! ## A service that cannot be written -/

/-- What the log says about a service that was moved aside and then could not be written. -/
def refusedServiceEvents : List Event :=
  [.aggregatorUpdated ⟨"index.ts"⟩, .fileWritten .route ⟨"order.routes.ts"⟩,
    .fileWritten .controller ⟨"OrderController.ts"⟩,
    .fileBackedUp ⟨"OrderService.ts"⟩ ⟨"OrderService.ts.20250102030405678.bak"⟩]

theorem refusedService_events :
    ((orderPlan.apply (orderHost refusesService) ⟨"app"⟩ .backup).final orderProject).events =
      refusedServiceEvents := by
  decide +kernel

/-- The log restores what is there after the service could not be written. -/
theorem refusedService_log_restores :
    (orderHost refusesService).ShowsDigits ∧ orderProject.files.WellFormed ∧
      AddsDirectories (orderPlan.playBack ⟨"app"⟩ orderProject.files refusedServiceEvents)
        ((orderPlan.apply (orderHost refusesService) ⟨"app"⟩ .backup).final orderProject).files := by
  have admissible := orderPlan_admissible refusesService .backup
  have wellFormed : orderProject.files.WellFormed := admissible.wellFormed
  obtain ⟨events, noted, -, adds, -⟩ :=
    apply_log_restores admissible.digits orderPlan ⟨"app"⟩ .backup wellFormed
  rw [refusedService_events] at noted
  have same : events = refusedServiceEvents := noted.symm
  rw [same] at adds
  exact ⟨admissible.digits, wellFormed, adds⟩

end ScaffoldPlan

end ResourceScaffold
