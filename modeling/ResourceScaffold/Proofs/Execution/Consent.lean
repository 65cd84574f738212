import ResourceScaffold.Policy
import ResourceScaffold.Proofs.Apply.Account
import ResourceScaffold.Proofs.Execution.Untouched

/-!
Contract: that a run changes no file without consent.

Owns:
- what carrying out a plan leaves of the files, unless backups are made, however it ends;
- asking on record, and what a run may change after it.

Does not own: what becomes of files that may be changed.
-/

namespace ResourceScaffold

open FileTree

/-! ## Actions that maintain a property -/

namespace Action

variable {Error First Second Item : Type} {property : FileTree → Prop}

/-- An action after which a property of the files still holds, however it ends. -/
def Maintains (property : FileTree → Prop) (action : Action Error First) : Prop :=
  ∀ before, property before.files → property (action.final before).files

theorem OnlyLooks.maintains {action : Action Error First} (looks : action.OnlyLooks)
    (property : FileTree → Prop) : action.Maintains property := fun before holds => by
  rwa [(looks before).files]

theorem final_bind {action : Action Error First} {next : First → Action Error Second}
    {before : Session} (holds : property (action.final before).files)
    (rest : ∀ first, (next first).Maintains property) :
    property ((action >>= next).final before).files := by
  cases ran : action before with
  | ok first middle =>
      rw [final_of_ok ran] at holds
      rw [final, bind_of_ok ran]
      exact rest first middle holds
  | error error middle =>
      rw [final_of_error ran] at holds
      rwa [final_of_error (bind_of_error ran)]

theorem Maintains.bind {action : Action Error First} {next : First → Action Error Second}
    (maintains : action.Maintains property) (rest : ∀ first, (next first).Maintains property) :
    (action >>= next).Maintains property := fun before holds =>
  final_bind (maintains before holds) rest

theorem maintains_mapM {step : Item → Action Error First} {items : List Item}
    (maintains : ∀ item ∈ items, (step item).Maintains property) :
    (items.mapM step).Maintains property := by
  induction items with
  | nil => exact (onlyLooks_pure []).maintains property
  | cons item rest inductionHypothesis =>
      rw [List.forall_mem_cons] at maintains
      rw [List.mapM_cons]
      exact maintains.1.bind fun _ => (inductionHypothesis maintains.2).bind fun _ =>
        (onlyLooks_pure _).maintains property

end Action

open ResourceScaffold.Action

/-! ## Files that are there already -/

/-- A file is there by its path as soon as it is where the path leads, if the path can be used for a
file at all. -/
theorem FileTree.WellFormed.pathExists_of_contents {tree other : FileTree} {path : Path}
    {content old : ByteArray} (wellFormed : tree.WellFormed) (wellFormed' : other.WellFormed)
    (plain : path.IsPlain) (reads : other.readBytes path = .ok content)
    (found : tree.contents (tree.landing path) = some old) : tree.pathExists path = true := by
  rw [readBytes_eq_ok_iff, wellFormed'.status_eq_ok_iff plain] at reads
  obtain ⟨checked, fit, busy, -⟩ := reads
  rw [contents_eq_some_iff, landing, pathSegments_eq, landingFrom_plain plain] at found
  refine pathExists_iff.2 ⟨.file old, (wellFormed.status_eq_ok_iff plain).2
    ⟨checked, fit, fun idle => ?_, found⟩⟩
  cases busy idle

namespace ScaffoldPlan

variable {plan : ScaffoldPlan} {host : Host} {root : Path} {policy : OverwritePolicy}
  {file : GeneratedFile} {start : FileTree} {before : Session}

/-- A location is that of a file of the plan which is there already. -/
def Conflicting (plan : ScaffoldPlan) (root : Path) (tree : FileTree) (location : Location) : Prop :=
  ∃ path ∈ plan.conflicts tree root, tree.landingBelow root path = location

/-- A location is that of the aggregator, or that of a conflicting file under the policy that replaces
such files. -/
def GivesUp (plan : ScaffoldPlan) (root : Path) (policy : OverwritePolicy) (tree : FileTree)
    (location : Location) : Prop :=
  location = tree.landingBelow root plan.aggregator.path ∨
    policy = .force ∧ plan.Conflicting root tree location

/-- All files of a project are there with their contents, but those that a policy gives up. -/
structure Leaves (plan : ScaffoldPlan) (root : Path) (policy : OverwritePolicy)
    (start current : FileTree) : Prop where
  wellFormed : current.WellFormed
  sameStart : current.workingDirectory = start.workingDirectory
  kept : ∀ location content, start.contents location = some content →
    ¬plan.GivesUp root policy start location → current.contents location = some content

/-! ## Steps -/

/-- A write leaves the files, if it succeeds only where the policy gives up what is there. -/
theorem Leaves.writeText (leaves : plan.Leaves root policy start before.files) (host : Host)
    (path : Path) (content : String)
    (allowed : ∀ old after, start.contents (start.landing path) = some old →
      ResourceScaffold.writeText host path content before = .ok () after →
        plan.GivesUp root policy start (start.landing path)) :
    plan.Leaves root policy start
      ((ResourceScaffold.writeText host path content).final before).files := by
  cases ran : ResourceScaffold.writeText host path content before with
  | ok result after =>
      obtain ⟨valid, sameStart, changed⟩ := writeText_contents leaves.wellFormed ran
      rw [final_of_ok ran]
      refine ⟨valid, sameStart.trans leaves.sameStart, fun location old found stays => ?_⟩
      have elsewhere : location ≠ start.landing path := by
        rintro rfl
        exact stays (allowed old after found ran)
      rw [changed, landing_congr leaves.sameStart, Contents.write,
        Function.update_of_ne elsewhere]
      exact leaves.kept location old found stays
  | error failure after =>
      obtain ⟨valid, sameStart, same⟩ := writeText_error_contents leaves.wellFormed ran
      rw [final_of_error ran]
      refine ⟨valid, sameStart.trans leaves.sameStart, fun location old found stays => ?_⟩
      rw [same]
      exact leaves.kept location old found stays

theorem applyAggregator_maintains (plan : ScaffoldPlan) (host : Host) (root : Path)
    (policy : OverwritePolicy) (start : FileTree) :
    (plan.applyAggregator host root policy).Maintains (plan.Leaves root policy start) := by
  intro before leaves
  rcases applyAggregator_cases plan host root policy before with ⟨-, noted, same, -, step⟩ | ⟨-, step⟩
  · rwa [final_of_ok step, same]
  · have written := leaves.writeText host (root.join plan.aggregator.path) plan.aggregator.after
      fun _ _ _ _ => Or.inl rfl
    rw [final_congr step]
    exact final_bind written fun _ =>
      ((onlyLooks_note _).bind fun _ => onlyLooks_pure _).maintains _

/-- A step for a file replaces nothing but conflicting files, and these only under the policy that
does so. -/
theorem applyFile_maintains (host : Host) (wellFormed : start.WellFormed)
    (plain : (root.join file.path).IsPlain) (member : file ∈ plan.files) (noBackup : policy ≠ .backup)
    (clear : policy = .fail → plan.conflicts start root = []) :
    (applyFile host root policy file).Maintains (plan.Leaves root policy start) := by
  intro before leaves
  rcases applyFile_cases host root policy file before with
    ⟨outcome, noted, same, -, step⟩ | ⟨-, noted, same, -, step⟩ | ⟨outcome, -⟩
  · rw [final_congr step, writeGenerated]
    rw [← same] at leaves
    refine final_bind (leaves.writeText host _ _ fun old after found ran => ?_) fun _ =>
      ((onlyLooks_note _).bind fun _ => onlyLooks_pure _).maintains _
    obtain ⟨valid, -, reads, -, -⟩ := writeText_ok leaves.wellFormed plain ran
    have there := wellFormed.pathExists_of_contents valid plain reads found
    have conflicts : file.path ∈ plan.conflicts start root :=
      mem_conflicts_iff.2 ⟨⟨file, member, rfl⟩, there⟩
    by_contra stays
    -- The file is still there, so the policy must have allowed the write.
    have found' := leaves.kept _ old found stays
    rw [← landing_congr leaves.sameStart] at found'
    have there' := leaves.wellFormed.pathExists_of_contents valid plain reads found'
    rw [same] at there'
    cases policy with
    | fail =>
        rw [clear rfl] at conflicts
        cases conflicts
    | force => exact stays (Or.inr ⟨rfl, file.path, conflicts, rfl⟩)
    | skip =>
        rw [outcomeOf_eq_skipped_iff.2 ⟨rfl, there'⟩] at outcome
        cases outcome
    | backup => exact noBackup rfl
  · rwa [final_of_ok step, same]
  · exact absurd (outcomeOf_backup (FileOutcome.mem_backup?_iff.2 outcome)).1 noBackup

/-! ## Whole plans -/

/-- Carrying out a plan leaves all files that the policy does not give up, however it ends. -/
theorem apply_leaves (host : Host) (wellFormed : before.files.WellFormed) (plainRoot : root.IsPlain)
    (plain : ∀ file ∈ plan.files, file.path.IsPlain) (noBackup : policy ≠ .backup) :
    plan.Leaves root policy before.files ((plan.apply host root policy).final before).files := by
  have leaves : plan.Leaves root policy before.files before.files :=
    ⟨wellFormed, rfl, fun _ _ found _ => found⟩
  rcases apply_cases plan host root policy before with ⟨-, path, -, step⟩ | ⟨clear, step⟩
  · rwa [final_of_error step]
  · rw [final_congr step]
    have maintains := (applyAggregator_maintains plan host root policy before.files).bind
      fun aggregator => (maintains_mapM fun file member =>
        applyFile_maintains host wellFormed (plainRoot.join (plain file member)) member
          noBackup clear).bind fun reports =>
            (onlyLooks_pure (ScaffoldReport.mk aggregator reports)).maintains
              (plan.Leaves root policy before.files)
    exact maintains before leaves

/-- Carrying out a plan changes no file but the aggregator unless backups are made, or the file
conflicts and is to be replaced. -/
theorem apply_changed (host : Host) (policy : OverwritePolicy)
    (wellFormed : before.files.WellFormed) (plainRoot : root.IsPlain)
    (plain : ∀ file ∈ plan.files, file.path.IsPlain) {location : Location} {content : ByteArray}
    (found : before.files.contents location = some content)
    (different : location ≠ before.files.landingBelow root plan.aggregator.path)
    (changed : ((plan.apply host root policy).final before).files.contents location ≠
      some content) :
    policy = .backup ∨ policy = .force ∧ plan.Conflicting root before.files location := by
  by_contra stays
  rw [not_or] at stays
  have leaves := apply_leaves host wellFormed plainRoot plain stays.1
  refine changed (leaves.kept location content found ?_)
  rintro (isAggregator | conflicting)
  · exact different isAggregator
  · exact stays.2 conflicting

end ScaffoldPlan

/-! ## Asking -/

/-- Asks about files, and keeps them on record. -/
def recorded {Error : Type} (answer : List Path → Except Error Bool) (conflicts : List Path) :
    EStateM Error (List (List Path)) Bool := fun asked =>
  match answer conflicts with
  | .ok consents => .ok consents (asked ++ [conflicts])
  | .error error => .error error (asked ++ [conflicts])

/-- What was asked, and the session in the end. -/
structure Consultation where
  asked : List (List Path)
  session : Session

namespace ScaffoldPlan

variable {Error : Type} {plan : ScaffoldPlan} {host : Host} {root : Path} {choice : ConflictChoice}
  {answer : List Path → Except Error Bool} {before : Session}

/-- Finds the policy for a choice, asking if need be, and carries a plan out under it. Without a policy
nothing is done. -/
def consult (plan : ScaffoldPlan) (host : Host) (root : Path) (choice : ConflictChoice)
    (answer : List Path → Except Error Bool) (before : Session) : Consultation :=
  match resolvePolicy choice (plan.conflicts before.files root) (recorded answer) [] with
  | .ok (some policy) asked => ⟨asked, (plan.apply host root policy).final before⟩
  | .ok none asked => ⟨asked, before⟩
  | .error _ asked => ⟨asked, before⟩

theorem consult_of_policy? {policy : OverwritePolicy} (direct : choice.policy? = some policy) :
    plan.consult host root choice answer before =
      ⟨[], (plan.apply host root policy).final before⟩ := by
  rw [consult, resolvePolicy_of_policy? _ _ direct]
  rfl

theorem consult_of_clear (clear : plan.conflicts before.files root = []) :
    plan.consult host root .ask answer before =
      ⟨[], (plan.apply host root .force).final before⟩ := by
  rw [consult, clear]
  rfl

/-- If there are conflicting files, they are asked about once, and only consent lets the plan be
carried out. -/
theorem consult_of_conflicts (conflicting : plan.conflicts before.files root ≠ []) :
    plan.consult host root .ask answer before =
      ⟨[plan.conflicts before.files root],
        match answer (plan.conflicts before.files root) with
        | .ok true => (plan.apply host root .force).final before
        | _ => before⟩ := by
  have asks : resolvePolicy .ask (plan.conflicts before.files root) (recorded answer) =
      recorded answer (plan.conflicts before.files root) >>= fun consents =>
        pure (if consents then some .force else none) := by
    rw [resolvePolicy, ConflictChoice.policy?]
    simp only [List.isEmpty_iff, conflicting, ↓reduceIte]
  have ran : (recorded answer (plan.conflicts before.files root) >>= fun consents =>
      (pure (if consents then some .force else none) :
        EStateM Error (List (List Path)) (Option OverwritePolicy))) [] =
      match answer (plan.conflicts before.files root) with
      | .ok consents =>
          .ok (if consents then some .force else none) [plan.conflicts before.files root]
      | .error error => .error error [plan.conflicts before.files root] := by
    change EStateM.bind _ _ [] = _
    rw [EStateM.bind, recorded]
    cases answer (plan.conflicts before.files root) <;> rfl
  rw [consult, asks, ran]
  rcases answer (plan.conflicts before.files root) with error | ⟨- | -⟩ <;> rfl

/-- A file other than the aggregator is changed or removed only if the choice says so, or if the user
was asked once, about this file among all conflicting ones, and consented. Nothing is asked if no file
conflicts. -/
theorem consult_changes_only (plan : ScaffoldPlan) (host : Host) (root : Path)
    (choice : ConflictChoice) (answer : List Path → Except Error Bool) (before : Session)
    (wellFormed : before.files.WellFormed) (plainRoot : root.IsPlain)
    (plain : ∀ file ∈ plan.files, file.path.IsPlain) :
    (∀ location content, before.files.contents location = some content →
      location ≠ before.files.landingBelow root plan.aggregator.path →
      (plan.consult host root choice answer before).session.files.contents location ≠
          some content →
        choice = .force ∨ choice = .backup ∨
          choice = .ask ∧ answer (plan.conflicts before.files root) = .ok true ∧
            (plan.consult host root choice answer before).asked =
              [plan.conflicts before.files root] ∧
            ∃ path ∈ plan.conflicts before.files root,
              before.files.landingBelow root path = location) ∧
      (plan.conflicts before.files root = [] →
        (plan.consult host root choice answer before).asked = []) := by
  cases direct : choice.policy? with
  | some policy =>
      rw [consult_of_policy? direct]
      refine ⟨fun location content found different changed => ?_, fun _ => rfl⟩
      rcases apply_changed host policy wellFormed plainRoot plain found different changed with
        backs | ⟨replaces, -⟩
      · rw [backs] at direct
        cases choice <;> cases direct
        exact Or.inr (Or.inl rfl)
      · rw [replaces] at direct
        cases choice <;> cases direct
        exact Or.inl rfl
  | none =>
      obtain rfl : choice = .ask := by
        cases choice <;> cases direct
        rfl
      by_cases clear : plan.conflicts before.files root = []
      · rw [consult_of_clear clear]
        refine ⟨fun location content found different changed => ?_, fun _ => rfl⟩
        rcases apply_changed host .force wellFormed plainRoot plain found different changed with
          backs | ⟨-, path, member, -⟩
        · cases backs
        · rw [clear] at member
          cases member
      · rw [consult_of_conflicts clear]
        refine ⟨fun location content found different changed => ?_, fun none => absurd none clear⟩
        rcases consent : answer (plan.conflicts before.files root) with error | ⟨- | -⟩
        · rw [consent] at changed
          exact absurd found changed
        · rw [consent] at changed
          exact absurd found changed
        · rw [consent] at changed
          rcases apply_changed host .force wellFormed plainRoot plain found different changed with
            backs | ⟨-, conflicting⟩
          · cases backs
          · exact Or.inr (Or.inr ⟨rfl, rfl, rfl, conflicting⟩)

/-- The older service is replaced, and the user was asked about it. -/
theorem consult_changes_only_orders :
    (orderPlan.consult (orderHost fun _ _ => none) ⟨"app"⟩ .ask
        (fun _ => (.ok true : Except Failure Bool)) orderProject).session.files.contents
          ["work", "app", "OrderService.ts"] ≠ some "old service\n".toUTF8 ∧
      (orderPlan.consult (orderHost fun _ _ => none) ⟨"app"⟩ .ask
        (fun _ => (.ok true : Except Failure Bool)) orderProject).asked =
          [orderPlan.conflicts orderProject.files ⟨"app"⟩] := by
  have changed : (orderPlan.consult (orderHost fun _ _ => none) ⟨"app"⟩ .ask
      (fun _ => (.ok true : Except Failure Bool)) orderProject).session.files.contents
        ["work", "app", "OrderService.ts"] ≠ some "old service\n".toUTF8 := by
    decide +kernel
  have admissible := orderPlan_admissible (fun _ _ => none) .force
  refine ⟨changed, ?_⟩
  rcases (consult_changes_only orderPlan (orderHost fun _ _ => none) ⟨"app"⟩ .ask
      (fun _ => (.ok true : Except Failure Bool)) orderProject admissible.wellFormed
      admissible.plainRoot (List.forall_mem_map.1 (List.forall_mem_cons.1 admissible.plain).2)).1
      ["work", "app", "OrderService.ts"] _ (by decide +kernel) (by decide +kernel) changed with
    chosen | chosen | ⟨-, -, asked, -⟩
  · cases chosen
  · cases chosen
  · exact asked

end ScaffoldPlan

end ResourceScaffold
