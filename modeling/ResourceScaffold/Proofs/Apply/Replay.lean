import ResourceScaffold.Proofs.Apply.Backup
import ResourceScaffold.Proofs.Apply.Task
import ResourceScaffold.Proofs.FileTree.Contents

/-!
Contract: what the tasks of a plan make of the contents of files, one after the other.

Owns:
- the change that a task makes, wherever its places are;
- what becomes of a file that no task is about, of one that is written and of one that is moved
  aside.

Does not own: that carrying out a plan makes these changes. The places of tasks may lie within each
other.
-/

namespace ResourceScaffold

open FileTree

variable {place : Path → Location} {contents before middle after : Contents} {task : Task}
  {tasks : List Task} {source target front : Location} {word name : String} {content : ByteArray}

/-! ## Places of backups -/

/-- A place next to another one, under the name of a backup of it. -/
def IsAside (source target : Location) : Prop :=
  ∃ front word time, source = front ++ [word] ∧ target = front ++ [backupName word time] ∧
    ∀ character ∈ time.toList, character.isDigit = true

theorem backupName_ne (word time : String) : word ≠ backupName word time := by
  intro same
  have lengths := congrArg (fun text : String => text.toList.length) same
  simp [backupName_toList] at lengths

theorem apart_of_ne {first second : String} (different : first ≠ second) (front : Location) :
    Apart (front ++ [first]) (front ++ [second]) := by
  have unequal {one other : String} (differ : one ≠ other) : ¬front ++ [one] <+: front ++ [other] := by
    intro leads
    rw [List.prefix_append_right_inj, List.cons_prefix_cons] at leads
    exact differ leads.1
  exact ⟨unequal different, unequal different.symm⟩

theorem IsAside.apart (aside : IsAside source target) : Apart source target := by
  obtain ⟨front, word, time, rfl, rfl, -⟩ := aside
  exact apart_of_ne (backupName_ne word time) front

theorem IsAside.inj {source' : Location} (aside : IsAside source target)
    (aside' : IsAside source' target) : source = source' := by
  obtain ⟨front, word, time, rfl, rfl, digits⟩ := aside
  obtain ⟨front', word', time', rfl, same, digits'⟩ := aside'
  obtain ⟨rfl, names⟩ := List.append_inj' same rfl
  rw [backupName_inj digits digits' (List.singleton_inj.1 names)]

/-! ## Single tasks -/

/-- What moving aside needs: nothing lies below the backup, and it is a file only if a file is
moved. -/
structure FileTree.Contents.Admits (contents : Contents) (source target : Location) : Prop where
  childless : ∀ rest, rest ≠ [] → contents (target ++ rest) = none
  file : contents target ≠ none → contents source ≠ none

/-- What a task makes of the contents of files. -/
inductive Task.Changes (place : Path → Location) (contents : Contents) : Task → Contents → Prop
  | skipped {path : Path} {text : String} :
      Task.Changes place contents ⟨path, text, .skipped⟩ contents
  | written {path : Path} {text : String} :
      Task.Changes place contents ⟨path, text, .written⟩
        (contents.write (place path) text.toUTF8)
  | backedUp {path backup : Path} {text : String} (aside : IsAside (place path) (place backup))
      (admits : contents.Admits (place path) (place backup)) :
      Task.Changes place contents ⟨path, text, .backedUp backup⟩
        ((contents.moved (place path) (place backup)).write (place path) text.toUTF8)

def Task.targets (place : Path → Location) (task : Task) : List Location :=
  match task.outcome with
  | .skipped => []
  | .written => [place task.path]
  | .backedUp backup => [place task.path, place backup]

theorem Task.place_mem_targets (task : Task) (writes : task.outcome ≠ .skipped) :
    place task.path ∈ task.targets place := by
  rw [targets]
  split
  · exact absurd ‹_› writes
  · exact List.mem_singleton_self _
  · exact List.mem_cons_self

theorem Task.backup_mem_targets (task : Task) {backup : Path}
    (backsUp : task.outcome = .backedUp backup) : place backup ∈ task.targets place := by
  rw [targets, backsUp]
  exact List.mem_cons_of_mem _ List.mem_cons_self

/-- A task moves a directory aside, or what lies on the way to it. -/
def Task.Displaces (place : Path → Location) (task : Task) (directory : Location) : Prop :=
  (∃ backup, task.outcome = .backedUp backup) ∧ place task.path <+: directory

/-- There is a file where a directory would have to be, or on the way to it. -/
def FileTree.Contents.Blocks (contents : Contents) (directory : Location) : Prop :=
  ∃ outer, outer <+: directory ∧ contents outer ≠ none

/-- A file in a directory that is blocked is not there. -/
theorem FileTree.Contents.Valid.none_of_blocks (valid : contents.Valid)
    (blocks : contents.Blocks front) (name : String) : contents (front ++ [name]) = none := by
  obtain ⟨outer, leads, found⟩ := blocks
  by_contra there
  have same := valid outer _ (leads.trans (List.prefix_append _ _)) found there
  have lengths := leads.length_le
  rw [same, List.length_append, List.length_singleton] at lengths
  omega

/-- What a file in a directory shows of the directory after a task: all of it that the task is not
about is as it was, or the directory was moved aside and cannot be there any more. -/
theorem Task.Changes.kept (changes : task.Changes place before after)
    (found : before (front ++ [name]) = some content)
    (outside : front ++ [name] ∉ task.targets place) :
    (∀ other, front ++ [other] ∉ task.targets place →
        after (front ++ [other]) = before (front ++ [other])) ∨
      task.Displaces place front ∧ after.Blocks front := by
  cases changes with
  | skipped => exact Or.inl fun _ _ => rfl
  | written =>
      refine Or.inl fun other elsewhere => Function.update_of_ne (fun same => elsewhere ?_) _ _
      exact List.mem_singleton.2 same
  | @backedUp path backup text aside admits =>
      by_cases leads : place path <+: front
      · refine Or.inr ⟨⟨⟨backup, rfl⟩, leads⟩, place path, leads, ?_⟩
        rw [Contents.write, Function.update_self]
        exact Option.some_ne_none _
      · left
        intro other elsewhere
        rw [targets, List.mem_cons, List.mem_singleton, not_or] at elsewhere outside
        have notSource : ¬place path <+: front ++ [other] := fun within =>
          (List.prefix_concat_iff.1 within).elim (fun same => elsewhere.1 same.symm) leads
        have notTarget : ¬place backup <+: front ++ [other] := by
          intro within
          rcases List.prefix_concat_iff.1 within with same | ⟨rest, rfl⟩
          · exact elsewhere.2 same.symm
          · -- The backup would lie above the file, but nothing lies below it.
            rw [List.append_assoc, admits.childless (rest ++ [name]) (by simp)] at found
            cases found
        rw [Contents.write, Function.update_of_ne elsewhere.1, Contents.moved, if_neg notTarget,
          if_neg notSource]

theorem Task.Changes.blocks (changes : task.Changes place before after)
    (blocks : before.Blocks front) : after.Blocks front := by
  obtain ⟨outer, leads, found⟩ := blocks
  cases changes with
  | skipped => exact ⟨outer, leads, found⟩
  | @written path text =>
      refine ⟨outer, leads, ?_⟩
      by_cases same : outer = place path
      · rw [same, Contents.write, Function.update_self]
        exact Option.some_ne_none _
      · rwa [Contents.write, Function.update_of_ne same]
  | @backedUp path backup text aside admits =>
      have written : ((before.moved (place path) (place backup)).write (place path) text.toUTF8)
          (place path) ≠ none := by
        rw [Contents.write, Function.update_self]
        exact Option.some_ne_none _
      by_cases below : place path <+: outer
      · exact ⟨place path, below.trans leads, written⟩
      · refine ⟨outer, leads, ?_⟩
        have elsewhere : outer ≠ place path := fun same => below (same ▸ List.prefix_rfl)
        rw [Contents.write, Function.update_of_ne elsewhere, Contents.moved]
        by_cases within : place backup <+: outer
        · obtain ⟨rest, rfl⟩ := within
          by_cases empty : rest = []
          · rw [empty, List.append_nil] at found ⊢
            rw [if_pos List.prefix_rfl, List.drop_length, List.append_nil]
            exact admits.file found
          · exact absurd (admits.childless rest empty) found
        · rwa [if_neg within, if_neg below]

theorem Task.Changes.path_eq (changes : task.Changes place before after)
    (writes : task.outcome ≠ .skipped) : after (place task.path) = some task.content.toUTF8 := by
  cases changes with
  | skipped => exact absurd rfl writes
  | written => exact Function.update_self _ _ _
  | backedUp => exact Function.update_self _ _ _

theorem Task.Changes.backup_eq (changes : task.Changes place before after) {backup : Path}
    (backsUp : task.outcome = .backedUp backup) :
    after (place backup) = before (place task.path) ∧
      (before (place backup) ≠ none → before (place task.path) ≠ none) := by
  cases changes with
  | skipped => cases backsUp
  | written => cases backsUp
  | @backedUp path backup' text aside admits =>
      cases backsUp
      have different : place backup ≠ place path := fun same =>
        aside.apart.1 (same ▸ List.prefix_rfl)
      refine ⟨?_, admits.file⟩
      rw [Contents.write, Function.update_of_ne different, Contents.moved, if_pos List.prefix_rfl,
        List.drop_length, List.append_nil]

/-! ## One task after the other -/

/-- What tasks make of the contents of files, one after the other. -/
inductive Replay (place : Path → Location) : Contents → List Task → Contents → Prop
  | nil {contents : Contents} : Replay place contents [] contents
  | cons {before middle after : Contents} {task : Task} {tasks : List Task}
      (first : task.Changes place before middle) (others : Replay place middle tasks after) :
      Replay place before (task :: tasks) after

namespace Replay

theorem append_iff {earlier later : List Task} :
    Replay place before (earlier ++ later) after ↔
      ∃ middle, Replay place before earlier middle ∧ Replay place middle later after := by
  induction earlier generalizing before with
  | nil =>
      constructor
      · exact fun replay => ⟨before, .nil, replay⟩
      · rintro ⟨_, ⟨⟩, replay⟩
        exact replay
  | cons task rest inductionHypothesis =>
      constructor
      · rintro (_ | ⟨first, others⟩)
        obtain ⟨middle, front, back⟩ := inductionHypothesis.1 others
        exact ⟨middle, .cons first front, back⟩
      · rintro ⟨middle, _ | ⟨first, others⟩, back⟩
        exact .cons first (inductionHypothesis.2 ⟨middle, others, back⟩)

theorem blocks (replay : Replay place before tasks after) (blocked : before.Blocks front) :
    after.Blocks front := by
  induction replay with
  | nil => exact blocked
  | cons first _ inductionHypothesis => exact inductionHypothesis (first.blocks blocked)

/-- What a file that no task is about shows of its directory: all of it that no task is about is as it
was, or the directory was moved aside and cannot be there any more. -/
theorem kept (replay : Replay place before tasks after)
    (found : before (front ++ [name]) = some content)
    (outside : ∀ task ∈ tasks, front ++ [name] ∉ task.targets place) :
    (∀ other, (∀ task ∈ tasks, front ++ [other] ∉ task.targets place) →
        after (front ++ [other]) = before (front ++ [other])) ∨
      (∃ task ∈ tasks, task.Displaces place front) ∧ after.Blocks front := by
  induction replay with
  | nil => exact Or.inl fun _ _ => rfl
  | @cons before middle after task tasks first others inductionHypothesis =>
      rw [List.forall_mem_cons] at outside
      rcases first.kept found outside.1 with same | ⟨displaces, blocked⟩
      · rw [← same name outside.1] at found
        refine (inductionHypothesis found outside.2).imp (fun same' other elsewhere => ?_)
          (And.imp_left fun ⟨task, member, displaces⟩ =>
            ⟨task, List.mem_cons_of_mem _ member, displaces⟩)
        rw [List.forall_mem_cons] at elsewhere
        rw [same' other elsewhere.2, same other elsewhere.1]
      · exact Or.inr ⟨⟨task, List.mem_cons_self, displaces⟩, others.blocks blocked⟩

/-- A directory that a task moved aside cannot be there any more. -/
theorem blocks_of_displaces (replay : Replay place before tasks after) (member : task ∈ tasks)
    (displaces : task.Displaces place front) : after.Blocks front := by
  induction replay with
  | nil => cases member
  | cons first others inductionHypothesis =>
      rcases List.mem_cons.1 member with rfl | later
      · obtain ⟨⟨backup, backsUp⟩, leads⟩ := displaces
        refine others.blocks ⟨_, leads, ?_⟩
        rw [first.path_eq (by simp [backsUp])]
        exact Option.some_ne_none _
      · exact inductionHypothesis later

theorem aside (replay : Replay place before tasks after) (member : task ∈ tasks) {backup : Path}
    (backsUp : task.outcome = .backedUp backup) : IsAside (place task.path) (place backup) := by
  induction replay with
  | nil => cases member
  | cons first _ inductionHypothesis =>
      rcases List.mem_cons.1 member with rfl | later
      · cases first <;> cases backsUp
        assumption
      · exact inductionHypothesis later

end Replay

/-! ## Tasks about different files -/

/-- Tasks that are about different files, none of which is named as a backup is. -/
structure Distinct (place : Path → Location) (tasks : List Task) : Prop where
  different : tasks.Pairwise fun first second => place first.path ≠ place second.path
  noBackup : ∀ task ∈ tasks, ∀ front word time, place task.path ≠ front ++ [backupName word time]

namespace Distinct

variable {earlier later : List Task} {other : Task} {backup : Path}

theorem path_ne (distinct : Distinct place (earlier ++ task :: later))
    (member : other ∈ earlier ++ later) : place task.path ≠ place other.path :=
  List.rel_of_pairwise_cons
    ((List.pairwise_middle fun {_ _} different => Ne.symm different).1 distinct.different) member

theorem eq_of_place_eq (distinct : Distinct place tasks) (member : task ∈ tasks)
    (member' : other ∈ tasks) (same : place task.path = place other.path) : task = other := by
  obtain ⟨earlier, later, rfl⟩ := List.append_of_mem member
  rcases List.mem_append.1 member' with isEarlier | isLater
  · exact absurd same (distinct.path_ne (List.mem_append_left _ isEarlier))
  · rcases List.mem_cons.1 isLater with rfl | isLater
    · rfl
    · exact absurd same (distinct.path_ne (List.mem_append_right _ isLater))

theorem path_ne_backup (distinct : Distinct place tasks) (member : task ∈ tasks)
    (aside : IsAside source target) : place task.path ≠ target := by
  obtain ⟨front, word, time, -, rfl, -⟩ := aside
  exact distinct.noBackup task member front word time

/-- No other task is about the file of a task. -/
theorem path_notMem (distinct : Distinct place (earlier ++ task :: later))
    (replay : Replay place before (earlier ++ task :: later) after)
    (member : other ∈ earlier ++ later) : place task.path ∉ other.targets place := by
  have different := distinct.path_ne member
  have isTask : task ∈ earlier ++ task :: later := by simp
  have isOther := ((List.sublist_cons_self task later).append_left earlier).subset member
  rw [Task.targets]
  split
  · exact List.not_mem_nil
  · simpa using different
  · rename_i backup backsUp
    simpa using ⟨different, distinct.path_ne_backup isTask (replay.aside isOther backsUp)⟩

/-- No other task is about the backup of a task. -/
theorem backup_notMem (distinct : Distinct place (earlier ++ task :: later))
    (replay : Replay place before (earlier ++ task :: later) after)
    (backsUp : task.outcome = .backedUp backup) (member : other ∈ earlier ++ later) :
    place backup ∉ other.targets place := by
  have isTask : task ∈ earlier ++ task :: later := by simp
  have isOther := ((List.sublist_cons_self task later).append_left earlier).subset member
  have aside := replay.aside isTask backsUp
  have different : place backup ≠ place other.path := (distinct.path_ne_backup isOther aside).symm
  rw [Task.targets]
  split
  · exact List.not_mem_nil
  · simpa using different
  · rename_i backup' backsUp'
    refine fun mem => ?_
    rw [List.mem_cons, List.mem_singleton] at mem
    rcases mem with same | same
    · exact different same
    · rw [same] at aside
      exact distinct.path_ne member (aside.inj (replay.aside isOther backsUp'))

end Distinct

/-! ## What becomes of the files of tasks -/

namespace Replay

variable (replay : Replay place before tasks after) (distinct : Distinct place tasks)
  (member : task ∈ tasks)

include replay distinct member

/-- What a task writes stands at its place in the end, unless the directory was moved aside. -/
theorem path_eq (writes : task.outcome ≠ .skipped) (here : place task.path = front ++ [name]) :
    after (place task.path) = some task.content.toUTF8 ∨
      (∃ other ∈ tasks, other.Displaces place front) ∧ after.Blocks front := by
  obtain ⟨earlier, later, rfl⟩ := List.append_of_mem member
  obtain ⟨_, -, _ | ⟨first, others⟩⟩ := append_iff.1 replay
  have outside (other : Task) (isOther : other ∈ later) : front ++ [name] ∉ other.targets place := by
    rw [← here]
    exact distinct.path_notMem replay (List.mem_append_right _ isOther)
  have written := first.path_eq writes
  rw [here] at written ⊢
  refine (others.kept written outside).imp (fun same => (same name outside).trans written)
    (And.imp_left fun ⟨other, isOther, displaces⟩ => ⟨other, ?_, displaces⟩)
  exact List.mem_append_right _ (List.mem_cons_of_mem _ isOther)

/-- If there was a file at the place of a task or of its backup, then what was at the place of the
task is at that of the backup in the end, unless the directory was moved aside. -/
theorem backup_eq {backup : Path} (backsUp : task.outcome = .backedUp backup)
    (here : place task.path = front ++ [word]) (there : place backup = front ++ [name])
    (found : before (place task.path) = some content ∨ before (place backup) = some content) :
    before (place task.path) ≠ none ∧ after (place backup) = before (place task.path) ∨
      (∃ other ∈ tasks, other.Displaces place front) ∧ after.Blocks front := by
  obtain ⟨earlier, later, rfl⟩ := List.append_of_mem member
  obtain ⟨middle, first, _ | ⟨moves, last⟩⟩ := append_iff.1 replay
  have outside (other : Task) (isOther : other ∈ earlier ++ later) :
      front ++ [word] ∉ other.targets place ∧ front ++ [name] ∉ other.targets place := by
    rw [← here, ← there]
    exact ⟨distinct.path_notMem replay isOther, distinct.backup_notMem replay backsUp isOther⟩
  have outside' (other : Task) (isEarlier : other ∈ earlier) :=
    outside other (List.mem_append_left _ isEarlier)
  -- The file and its backup lie in one directory, so a file at one of them tells about both.
  have both : middle (place task.path) = before (place task.path) ∧
        middle (place backup) = before (place backup) ∨
      (∃ other ∈ earlier, other.Displaces place front) ∧ middle.Blocks front := by
    rw [here, there] at found ⊢
    have same (keeps : ∀ other, (∀ task ∈ earlier, front ++ [other] ∉ task.targets place) →
        middle (front ++ [other]) = before (front ++ [other])) :=
      And.intro (keeps word fun other isEarlier => (outside' other isEarlier).1)
        (keeps name fun other isEarlier => (outside' other isEarlier).2)
    rcases found with found | found
    · exact (first.kept found fun other isEarlier => (outside' other isEarlier).1).imp_left same
    · exact (first.kept found fun other isEarlier => (outside' other isEarlier).2).imp_left same
  rcases both with ⟨samePath, sameBackup⟩ | ⟨⟨other, isEarlier, displaces⟩, blocked⟩
  · obtain ⟨moved, needed⟩ := moves.backup_eq backsUp
    rw [samePath, sameBackup] at needed
    have occupied : before (place task.path) ≠ none := by
      rcases found with found | found
      · simp [found]
      · exact needed (by simp [found])
    obtain ⟨old, isOld⟩ := Option.ne_none_iff_exists'.1 occupied
    rw [samePath, isOld, there] at moved
    rcases last.kept moved fun other isLater => (outside other (List.mem_append_right _ isLater)).2
      with same | ⟨⟨other, isLater, displaces⟩, blocked⟩
    · left
      rw [isOld, there, ← moved]
      refine ⟨by simp [moved],
        same name fun other isLater => (outside other (List.mem_append_right _ isLater)).2⟩
    · exact Or.inr ⟨⟨other, by simp [isLater], displaces⟩, blocked⟩
  · exact Or.inr ⟨⟨other, List.mem_append_left _ isEarlier, displaces⟩,
      last.blocks (moves.blocks blocked)⟩

end Replay

/-- What became of a file that was there before tasks were carried out: its directory was moved aside,
a task wrote it anew, a backup was put in its place, or no task was about it. -/
inductive Fate (place : Path → Location) (before : Contents) (tasks : List Task) (after : Contents)
    (front : Location) (name : String) : Prop
  | displaced (moved : ∃ task ∈ tasks, task.Displaces place front)
  | written (task : Task) (member : task ∈ tasks) (writes : task.outcome ≠ .skipped)
      (here : place task.path = front ++ [name])
      (same : after (front ++ [name]) = some task.content.toUTF8)
  | replaced (task : Task) (backup : Path) (member : task ∈ tasks)
      (backsUp : task.outcome = .backedUp backup) (here : place backup = front ++ [name])
      (same : after (front ++ [name]) = before (place task.path))
  | kept (outside : ∀ task ∈ tasks, front ++ [name] ∉ task.targets place)
      (same : after (front ++ [name]) = before (front ++ [name]))

theorem Replay.fate (replay : Replay place before tasks after) (distinct : Distinct place tasks)
    (found : before (front ++ [name]) = some content) :
    Fate place before tasks after front name := by
  by_cases outside : ∀ task ∈ tasks, front ++ [name] ∉ task.targets place
  · rcases replay.kept found outside with same | ⟨moved, -⟩
    · exact .kept outside (same name outside)
    · exact .displaced moved
  · push Not at outside
    obtain ⟨task, member, isTarget⟩ := outside
    have written (writes : task.outcome ≠ .skipped) (here : place task.path = front ++ [name]) :
        Fate place before tasks after front name := by
      rcases replay.path_eq distinct member writes here with same | ⟨moved, -⟩
      · exact .written task member writes here (here ▸ same)
      · exact .displaced moved
    cases outcome : task.outcome with
    | skipped =>
        rw [Task.targets, outcome] at isTarget
        cases isTarget
    | written =>
        rw [Task.targets, outcome, List.mem_singleton] at isTarget
        exact written (by simp [outcome]) isTarget.symm
    | backedUp backup =>
        rw [Task.targets, outcome, List.mem_cons, List.mem_singleton] at isTarget
        rcases isTarget with here | there
        · exact written (by simp [outcome]) here.symm
        · obtain ⟨front', word, time, here, isBackup, -⟩ := replay.aside member outcome
          obtain ⟨rfl, names⟩ := List.append_inj' (there.trans isBackup) rfl
          rw [there] at found
          rcases replay.backup_eq distinct member outcome here isBackup (Or.inr found) with
            ⟨-, same⟩ | ⟨moved, -⟩
          · exact .replaced task backup member outcome there.symm (there ▸ same)
          · exact .displaced moved

end ResourceScaffold
