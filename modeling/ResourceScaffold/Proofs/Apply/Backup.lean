import ResourceScaffold.Apply
import ResourceScaffold.Moment
import ResourceScaffold.Proofs.FileTree.Frame

/-!
Contract: where files are moved to when they are backed up.

Owns:
- clocks that show digits;
- the place of a backup, next to the place of what is backed up;
- that different files get different backups.

Does not own: when a file is backed up.
-/

namespace ResourceScaffold

open FileTree Text

/-! ## Times in digits -/

def Host.ShowsDigits (host : Host) : Prop :=
  ∀ count, ∀ character ∈ (host.clock count).toList, character.isDigit = true

theorem padded_digits {width number : Nat} {character : Char}
    (member : character ∈ (padded width number).toList) : character.isDigit = true := by
  rw [padded, String.toList_append, String.toList_ofList, List.mem_append] at member
  rcases member with zero | digit
  · rw [List.eq_of_mem_replicate zero]
    decide
  · rw [Nat.toString_eq_repr, Nat.toList_repr] at digit
    exact Nat.isDigit_of_mem_toDigits (by decide) (by decide) digit

/-- A moment is written in digits, as a clock shows it. -/
theorem Moment.stamp_digits {moment : Moment} {character : Char}
    (member : character ∈ moment.stamp.toList) : character.isDigit = true := by
  simp only [stamp, String.toList_append, List.mem_append] at member
  rcases member with (((((digit | digit) | digit) | digit) | digit) | digit) | digit <;>
    exact padded_digits digit

theorem Host.showsDigits_of_moments {host : Host}
    (moments : ∀ count, ∃ moment : Moment, host.clock count = moment.stamp) : host.ShowsDigits := by
  intro count character member
  obtain ⟨moment, shown⟩ := moments count
  rw [shown] at member
  exact Moment.stamp_digits member

/-! ## Names of backups -/

/-- The name that a file with a name gets when it is backed up at a time. -/
def backupName (word time : String) : String :=
  word ++ "." ++ time ++ ".bak"

theorem backupName_toList (word time : String) :
    (backupName word time).toList = word.toList ++ '.' :: (time.toList ++ ".bak".toList) := by
  simp [backupName]

theorem backupName_inj {word word' time time' : String}
    (digits : ∀ character ∈ time.toList, character.isDigit = true)
    (digits' : ∀ character ∈ time'.toList, character.isDigit = true)
    (same : backupName word time = backupName word' time') : word = word' := by
  have chars := congrArg String.toList same
  rw [backupName_toList, backupName_toList] at chars
  have dotless {text : List Char} (digits : ∀ character ∈ text, character.isDigit = true) :
      '.' ∉ text := fun member => absurd (digits '.' member) (by decide)
  have cut : word.toList ++ '.' :: time.toList = word'.toList ++ '.' :: time'.toList := by
    have regrouped : (word.toList ++ '.' :: time.toList) ++ ".bak".toList =
        (word'.toList ++ '.' :: time'.toList) ++ ".bak".toList := by
      simpa using chars
    exact List.append_cancel_right regrouped
  -- The time is the last piece between dots, on both sides.
  have pieces := congrArg (splitOn '.') cut
  rw [splitOn_append, splitOn_append, splitOn_of_notMem (dotless digits),
    splitOn_of_notMem (dotless digits')] at pieces
  obtain ⟨-, times⟩ := List.append_inj' pieces rfl
  rw [List.singleton_inj] at times
  rw [times] at cut
  exact String.toList_inj.1 (List.append_cancel_right cut)

theorem backupName_isName {word time : String} (whole : '/' ∉ word.toList)
    (digits : ∀ character ∈ time.toList, character.isDigit = true) :
    '/' ∉ (backupName word time).toList ∧ Path.isIdle (backupName word time).toList = false ∧
      (backupName word time).toList ≠ ['.', '.'] := by
  have inTime : '/' ∉ time.toList := fun member => absurd (digits '/' member) (by decide)
  have final : (backupName word time).toList.getLast? = some 'k' := by
    rw [backupName, String.toList_append, List.getLast?_append_of_ne_nil _ (by decide)]
    rfl
  refine ⟨?_, ?_, ?_⟩
  · rw [backupName_toList]
    simp [whole, inTime]
  · rw [Path.isIdle, Bool.or_eq_false_iff, List.isEmpty_eq_false_iff, decide_eq_false_iff_not]
    exact ⟨fun empty => by simp [empty] at final, fun dot => by simp [dot] at final⟩
  · intro dots
    simp [dots] at final

/-! ## Places of backups -/

variable {tree : FileTree} {root path : Path} {time : String}

theorem place_join_of_relative (tree : FileTree) (root : Path) (relative : path.isAbsolute = false) :
    tree.place (root.join path) = tree.place root ++ path.names.map String.ofList := by
  rw [place, within, startOf, Path.isAbsolute_join_of_relative root relative, ← Path.names,
    Path.names_join_of_relative root relative, List.map_append, ← List.append_assoc]
  rfl

theorem place_join_name (tree : FileTree) (root : Path) {name : String} (whole : '/' ∉ name.toList)
    (busy : Path.isIdle name.toList = false) :
    tree.place (root.join ⟨name⟩) = tree.place root ++ [name] := by
  rw [place_join_of_relative tree root (Path.isAbsolute_of_notMem whole),
    Path.names_of_isIdle whole busy, List.map_singleton, String.ofList_toList]

theorem place_join (tree : FileTree) (root path : Path) :
    ∃ front, ∀ other : Path, other.isAbsolute = path.isAbsolute →
      tree.place (root.join other) = front ++ other.names.map String.ofList := by
  by_cases absolute : path.isAbsolute = true
  · refine ⟨[], fun other same => ?_⟩
    rw [absolute] at same
    rw [Path.join_of_isAbsolute root same, place, within, startOf, if_pos same]
    rfl
  · refine ⟨tree.place root, fun other same => ?_⟩
    have relative : other.isAbsolute = false := by
      rw [same]
      simpa using absolute
    exact place_join_of_relative tree root relative

/-- The path of a backup is as plain as the path that is backed up, and ends in a name. -/
theorem backupPath_spec (plain : path.IsPlain)
    (digits : ∀ character ∈ time.toList, character.isDigit = true) :
    (backupPath path time).names =
        path.names.dropLast ++ [(backupName (path.fileName?.getD "") time).toList] ∧
      (backupPath path time).isAbsolute = path.isAbsolute ∧ (backupPath path time).IsPlain ∧
      Path.endsIdle (backupPath path time).segments = false := by
  have whole : '/' ∉ (path.fileName?.getD "").toList := by
    rw [Path.fileName?_eq plain]
    cases last : path.names.getLast? with
    | none => simp
    | some segment =>
        rw [Option.map_some, Option.getD_some, String.toList_ofList]
        exact Path.notMem_of_mem_segments
          (Path.mem_segments_of_mem_names (List.mem_of_mem_getLast? last))
  obtain ⟨inName, busy, noStepUp⟩ := backupName_isName whole digits
  exact Path.withFileName_spec plain inName busy noStepUp

/-- A file and its backup lie next to each other. The path of something without a name, such as the
root itself, would have its backup within it. -/
theorem place_backupPath (tree : FileTree) (root : Path) (plain : path.IsPlain)
    (digits : ∀ character ∈ time.toList, character.isDigit = true) :
    ∃ front,
      tree.place (root.join (backupPath path time)) =
          front ++ [backupName (path.fileName?.getD "") time] ∧
        (path.fileName?.getD "" = "" ∧ tree.place (root.join path) = front ∨
          path.fileName?.getD "" ≠ "" ∧
            tree.place (root.join path) = front ++ [path.fileName?.getD ""]) := by
  obtain ⟨front, placed⟩ := place_join tree root path
  obtain ⟨names, absolute, -, -⟩ := backupPath_spec plain digits
  rw [placed _ absolute, placed _ rfl, names, Path.fileName?_eq plain, List.map_append,
    List.map_singleton, String.ofList_toList]
  rcases List.eq_nil_or_concat path.names with unnamed | ⟨start, last, named⟩
  · rw [unnamed]
    exact ⟨front, by simp, Or.inl ⟨rfl, by simp⟩⟩
  · have member : last ∈ path.names := by simp [named]
    have busy := Path.isIdle_of_mem_names member
    have nonempty : String.ofList last ≠ "" := by
      intro empty
      obtain rfl : last = [] := by simpa using empty
      cases busy
    rw [named, List.concat_eq_append, List.dropLast_concat, List.getLast?_concat]
    exact ⟨front ++ start.map String.ofList, by simp, Or.inr ⟨nonempty, by simp⟩⟩

/-- A name and its backup lie in the place that the name is joined to. -/
theorem place_backupPath_name (tree : FileTree) (root : Path) {name : String}
    (whole : '/' ∉ name.toList) (busy : Path.isIdle name.toList = false)
    (noStepUp : name.toList ≠ ['.', '.'])
    (digits : ∀ character ∈ time.toList, character.isDigit = true) :
    tree.place (root.join (backupPath ⟨name⟩ time)) =
      tree.place root ++ [backupName name time] := by
  have single := Path.names_of_isIdle whole busy
  have found : (Path.names ⟨name⟩).getLast? = some name.toList := by
    rw [single, List.getLast?_singleton]
  obtain ⟨whole', busy', -⟩ := backupName_isName whole digits
  obtain ⟨names, absolute⟩ := Path.names_withFileName found noStepUp whole' busy'
  have named : (Path.fileName? ⟨name⟩).getD "" = name := by
    rw [Path.fileName?_of_getLast? found noStepUp, String.ofList_toList, Option.getD_some]
  have backup : backupPath ⟨name⟩ time = Path.withFileName ⟨name⟩ (backupName name time) := by
    rw [backupPath, named]
    rfl
  rw [backup, place_join_of_relative tree root (absolute.trans (Path.isAbsolute_of_notMem whole)),
    names, single, List.dropLast_singleton, List.nil_append, List.map_singleton,
    String.ofList_toList]

/-- The directory of a backup contains what is backed up, or is what is backed up. -/
theorem backup_dropLast_leads (plain : path.IsPlain)
    (digits : ∀ character ∈ time.toList, character.isDigit = true) :
    (tree.place (root.join (backupPath path time))).dropLast <+: tree.place (root.join path) := by
  obtain ⟨front, backup, ⟨-, here⟩ | ⟨-, here⟩⟩ := place_backupPath tree root plain digits
  · rw [backup, here, List.dropLast_concat]
  · rw [backup, here, List.dropLast_concat]
    exact List.prefix_append _ _

/-- What has the same backup is the same. -/
theorem place_backupPath_inj {path' : Path} {time' : String} (plain : path.IsPlain)
    (plain' : path'.IsPlain) (digits : ∀ character ∈ time.toList, character.isDigit = true)
    (digits' : ∀ character ∈ time'.toList, character.isDigit = true)
    (same : tree.place (root.join (backupPath path time)) =
      tree.place (root.join (backupPath path' time'))) :
    tree.place (root.join path) = tree.place (root.join path') := by
  obtain ⟨front, backup, here⟩ := place_backupPath tree root plain digits
  obtain ⟨front', backup', here'⟩ := place_backupPath tree root plain' digits'
  rw [backup, backup'] at same
  have lengths : ∀ name name' : String, [name].length = [name'].length := fun _ _ => rfl
  obtain ⟨rfl, names⟩ := List.append_inj' same (lengths _ _)
  have words := backupName_inj digits digits' (List.singleton_inj.1 names)
  rw [words] at here
  rcases here with ⟨empty, here⟩ | ⟨nonempty, here⟩
  · rcases here' with ⟨-, here'⟩ | ⟨nonempty', -⟩
    · rw [here, here']
    · exact absurd empty nonempty'
  · rcases here' with ⟨empty', -⟩ | ⟨-, here'⟩
    · exact absurd empty' nonempty
    · rw [here, here']

end ResourceScaffold
