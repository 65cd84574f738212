import ResourceScaffold.Proofs.FileTree.Rooted

/-!
Contract: paths that are followed from within a directory.

Owns:
- a tree as a program sees it that runs in a directory;
- that a path leads to the same place from within a directory as after the path of that directory.

Does not own: programs.
-/

namespace ResourceScaffold.FileTree

variable {tree : FileTree} {root path : Path} {location : Location}

/-- The tree as a program sees it that runs in a directory. -/
def enter (tree : FileTree) (directory : Path) : FileTree :=
  { tree with workingDirectory := tree.landing directory }

theorem text_join_eq_append (root path : Path) :
    ∃ front, (root.join path).text = front ++ path.text := by
  have joined : ∃ front, (root.join path).text.toList = front ++ path.text.toList := by
    cases absolute : path.isAbsolute with
    | true => exact ⟨[], by rw [Path.join_of_isAbsolute root absolute, List.nil_append]⟩
    | false =>
        obtain ⟨front, same, -⟩ := Path.joinText_of_relative root.text.toList
          (Path.head?_ne_of_relative absolute)
        exact ⟨front, (Path.text_join root path).trans same⟩
  obtain ⟨front, same⟩ := joined
  refine ⟨String.ofList front, ?_⟩
  rw [← String.toList_inj, String.toList_append, String.toList_ofList, same]

/-- What can be a path after that of a directory can be one alone, unless it is empty. -/
theorem checkPath_of_join (nonempty : path.text ≠ "") (checked : checkPath (root.join path) = .ok ()) :
    checkPath path = .ok () := by
  obtain ⟨front, joined⟩ := text_join_eq_append root path
  unfold checkPath at checked ⊢
  rw [joined, String.toList_append, List.contains_append, String.utf8ByteSize_append] at checked
  split_ifs at checked with nul empty long
  have noNul : ¬path.text.toList.contains '\x00' = true := fun here => nul (by rw [here, Bool.or_true])
  have fits : ¬pathLimit ≤ path.text.utf8ByteSize := by omega
  rw [if_neg noNul, if_neg (by simpa using nonempty), if_neg fits]

/-- From within a directory, a path leads to where it leads after the path of that directory. -/
theorem locate_enter (nonempty : path.text ≠ "")
    (located : tree.locate (root.join path) = .ok location) :
    (tree.enter root).locate path = .ok location := by
  obtain ⟨⟨⟩, checked, followed⟩ := bind_eq_ok_iff.1 located
  refine bind_eq_ok_iff.2 ⟨(), checkPath_of_join nonempty checked, ?_⟩
  have same : KeepsDirectories tree (tree.enter root) := fun found => found
  cases absolute : path.isAbsolute with
  | true =>
      have start : (tree.enter root).startOf path = tree.startOf (root.join path) := by
        rw [Path.join_of_isAbsolute root absolute, startOf, startOf, if_pos absolute, if_pos absolute]
      rw [start]
      rw [Path.join_of_isAbsolute root absolute] at followed ⊢
      exact follow_mono same followed
  | false =>
      obtain ⟨-, further⟩ := (follow_join_iff absolute).1 followed
      have start : (tree.enter root).startOf path = tree.landing root := by
        rw [startOf, if_neg (by simp [absolute])]
        rfl
      rw [start]
      exact follow_mono same further

end ResourceScaffold.FileTree
