import ResourceScaffold.Proofs.Path.Lexical

/-!
Contract: written paths that lead down, and written paths directly inside a directory.

Owns:
- paths that are relative and never step up, and paths that never step up above where they start;
- paths that are those of a directory with one more name;
- the segments in front of the last `/` of a path, which decide about both;
- the names of the directories above a path.

Does not own: where a path leads in a file tree.
-/

namespace ResourceScaffold

open Text

/-! ## Steps above the start -/

namespace Course

theorem ups_le_step (course : Course) (name : List Char) : course.ups ≤ (course.step name).ups := by
  unfold step
  split_ifs <;> simp

theorem ups_le_follow (course : Course) (names : List (List Char)) :
    course.ups ≤ (course.follow names).ups := by
  induction names generalizing course with
  | nil => exact Nat.le_refl _
  | cons name rest inductionHypothesis =>
      exact (course.ups_le_step name).trans (inductionHypothesis (course.step name))

theorem follow_of_notMem (course : Course) {names : List (List Char)}
    (noStepUp : ['.', '.'] ∉ names) :
    course.follow names = { course with names := course.names ++ names } := by
  induction names generalizing course with
  | nil => simp [follow]
  | cons name rest inductionHypothesis =>
      rw [List.mem_cons, not_or] at noStepUp
      change (course.step name).follow rest = _
      rw [inductionHypothesis (course.step name) noStepUp.2, step, if_neg (Ne.symm noStepUp.1)]
      simp

end Course

namespace Path

variable {path directory : Path} {last : List Char}

/-! ## Leading down -/

/-- A path is relative and never steps up. -/
structure Descends (path : Path) : Prop where
  relative : path.isAbsolute = false
  plain : path.IsPlain

theorem descends_iff : path.Descends ↔ path.isAbsolute = false ∧ path.IsPlain :=
  ⟨fun ⟨relative, plain⟩ => ⟨relative, plain⟩, fun ⟨relative, plain⟩ => ⟨relative, plain⟩⟩

instance (path : Path) : Decidable path.Descends :=
  decidable_of_iff _ descends_iff.symm

theorem Descends.join (descends : directory.Descends) (further : path.Descends) :
    (directory.join path).Descends where
  relative := (isAbsolute_join_of_relative directory further.relative).trans descends.relative
  plain := descends.plain.join further.plain

/-- A path is relative, and at no point leads above where it starts. -/
structure StaysBelow (path : Path) : Prop where
  relative : path.isAbsolute = false
  neverAbove : path.course.ups = 0

theorem Descends.staysBelow (descends : path.Descends) : path.StaysBelow where
  relative := descends.relative
  neverAbove := by
    have noStepUp : ['.', '.'] ∉ path.names := fun stepUp =>
      descends.plain (mem_segments_of_mem_names stepUp)
    rw [course, Course.follow_of_notMem _ noStepUp]

theorem course_eq_step {front : List (List Char)} (names : path.names = front ++ [last]) :
    path.course = (Course.follow ⟨path.isAbsolute, 0, []⟩ front).step last := by
  rw [course, names, Course.follow_append, Course.follow_singleton]

/-- A path that stays below and does not end in a step up still stays below with another file name. -/
theorem StaysBelow.withFileName (staysBelow : path.StaysBelow)
    (found : path.names.getLast? = some last) (noStepUp : last ≠ ['.', '.']) {name : String}
    (whole : '/' ∉ name.toList) (busy : isIdle name.toList = false)
    (noStepUp' : name.toList ≠ ['.', '.']) : (path.withFileName name).StaysBelow := by
  obtain ⟨names, absolute⟩ := names_withFileName found noStepUp whole busy
  obtain ⟨front, split⟩ := List.getLast?_eq_some_iff.1 found
  rw [split, List.dropLast_concat] at names
  have noUp := Course.ups_le_step (Course.follow ⟨path.isAbsolute, 0, []⟩ front) last
  rw [← course_eq_step split, staysBelow.neverAbove] at noUp
  refine ⟨absolute.trans staysBelow.relative, ?_⟩
  rw [course_eq_step names, absolute, Course.step, if_neg noStepUp']
  exact Nat.le_zero.1 noUp

/-! ## Directly inside a directory -/

/-- A path directly inside a directory is that of the directory with one more name, which is no step
up. -/
structure IsDirectlyIn (path directory : Path) : Prop where
  sameStart : path.isAbsolute = directory.isAbsolute
  oneMore : ∃ name, name ≠ ['.', '.'] ∧ path.names = directory.names ++ [name]

/-! ## In front of the last separator -/

/-- The segments in front of the last `/` of a path. -/
def heads (path : Path) : List (List Char) :=
  path.segments.dropLast

theorem segments_eq_heads (found : path.segments.getLast? = some last) :
    path.segments = path.heads ++ [last] := by
  obtain ⟨front, same⟩ := List.getLast?_eq_some_iff.1 found
  rw [heads, same, List.dropLast_concat]

/-- Whether a path leads down is decided in front of its last `/`, if it ends in a name. -/
theorem descends_iff_heads (found : path.segments.getLast? = some last)
    (noStepUp : last ≠ ['.', '.']) :
    path.Descends ↔ path.isAbsolute = false ∧ ['.', '.'] ∉ path.heads := by
  rw [descends_iff, IsPlain, segments_eq_heads found, List.mem_append, List.mem_singleton,
    or_iff_left noStepUp.symm]

/-- A path that ends in a name is directly inside the directory that it is seen from if and only if
nothing in front of its last `/` leads anywhere. -/
theorem isDirectlyIn_join_iff (relative : directory.isAbsolute = false)
    (found : path.segments.getLast? = some last) (busy : isIdle last = false)
    (noStepUp : last ≠ ['.', '.']) :
    (directory.join path).IsDirectlyIn directory ↔
      path.isAbsolute = false ∧ named path.heads = [] := by
  have names : path.names = named path.heads ++ [last] := by
    rw [Path.names, segments_eq_heads found, named_append, named_singleton busy]
  constructor
  · rintro ⟨sameStart, name, -, oneMore⟩
    have relative' : path.isAbsolute = false := by
      by_contra absolute
      rw [Bool.not_eq_false] at absolute
      rw [join_of_isAbsolute directory absolute, relative, absolute] at sameStart
      cases sameStart
    rw [names_join_of_relative directory relative', List.append_cancel_left_eq, names] at oneMore
    refine ⟨relative', List.eq_nil_of_length_eq_zero ?_⟩
    have lengths := congrArg List.length oneMore
    rw [List.length_append, List.length_singleton, List.length_singleton] at lengths
    omega
  · rintro ⟨relative', leadsNowhere⟩
    refine ⟨isAbsolute_join_of_relative directory relative', last, noStepUp, ?_⟩
    rw [names_join_of_relative directory relative', names, leadsNowhere, List.nil_append]

/-! ## Words with an ending -/

theorem segments_append (word : String) {ending : String} (whole : '/' ∉ ending.toList) :
    ∃ last, segments ⟨word ++ ending⟩ = heads ⟨word⟩ ++ [last ++ ending.toList] := by
  obtain ⟨front, last, pieces, pieces'⟩ := splitOn_append_of_notMem word.toList whole
  refine ⟨last, ?_⟩
  rw [heads, segments, segments, String.toList_append, pieces, pieces', List.dropLast_concat]

theorem isAbsolute_append {word : String} (nonempty : word ≠ "") (ending : String) :
    isAbsolute ⟨word ++ ending⟩ = isAbsolute ⟨word⟩ := by
  have nonempty' : word.toList ≠ [] := by simpa using nonempty
  rw [isAbsolute, isAbsolute, String.toList_append, List.head?_append_of_ne_nil _ nonempty']

/-! ## Ancestors -/

/-- What lies above a path starts where the path starts, and has some of its first names. -/
theorem names_of_mem_ancestors {other : Path} (member : other ∈ path.ancestors) :
    other.names <+: path.names ∧ other.isAbsolute = path.isAbsolute := by
  rw [ancestors] at member
  generalize path.text.length + 1 = depth at member
  induction depth generalizing path with
  | zero => cases member
  | succ depth inductionHypothesis =>
      rw [ancestorsWithin, List.mem_cons] at member
      rcases member with rfl | above
      · exact ⟨List.prefix_rfl, rfl⟩
      · split at above
        · rename_i parent found
          obtain ⟨names, absolute, -⟩ := parent?_spec found
          obtain ⟨leads, sameStart⟩ := inductionHypothesis above
          exact ⟨leads.trans (names ▸ List.dropLast_prefix _), sameStart.trans absolute⟩
        · cases above

end Path

end ResourceScaffold
