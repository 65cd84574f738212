import ResourceScaffold.Proofs.Path.Names

/-!
Contract: where a written path leads when its names are followed without looking at a file tree.

Owns:
- courses: from the root or up some directories, and along names from there;
- the course of a path, in which a step up undoes the name before it;
- the courses of joined paths, of the directory of a file and of a file named behind a directory.

Does not own: links, which only a file tree knows.
-/

namespace ResourceScaffold

open Text

/-! ## Courses -/

/-- Where a path leads: from the root or up some directories, and along names from there. -/
structure Course where
  absolute : Bool
  ups : Nat
  names : List (List Char)
deriving DecidableEq

namespace Course

/-- Follows one more name. A step up undoes the last name; above the root there is only the root. -/
def step (course : Course) (name : List Char) : Course :=
  if name = ['.', '.'] then
    if course.names ≠ [] then { course with names := course.names.dropLast }
    else if course.absolute then course
    else { course with ups := course.ups + 1 }
  else { course with names := course.names ++ [name] }

def follow (course : Course) (names : List (List Char)) : Course :=
  names.foldl step course

theorem follow_append (course : Course) (front back : List (List Char)) :
    course.follow (front ++ back) = (course.follow front).follow back :=
  List.foldl_append

theorem follow_singleton (course : Course) (name : List Char) :
    course.follow [name] = course.step name := rfl

/-- Courses that go on with the same name were the same before it. -/
theorem step_inj {first second : Course} {name : List Char} (noStepUp : name ≠ ['.', '.']) :
    first.step name = second.step name ↔ first = second := by
  constructor
  · intro same
    rw [step, if_neg noStepUp, step, if_neg noStepUp, Course.mk.injEq] at same
    obtain ⟨absolute, ups, names⟩ := same
    obtain ⟨firstAbsolute, firstUps, firstNames⟩ := first
    obtain ⟨secondAbsolute, secondUps, secondNames⟩ := second
    rw [Course.mk.injEq]
    exact ⟨absolute, ups, List.append_cancel_right names⟩
  · rintro rfl
    rfl

/-- Courses that go on differently lead to different ends. -/
theorem eq_of_step_eq {first second : Course} {name name' : List Char}
    (noStepUp : name ≠ ['.', '.']) (noStepUp' : name' ≠ ['.', '.'])
    (same : first.step name = second.step name') : name = name' := by
  rw [step, if_neg noStepUp, step, if_neg noStepUp', Course.mk.injEq] at same
  have last := congrArg List.getLast? same.2.2
  rwa [List.getLast?_concat, List.getLast?_concat, Option.some.injEq] at last

end Course

/-! ## Courses of paths -/

namespace Path

/-- Where a path leads, as far as its text tells. -/
def course (path : Path) : Course :=
  Course.follow ⟨path.isAbsolute, 0, []⟩ path.names

/-- The directory of a file. A path that has no parent is taken for its own directory. -/
def directory (path : Path) : Path :=
  path.parent?.getD path

theorem course_join_of_relative (left : Path) {right : Path} (relative : right.isAbsolute = false) :
    (left.join right).course = left.course.follow right.names := by
  rw [course, isAbsolute_join_of_relative left relative, names_join_of_relative left relative,
    Course.follow_append, course]

theorem course_join_file (left : Path) {file : String} (whole : '/' ∉ file.toList)
    (busy : isIdle file.toList = false) :
    (left.join ⟨file⟩).course = left.course.step file.toList := by
  rw [course_join_of_relative left (isAbsolute_of_notMem whole), names_of_isIdle whole busy,
    Course.follow_singleton]

theorem names_directory (path : Path) : path.directory.names = path.names.dropLast := by
  rw [directory]
  cases found : path.parent? with
  | some parent => exact (parent?_spec found).1
  | none =>
      have unnamed : path.names = [] := by
        by_contra named
        obtain ⟨parent, found'⟩ := parent?_isSome_of_names named
        cases found.symm.trans found'
      rw [Option.getD_none, unnamed, List.dropLast_nil]

theorem isAbsolute_directory (path : Path) : path.directory.isAbsolute = path.isAbsolute := by
  rw [directory]
  cases found : path.parent? with
  | some parent => exact (parent?_spec found).2.1
  | none => rfl

/-- The directory of a file leads where the path in front of the file name leads. -/
theorem course_directory_join (left : Path) {file : String} (whole : '/' ∉ file.toList)
    (busy : isIdle file.toList = false) : (left.join ⟨file⟩).directory.course = left.course := by
  have relative := isAbsolute_of_notMem whole
  rw [course, isAbsolute_directory, isAbsolute_join_of_relative left relative, names_directory,
    names_join_of_relative left relative, names_of_isIdle whole busy, List.dropLast_concat, course]

theorem course_join_congr {left left' : Path} (same : left.course = left'.course) {right : Path}
    (relative : right.isAbsolute = false) : (left.join right).course = (left'.join right).course := by
  rw [course_join_of_relative left relative, course_join_of_relative left' relative, same]

/-- A file that is named behind a directory, seen from another one. -/
theorem course_join_behind (left : Path) {front file : String}
    (relative : isAbsolute ⟨front ++ "/"⟩ = false) (whole : '/' ∉ file.toList)
    (busy : isIdle file.toList = false) :
    (left.join ⟨front ++ "/" ++ file⟩).course = (left.join ⟨front⟩).course.step file.toList := by
  have slash : ("/" : String).toList = ['/'] := rfl
  obtain ⟨character, rest, chars, noRoot⟩ :
      ∃ character rest, front.toList = character :: rest ∧ character ≠ '/' := by
    rw [isAbsolute, decide_eq_false_iff_not, String.toList_append, slash] at relative
    cases chars : front.toList with
    | nil =>
        rw [chars] at relative
        exact absurd rfl relative
    | cons character rest =>
        refine ⟨character, rest, rfl, ?_⟩
        rintro rfl
        rw [chars] at relative
        exact relative rfl
  have relative' : isAbsolute ⟨front⟩ = false := by
    simp [isAbsolute, chars, noRoot]
  have relative'' : isAbsolute ⟨front ++ "/" ++ file⟩ = false := by
    simp [isAbsolute, chars, noRoot]
  have split : names ⟨front ++ "/" ++ file⟩ = names ⟨front⟩ ++ [file.toList] := by
    rw [names, segments, String.toList_append, String.toList_append, slash, List.append_assoc,
      List.singleton_append, splitOn_append, named_append, splitOn_of_notMem whole,
      named_singleton busy, names, segments]
  rw [course_join_of_relative left relative'', split, Course.follow_append,
    Course.follow_singleton, course_join_of_relative left relative']

end Path

end ResourceScaffold
