import Mathlib.Data.List.DropRight
import ResourceScaffold.Path
import ResourceScaffold.Proofs.Text.Pieces

/-!
Contract: the names that a written path consists of.

Owns:
- the names of a path, without the segments that name nothing;
- paths that never step up;
- the names of joined paths, of parents and of paths with another file name.

Does not own: where a path leads in a file tree.
-/

namespace ResourceScaffold.Path

open Text

/-! ## Idle segments -/

/-- The segments that name something. -/
def named (segments : List (List Char)) : List (List Char) :=
  segments.filter fun segment => !isIdle segment

@[simp] theorem named_nil : named [] = [] := rfl

@[simp] theorem named_append (front back : List (List Char)) :
    named (front ++ back) = named front ++ named back :=
  List.filter_append front back

theorem named_cons_of_isIdle {segment : List Char} (idle : isIdle segment = true)
    (rest : List (List Char)) : named (segment :: rest) = named rest := by
  simp [named, idle]

theorem named_cons_of_busy {segment : List Char} (busy : isIdle segment = false)
    (rest : List (List Char)) : named (segment :: rest) = segment :: named rest := by
  simp [named, busy]

theorem named_singleton {segment : List Char} (busy : isIdle segment = false) :
    named [segment] = [segment] := by
  simp [named, busy]

/-- Whether segments end in one that names nothing, so that they can only lead to a directory. -/
def endsIdle (segments : List (List Char)) : Bool :=
  segments.getLast?.any isIdle

/-- Segments without the idle ones at their end are none, or end in one that names something. -/
theorem dropIdle_cases (segments : List (List Char)) :
    dropIdle segments = [] ∧ named segments = [] ∨
      ∃ front last, dropIdle segments = front ++ [last] ∧ isIdle last = false ∧
        named segments = named front ++ [last] ∧ front ++ [last] <+: segments := by
  induction segments using List.reverseRecOn with
  | nil => exact Or.inl ⟨rfl, rfl⟩
  | append_singleton front last inductionHypothesis =>
      by_cases idle : isIdle last = true
      · have dropped : dropIdle (front ++ [last]) = dropIdle front := by
          simp [dropIdle, idle]
        have unnamed : named (front ++ [last]) = named front := by
          simp [named_cons_of_isIdle idle]
        rw [dropped, unnamed]
        rcases inductionHypothesis with none | ⟨others, final, same, busy, names, leads⟩
        · exact Or.inl none
        · exact Or.inr ⟨others, final, same, busy, names, leads.trans (List.prefix_append _ _)⟩
      · have busy : isIdle last = false := by simpa using idle
        refine Or.inr ⟨front, last, by simp [dropIdle, busy], busy, ?_, List.prefix_rfl⟩
        rw [named_append, named_singleton busy]

theorem prefix_dropIdle (segments : List (List Char)) : dropIdle segments <+: segments := by
  rcases dropIdle_cases segments with ⟨none, _⟩ | ⟨front, last, same, _, _, leads⟩
  · rw [none]
    exact List.nil_prefix
  · rwa [same]

@[simp] theorem named_dropIdle (segments : List (List Char)) :
    named (dropIdle segments) = named segments := by
  rcases dropIdle_cases segments with ⟨none, names⟩ | ⟨front, last, same, busy, names, _⟩
  · rw [none, names, named_nil]
  · rw [same, names, named_append, named_singleton busy]

/-! ## Names -/

def segments (path : Path) : List (List Char) :=
  splitOn '/' path.text.toList

/-- The names on the way that a path describes. -/
def names (path : Path) : List (List Char) :=
  named path.segments

/-- A path without a step up. -/
def IsPlain (path : Path) : Prop :=
  ['.', '.'] ∉ path.segments

instance (path : Path) : Decidable path.IsPlain :=
  inferInstanceAs (Decidable (¬ _))

theorem segments_ne_nil (path : Path) : path.segments ≠ [] :=
  splitOn_ne_nil _

theorem notMem_of_mem_segments {path : Path} {segment : List Char}
    (member : segment ∈ path.segments) : '/' ∉ segment :=
  notMem_of_mem_splitOn member

theorem mem_segments_of_mem_names {path : Path} {segment : List Char}
    (member : segment ∈ path.names) : segment ∈ path.segments :=
  (List.mem_filter.1 member).1

theorem isIdle_of_mem_names {path : Path} {segment : List Char} (member : segment ∈ path.names) :
    isIdle segment = false := by
  simpa using (List.mem_filter.1 member).2

@[simp] theorem names_empty : names ⟨""⟩ = [] := by
  decide +kernel

/-! ## Joined paths -/

theorem joinText_of_relative (left : List Char) {right : List Char}
    (relative : right.head? ≠ some '/') :
    ∃ front, joinText left right = front ++ right ∧
      (front = left ∧ (left = [] ∨ ∃ start, left = start ++ ['/']) ∨
        left ≠ [] ∧ front = left ++ ['/']) := by
  rw [joinText, if_neg relative]
  by_cases ended : left.getLast?.all (· = '/') = true
  · rw [if_pos ended]
    refine ⟨left, rfl, Or.inl ⟨rfl, ?_⟩⟩
    rcases List.eq_nil_or_concat left with rfl | ⟨start, last, rfl⟩
    · exact Or.inl rfl
    · rw [List.concat_eq_append, List.getLast?_concat] at ended
      obtain rfl : last = '/' := by simpa using ended
      exact Or.inr ⟨start, List.concat_eq_append⟩
  · rw [if_neg ended]
    refine ⟨left ++ ['/'], by simp, Or.inr ⟨?_, rfl⟩⟩
    rintro rfl
    exact ended rfl

theorem text_join (left right : Path) :
    (left.join right).text.toList = joinText left.text.toList right.text.toList := by
  rw [join, String.toList_ofList]

theorem head?_ne_of_relative {path : Path} (relative : path.isAbsolute = false) :
    path.text.toList.head? ≠ some '/' := by
  simpa [isAbsolute] using relative

/-- A relative path adds its segments to those of the left one, except that an empty segment at the
end of the left one is lost. -/
theorem segments_join (left : Path) {right : Path} (relative : right.isAbsolute = false) :
    ∃ front, (left.join right).segments = front ++ right.segments ∧
      (left.segments = front ∨ left.segments = front ++ [[]]) := by
  obtain ⟨front, joined, ⟨rfl, empty | ⟨start, slash⟩⟩ | ⟨nonempty, rfl⟩⟩ :=
    joinText_of_relative left.text.toList (head?_ne_of_relative relative)
  · refine ⟨[], ?_, Or.inr ?_⟩
    · rw [segments, text_join, joined, empty, segments, List.nil_append, List.nil_append]
    · rw [segments, empty]
      rfl
  · refine ⟨splitOn '/' start, ?_, Or.inr ?_⟩
    · rw [segments, text_join, joined, slash, List.append_assoc, List.singleton_append,
        splitOn_append, segments]
    · rw [segments, slash, splitOn_append]
      rfl
  · refine ⟨left.segments, ?_, Or.inl rfl⟩
    rw [segments, text_join, joined, List.append_assoc, List.singleton_append, splitOn_append,
      segments, segments]

theorem names_join_of_relative (left : Path) {right : Path} (relative : right.isAbsolute = false) :
    (left.join right).names = left.names ++ right.names := by
  obtain ⟨front, joined, same | same⟩ := segments_join left relative
  · rw [names, joined, named_append, names, same, names]
  · have lost : named [[]] = [] := rfl
    rw [names, joined, named_append, names, same, named_append, lost, List.append_nil, names]

theorem isAbsolute_join_of_relative (left : Path) {right : Path}
    (relative : right.isAbsolute = false) : (left.join right).isAbsolute = left.isAbsolute := by
  obtain ⟨front, joined, ends⟩ :=
    joinText_of_relative left.text.toList (head?_ne_of_relative relative)
  rw [isAbsolute, text_join, joined]
  cases leftChars : left.text.toList with
  | nil =>
      rw [leftChars] at ends
      rcases ends with ⟨rfl, _⟩ | ⟨nonempty, _⟩
      · simpa [isAbsolute, leftChars] using relative
      · exact absurd rfl nonempty
  | cons first rest =>
      rw [leftChars] at ends
      rcases ends with ⟨rfl, _⟩ | ⟨_, rfl⟩ <;> simp [isAbsolute, leftChars]

theorem IsPlain.join {left right : Path} (plain : left.IsPlain) (plain' : right.IsPlain) :
    (left.join right).IsPlain := by
  by_cases absolute : right.isAbsolute = true
  · rwa [join_of_isAbsolute left absolute]
  · obtain ⟨front, joined, same⟩ := segments_join left (by simpa using absolute)
    intro stepUp
    rw [joined, List.mem_append] at stepUp
    rcases stepUp with inFront | inRight
    · rcases same with same | same
      · exact plain (same ▸ inFront)
      · exact plain (same ▸ List.mem_append_left _ inFront)
    · exact plain' inRight

theorem endsIdle_join (left right : Path) :
    endsIdle (left.join right).segments = endsIdle right.segments := by
  by_cases absolute : right.isAbsolute = true
  · rw [join_of_isAbsolute left absolute]
  · obtain ⟨front, joined, -⟩ := segments_join left (by simpa using absolute)
    rw [joined, endsIdle, endsIdle, List.getLast?_append_of_ne_nil front right.segments_ne_nil]

/-! ## Lead and body -/

/-- The four kinds of paths: the empty one, and those with the root, a dot or a name at the start. -/
theorem segmented_cases (path : Path) :
    path.text = "" ∧ path.segmented = ⟨[], []⟩ ∨
      (∃ rest, path.segments = [] :: rest ∧ path.isAbsolute = true ∧
        path.segmented = ⟨['/'], rest⟩) ∨
      path.isAbsolute = false ∧ ((∃ rest, path.segments = ['.'] :: rest ∧
          path.segmented = ⟨['.'], rest⟩) ∨
        ∃ first rest, path.segments = first :: rest ∧ isIdle first = false ∧
          path.segmented = ⟨[], first :: rest⟩) := by
  cases chars : path.text.toList with
  | nil =>
      have empty : path.text = "" := by simpa using chars
      exact Or.inl ⟨empty, by simp [segmented, empty, splitOn]⟩
  | cons character rest =>
      have nonempty : path.text ≠ "" := by
        intro empty
        simp [empty] at chars
      right
      by_cases root : character = '/'
      · have split : path.segments = [] :: splitOn '/' rest := by
          rw [segments, chars, splitOn, if_pos root]
        refine Or.inl ⟨splitOn '/' rest, split, by simp [isAbsolute, chars, root], ?_⟩
        rw [segments] at split
        simp [segmented, split, nonempty]
      · refine Or.inr ⟨by simp [isAbsolute, chars, root], ?_⟩
        obtain ⟨piece, pieces, split⟩ : ∃ piece pieces,
            path.segments = (character :: piece) :: pieces := by
          rw [segments, chars, splitOn, if_neg root]
          cases split : splitOn '/' rest with
          | nil => exact absurd split (splitOn_ne_nil rest)
          | cons piece pieces => exact ⟨piece, pieces, rfl⟩
        have split' := split
        rw [segments] at split'
        by_cases dot : character :: piece = ['.']
        · rw [dot] at split split'
          exact Or.inl ⟨pieces, split, by simp [segmented, split']⟩
        · refine Or.inr ⟨character :: piece, pieces, split, by simp [isIdle, dot], ?_⟩
          rw [segmented, split']
          split
          · simp_all
          · simp_all
          · simp_all
          · rfl

/-- Parts as they come from a path: the body of a path without lead starts with a name, and no
segment holds a separator. -/
structure Segmented.Valid (parts : Segmented) : Prop where
  leads : parts.lead = [] ∨ parts.lead = ['/'] ∨ parts.lead = ['.']
  starts : parts.lead = [] → ∀ segment ∈ parts.body.head?, isIdle segment = false
  whole : ∀ segment ∈ parts.body, '/' ∉ segment

/-- What a path and its lead and body have to do with each other. -/
theorem segmented_spec (path : Path) :
    path.segmented.Valid ∧ named path.segmented.body = path.names ∧
      (path.isAbsolute = true ↔ path.segmented.lead = ['/']) ∧
      path.segmented.body ⊆ path.segments := by
  have whole {segment : List Char} (member : segment ∈ path.segments) : '/' ∉ segment :=
    notMem_of_mem_segments member
  rcases segmented_cases path with ⟨empty, same⟩ | ⟨rest, split, absolute, same⟩ |
    ⟨relative, ⟨rest, split, same⟩ | ⟨first, rest, split, busy, same⟩⟩
  · have path_eq : path = ⟨""⟩ := by
      cases path
      exact congrArg Path.mk empty
    subst path_eq
    rw [same]
    exact ⟨⟨Or.inl rfl, by simp, by simp⟩, by simp, by decide, by simp⟩
  · rw [same, names, split]
    refine ⟨⟨Or.inr (Or.inl rfl), by simp, fun segment member => ?_⟩, ?_, by simp [absolute],
      List.subset_cons_self _ _⟩
    · exact whole (split ▸ List.mem_cons_of_mem _ member)
    · exact (named_cons_of_isIdle rfl rest).symm
  · rw [same, names, split]
    refine ⟨⟨Or.inr (Or.inr rfl), by simp, fun segment member => ?_⟩, ?_, by simp [relative],
      List.subset_cons_self _ _⟩
    · exact whole (split ▸ List.mem_cons_of_mem _ member)
    · exact (named_cons_of_isIdle rfl rest).symm
  · rw [same, names, split]
    refine ⟨⟨Or.inl rfl, by simp [busy], fun segment member => ?_⟩, rfl, by simp [relative],
      List.Subset.refl _⟩
    exact whole (split ▸ member)

theorem splitOn_joinSegments {segments : List (List Char)} (nonempty : segments ≠ [])
    (whole : ∀ segment ∈ segments, '/' ∉ segment) :
    splitOn '/' (joinSegments segments) = segments := by
  induction segments with
  | nil => exact absurd rfl nonempty
  | cons segment rest inductionHypothesis =>
      rw [List.forall_mem_cons] at whole
      cases rest with
      | nil => exact splitOn_of_notMem whole.1
      | cons second others =>
          rw [joinSegments, splitOn_append, splitOn_of_notMem whole.1,
            inductionHypothesis (by simp) whole.2, List.singleton_append]
          simp

theorem Segmented.Valid.shorten {parts : Segmented} (valid : parts.Valid)
    {body : List (List Char)} (leads : body <+: parts.body) :
    Segmented.Valid ⟨parts.lead, body⟩ where
  leads := valid.leads
  starts bare segment member := by
    obtain ⟨rest, whole⟩ := leads
    cases body with
    | nil => simp at member
    | cons first others =>
        refine valid.starts bare segment ?_
        rw [← whole]
        simpa using member
  whole segment member := valid.whole segment (leads.subset member)

/-- The segments of parts that are put together are those of the body, and idle ones in front. -/
theorem splitOn_written {parts : Segmented} (valid : parts.Valid) :
    ∃ front, (∀ segment ∈ front, isIdle segment = true) ∧
      (parts.body = [] ∧ splitOn '/' parts.written = front ∨
        splitOn '/' parts.written = front ++ parts.body) := by
  obtain ⟨lead, body⟩ := parts
  obtain ⟨leads, -, whole⟩ := valid
  cases body with
  | nil =>
      refine ⟨splitOn '/' lead, ?_, Or.inl ⟨rfl, rfl⟩⟩
      rcases leads with rfl | rfl | rfl <;> decide
  | cons first rest =>
      have split := splitOn_joinSegments (List.cons_ne_nil first rest) whole
      rcases leads with rfl | rfl | rfl
      · exact ⟨[], by simp, Or.inr (by simpa [Segmented.written] using split)⟩
      · refine ⟨[[]], by simp [isIdle], Or.inr ?_⟩
        simp [Segmented.written, splitOn, split]
      · refine ⟨[['.']], by simp [isIdle], Or.inr ?_⟩
        simp [Segmented.written, splitOn, split]

theorem names_written {parts : Segmented} (valid : parts.Valid) :
    names ⟨String.ofList parts.written⟩ = named parts.body := by
  obtain ⟨front, idle, split⟩ := splitOn_written valid
  have unnamed : named front = [] := by
    rw [named, List.filter_eq_nil_iff]
    intro segment member
    simp [idle segment member]
  rw [names, segments, String.toList_ofList]
  rcases split with ⟨empty, split⟩ | split
  · rw [split, empty, unnamed, named_nil]
  · rw [split, named_append, unnamed, List.nil_append]

theorem isPlain_written {parts : Segmented} (valid : parts.Valid) (plain : ['.', '.'] ∉ parts.body) :
    IsPlain ⟨String.ofList parts.written⟩ := by
  obtain ⟨front, idle, split⟩ := splitOn_written valid
  have absent : ['.', '.'] ∉ front := fun member => by
    have isIdle := idle _ member
    revert isIdle
    decide
  rw [IsPlain, segments, String.toList_ofList]
  rcases split with ⟨-, split⟩ | split
  · rwa [split]
  · rw [split, List.mem_append, not_or]
    exact ⟨absent, plain⟩

theorem isAbsolute_written {parts : Segmented} (valid : parts.Valid) :
    isAbsolute ⟨String.ofList parts.written⟩ = true ↔ parts.lead = ['/'] := by
  obtain ⟨lead, body⟩ := parts
  obtain ⟨leads, starts, whole⟩ := valid
  rw [isAbsolute, String.toList_ofList, decide_eq_true_iff]
  cases body with
  | nil => rcases leads with rfl | rfl | rfl <;> decide
  | cons first rest =>
      rcases leads with rfl | rfl | rfl
      · -- Without a lead, the first segment is neither empty nor has a separator in it.
        have busy := starts rfl first (by simp)
        have clear := whole first List.mem_cons_self
        cases first with
        | nil => cases busy
        | cons character others =>
            have different : character ≠ '/' := by
              rintro rfl
              exact clear List.mem_cons_self
            cases rest <;> simp [Segmented.written, joinSegments, different]
      · simp [Segmented.written]
      · simp [Segmented.written]

/-! ## Parents and file names -/

/-- The parent of a path lacks the last name, starts where the path starts, and never steps up if the
path never does. -/
theorem parent?_spec {path parent : Path} (found : path.parent? = some parent) :
    parent.names = path.names.dropLast ∧ parent.isAbsolute = path.isAbsolute ∧
      (path.IsPlain → parent.IsPlain) := by
  obtain ⟨valid, names, absolute, subset⟩ := path.segmented_spec
  rw [parent?] at found
  rcases dropIdle_cases path.segmented.body with ⟨none, unnamed⟩ | ⟨front, last, same, -, named, leads⟩
  · rw [none] at found
    dsimp only at found
    split_ifs at found with dot
    cases found
    have relative : path.isAbsolute = false := by
      rw [Bool.eq_false_iff, ne_eq, absolute, dot]
      decide
    rw [← names, unnamed, relative]
    exact ⟨rfl, rfl, fun _ => by decide +kernel⟩
  · have shorter : dropIdle front <+: path.segmented.body :=
      (prefix_dropIdle front).trans ((List.prefix_append _ _).trans leads)
    have valid' := valid.shorten shorter
    obtain rfl : parent =
        ⟨String.ofList (Segmented.written ⟨path.segmented.lead, dropIdle front⟩)⟩ := by
      rw [same] at found
      cases body : front ++ [last] with
      | nil => simp at body
      | cons first rest =>
          rw [body] at found
          dsimp only at found
          rw [← body, List.dropLast_concat] at found
          exact (Option.some.inj found).symm
    refine ⟨?_, ?_, fun plain => isPlain_written valid' fun stepUp => plain ?_⟩
    · rw [names_written valid', named_dropIdle, ← names, named, List.dropLast_concat]
    · rw [Bool.eq_iff_iff, isAbsolute_written valid', absolute]
    · exact subset (shorter.subset stepUp)

/-- The file name of a path is its last name, unless that is a step up. -/
theorem fileName?_of_getLast? {path : Path} {last : List Char}
    (found : path.names.getLast? = some last) (noStepUp : last ≠ ['.', '.']) :
    path.fileName? = some (String.ofList last) := by
  obtain ⟨-, names, -, -⟩ := path.segmented_spec
  rw [← names] at found
  rw [fileName?]
  rcases dropIdle_cases path.segmented.body with ⟨-, unnamed⟩ | ⟨front, last', same, -, named, -⟩
  · rw [unnamed] at found
    cases found
  · rw [named, List.getLast?_concat, Option.some.injEq] at found
    rw [same, List.getLast?_concat, found]
    dsimp only
    rw [if_neg noStepUp]

theorem fileName?_eq {path : Path} (plain : path.IsPlain) :
    path.fileName? = path.names.getLast?.map String.ofList := by
  obtain ⟨-, names, -, subset⟩ := path.segmented_spec
  rw [fileName?, ← names]
  rcases dropIdle_cases path.segmented.body with ⟨none, unnamed⟩ | ⟨front, last, same, -, named, leads⟩
  · rw [none, unnamed]
    rfl
  · have member : last ∈ path.segments :=
      subset (leads.subset (List.mem_append_right front List.mem_cons_self))
    have different : last ≠ ['.', '.'] := by
      rintro rfl
      exact plain member
    rw [same, named, List.getLast?_concat, List.getLast?_concat]
    simp [different]

/-- Only the empty path can be the parent of a path without names. -/
theorem parent?_of_unnamed {path parent : Path} (unnamed : path.names = [])
    (found : path.parent? = some parent) : parent = ⟨""⟩ := by
  obtain ⟨-, names, -, -⟩ := path.segmented_spec
  rw [parent?] at found
  rcases dropIdle_cases path.segmented.body with ⟨none, -⟩ | ⟨front, last, -, -, named, -⟩
  · rw [none] at found
    dsimp only at found
    split_ifs at found
    exact (Option.some.inj found).symm
  · rw [names, unnamed] at named
    simp at named

theorem parent?_isSome_of_names {path : Path} (nonempty : path.names ≠ []) :
    ∃ parent, path.parent? = some parent := by
  obtain ⟨-, names, -, -⟩ := path.segmented_spec
  rw [parent?]
  rcases dropIdle_cases path.segmented.body with ⟨-, unnamed⟩ | ⟨front, last, same, -, -, -⟩
  · exact absurd (names.symm.trans unnamed) nonempty
  · rw [same]
    cases body : front ++ [last] with
    | nil => simp at body
    | cons first rest => exact ⟨_, rfl⟩

theorem names_of_isIdle {name : String} (whole : '/' ∉ name.toList)
    (busy : isIdle name.toList = false) : names ⟨name⟩ = [name.toList] := by
  rw [names, segments, splitOn_of_notMem whole, named_singleton busy]

theorem isAbsolute_of_notMem {name : String} (whole : '/' ∉ name.toList) :
    isAbsolute ⟨name⟩ = false := by
  rw [isAbsolute, decide_eq_false_iff_not]
  intro leads
  exact whole (List.mem_of_mem_head? leads)

theorem isPlain_of_notMem {name : String} (whole : '/' ∉ name.toList)
    (noStepUp : name.toList ≠ ['.', '.']) : IsPlain ⟨name⟩ := by
  rw [IsPlain, segments, splitOn_of_notMem whole, List.mem_singleton]
  exact noStepUp.symm

/-- Another file name takes the place of the last name of a path that does not end in a step up. -/
theorem names_withFileName {path : Path} {last : List Char}
    (found : path.names.getLast? = some last) (noStepUp : last ≠ ['.', '.']) {name : String}
    (whole : '/' ∉ name.toList) (busy : isIdle name.toList = false) :
    (path.withFileName name).names = path.names.dropLast ++ [name.toList] ∧
      (path.withFileName name).isAbsolute = path.isAbsolute := by
  have relative := isAbsolute_of_notMem whole
  have named : path.names ≠ [] := fun unnamed => by simp [unnamed] at found
  obtain ⟨parent, isParent⟩ := parent?_isSome_of_names named
  obtain ⟨names, absolute, -⟩ := parent?_spec isParent
  rw [withFileName, fileName?_of_getLast? found noStepUp, isParent]
  dsimp only
  rw [names_join_of_relative parent relative, isAbsolute_join_of_relative parent relative,
    names_of_isIdle whole busy, names, absolute]
  exact ⟨rfl, rfl⟩

theorem withFileName_spec {path : Path} (plain : path.IsPlain) {name : String}
    (whole : '/' ∉ name.toList) (busy : isIdle name.toList = false)
    (noStepUp : name.toList ≠ ['.', '.']) :
    (path.withFileName name).names = path.names.dropLast ++ [name.toList] ∧
      (path.withFileName name).isAbsolute = path.isAbsolute ∧
      (path.withFileName name).IsPlain ∧ endsIdle (path.withFileName name).segments = false := by
  have relative := isAbsolute_of_notMem whole
  have single := names_of_isIdle whole busy
  have one : segments ⟨name⟩ = [name.toList] := splitOn_of_notMem whole
  have plainName := isPlain_of_notMem whole noStepUp
  have ends : endsIdle (segments ⟨name⟩) = false := by
    rw [one, endsIdle, List.getLast?_singleton, Option.any_some, busy]
  rw [withFileName, fileName?_eq plain]
  by_cases unnamed : path.names = []
  · rw [unnamed, List.getLast?_nil, Option.map_none]
    dsimp only
    rw [names_join_of_relative path relative, isAbsolute_join_of_relative path relative, single,
      unnamed, endsIdle_join]
    exact ⟨rfl, rfl, plain.join plainName, ends⟩
  · obtain ⟨parent, found⟩ := parent?_isSome_of_names unnamed
    obtain ⟨names, absolute, plainParent⟩ := parent?_spec found
    rw [found, List.getLast?_eq_some_getLast unnamed, Option.map_some]
    dsimp only
    rw [names_join_of_relative parent relative, isAbsolute_join_of_relative parent relative, single,
      names, absolute, endsIdle_join]
    exact ⟨rfl, rfl, (plainParent plain).join plainName, ends⟩

end ResourceScaffold.Path
