import ResourceScaffold.Proofs.Generator.FileNames
import ResourceScaffold.Proofs.Path.Descent
import ResourceScaffold.Proofs.Text.Casing

/-!
Contract: which names keep the generated files in the directories of their layers.

Owns:
- that a word has its separators and leading dots also with its first character in upper case;
- names that lead nowhere, or only down, in front of their last `/`;
- that the file of a layer is directly inside its directory exactly for the former, and leads down
  for the latter.

Does not own: what is written to these files.
-/

namespace ResourceScaffold

open Text ResourceScaffold.Path

/-! ## Separators and dots -/

/-- A segment that starts with no dot is a name and no step up. -/
theorem Path.isName_of_head?_ne (segment : List Char) {first : Char}
    (starts : segment.head? = some first) (noDot : first ≠ '.') :
    isIdle segment = false ∧ segment ≠ ['.', '.'] := by
  cases segment with
  | nil => cases starts
  | cons character rest =>
      obtain rfl : character = first := Option.some.inj starts
      simp [isIdle, noDot]

/-- A word with its first character in upper case has separators where the word has them, and dots in
front of them where the word has them. -/
theorem segments_upperFirst (word : String) :
    isAbsolute ⟨upperFirst word⟩ = isAbsolute ⟨word⟩ ∧
      ∃ first first' rest, segments ⟨word⟩ = first :: rest ∧
        segments ⟨upperFirst word⟩ = first' :: rest ∧ isIdle first' = isIdle first ∧
        (first' = ['.', '.'] ↔ first = ['.', '.']) := by
  have chars : (upperFirst word).toList = Text.upperFirst word.toList := String.toList_ofList
  rw [isAbsolute, isAbsolute, segments, segments]
  dsimp only
  rw [chars]
  cases word.toList with
  | nil => exact ⟨rfl, [], [], [], rfl, rfl, rfl, Iff.rfl⟩
  | cons character rest =>
      rw [Text.upperFirst]
      by_cases isMark : character = '/' ∨ character = '.'
      · -- Separators and dots have no case.
        have same : upper character = [character] := by
          rcases isMark with rfl | rfl <;> decide +kernel
        rw [same, List.singleton_append]
        have nonempty : splitOn '/' (character :: rest) ≠ [] := splitOn_ne_nil _
        obtain ⟨first, others, split⟩ := List.exists_cons_of_ne_nil nonempty
        exact ⟨rfl, first, first, others, split, split, rfl, Iff.rfl⟩
      · rw [not_or] at isMark
        have noSlash := notMem_upper (.inl rfl) isMark.1
        have noDot := notMem_upper (.inr rfl) isMark.2
        obtain ⟨image, images, split⟩ := List.exists_cons_of_ne_nil (upper_ne_nil character)
        rw [split, List.mem_cons, not_or] at noSlash noDot
        have nonempty : splitOn '/' rest ≠ [] := splitOn_ne_nil rest
        obtain ⟨piece, pieces, split'⟩ := List.exists_cons_of_ne_nil nonempty
        have whole : '/' ∉ [character] := by simpa using Ne.symm isMark.1
        have whole' : '/' ∉ image :: images := by
          rw [List.mem_cons, not_or]
          exact noSlash
        obtain ⟨busy, noStepUp⟩ := isName_of_head?_ne ([character] ++ piece) rfl isMark.2
        obtain ⟨busy', noStepUp'⟩ :=
          isName_of_head?_ne (image :: images ++ piece) rfl (Ne.symm noDot.1)
        refine ⟨?_, [character] ++ piece, image :: images ++ piece, pieces,
          splitOn_append_of_cons whole split', ?_, busy'.trans busy.symm, ?_⟩
        · rw [split]
          simp [Ne.symm noSlash.1, isMark.1]
        · rw [split]
          exact splitOn_append_of_cons whole' split'
        · simp only [noStepUp, noStepUp']

/-! ## Names -/

namespace ResourceName

/-- A name leads down: it does not start with `/`, and has no step up in front of its last `/`. -/
structure Descends (name : ResourceName) : Prop where
  relative : isAbsolute ⟨name.camel⟩ = false
  noStepUp : ['.', '.'] ∉ heads ⟨name.camel⟩

/-- A name leads nowhere: it does not start with `/`, and all that there may be in front of its last
`/` are separators and single dots. -/
structure StaysPut (name : ResourceName) : Prop where
  relative : isAbsolute ⟨name.camel⟩ = false
  nowhere : named (heads ⟨name.camel⟩) = []

theorem StaysPut.descends {name : ResourceName} (staysPut : name.StaysPut) : name.Descends where
  relative := staysPut.relative
  noStepUp stepUp := by
    have member : ['.', '.'] ∈ named (heads ⟨name.camel⟩) := List.mem_filter.2 ⟨stepUp, rfl⟩
    rw [staysPut.nowhere] at member
    cases member

theorem staysPut_of_notMem {name : ResourceName} (whole : '/' ∉ name.camel.toList) :
    name.StaysPut where
  relative := isAbsolute_of_notMem whole
  nowhere := by
    rw [heads, segments, splitOn_of_notMem whole]
    rfl

theorem pascal_ne_empty (name : ResourceName) : name.pascal ≠ "" := by
  rw [pascal, ResourceScaffold.upperFirst, ne_eq, String.ofList_eq_empty_iff]
  cases chars : name.camel.toList with
  | nil => exact absurd (by simpa using chars) name.camel_ne_empty
  | cons first rest => simp [Text.upperFirst, upper_ne_nil]

theorem isAbsolute_pascal (name : ResourceName) :
    isAbsolute ⟨name.pascal⟩ = isAbsolute ⟨name.camel⟩ :=
  (segments_upperFirst name.camel).1

theorem heads_pascal (name : ResourceName) :
    (named (heads ⟨name.pascal⟩) = [] ↔ named (heads ⟨name.camel⟩) = []) ∧
      (['.', '.'] ∈ heads ⟨name.pascal⟩ ↔ ['.', '.'] ∈ heads ⟨name.camel⟩) := by
  obtain ⟨-, first, first', rest, split, split', idle, stepUp⟩ := segments_upperFirst name.camel
  rw [pascal, heads, heads, split, split']
  cases rest with
  | nil => exact ⟨Iff.rfl, Iff.rfl⟩
  | cons second others =>
      rw [List.dropLast_cons_cons, List.dropLast_cons_cons, List.mem_cons, List.mem_cons]
      refine ⟨?_, or_congr_left (eq_comm.trans (stepUp.trans eq_comm))⟩
      cases isName : isIdle first with
      | true => rw [named_cons_of_isIdle isName, named_cons_of_isIdle (idle.trans isName)]
      | false =>
          rw [named_cons_of_busy isName, named_cons_of_busy (idle.trans isName)]
          exact iff_of_false (List.cons_ne_nil _ _) (List.cons_ne_nil _ _)

end ResourceName

/-! ## Files -/

namespace Generator

/-- A file name leads where the name of the resource leads, and ends in a name. -/
theorem fileNameOf_heads (generator : Generator) (layer : Layer) :
    isAbsolute ⟨generator.fileNameOf layer⟩ = isAbsolute ⟨generator.name.camel⟩ ∧
      (named (heads ⟨generator.fileNameOf layer⟩) = [] ↔
        named (heads ⟨generator.name.camel⟩) = []) ∧
      (['.', '.'] ∈ heads ⟨generator.fileNameOf layer⟩ ↔
        ['.', '.'] ∈ heads ⟨generator.name.camel⟩) ∧
      ∃ last, (segments ⟨generator.fileNameOf layer⟩).getLast? = some last ∧
        isIdle last = false ∧ last ≠ ['.', '.'] := by
  obtain ⟨stem, fileName, nonempty, absolute, nowhere, stepUp⟩ :
      ∃ stem, generator.fileNameOf layer = stem ++ layer.ending ∧ stem ≠ "" ∧
        isAbsolute ⟨stem⟩ = isAbsolute ⟨generator.name.camel⟩ ∧
        (named (heads ⟨stem⟩) = [] ↔ named (heads ⟨generator.name.camel⟩) = []) ∧
        (['.', '.'] ∈ heads ⟨stem⟩ ↔ ['.', '.'] ∈ heads ⟨generator.name.camel⟩) := by
    have pascal := generator.name.heads_pascal
    have absolute := generator.name.isAbsolute_pascal
    have nonempty := generator.name.pascal_ne_empty
    cases layer with
    | route => exact ⟨_, rfl, generator.name.camel_ne_empty, rfl, Iff.rfl, Iff.rfl⟩
    | controller | service | repository | test => exact ⟨_, rfl, nonempty, absolute, pascal⟩
  obtain ⟨last, split⟩ := segments_append stem layer.ending_whole
  have same : heads ⟨stem ++ layer.ending⟩ = heads ⟨stem⟩ := by
    rw [heads, split, List.dropLast_concat]
  have longer : 2 < (last ++ layer.ending.toList).length := by
    have bound : 2 < layer.ending.toList.length := by cases layer <;> decide +kernel
    rw [List.length_append]
    omega
  rw [fileName, isAbsolute_append nonempty, same, split, List.getLast?_concat]
  refine ⟨absolute, nowhere, stepUp, _, rfl, ?_, fun dots => ?_⟩
  · rw [isIdle, Bool.or_eq_false_iff, List.isEmpty_eq_false_iff, decide_eq_false_iff_not]
    exact ⟨fun empty => by simp [empty] at longer, fun dot => by simp [dot] at longer⟩
  · simp [dots] at longer

/-- The file of a layer is directly inside the directory of the layer exactly if the name leads
nowhere. -/
theorem pathFor_isDirectlyIn_iff {generator : Generator} {layer : Layer}
    (relative : (generator.directoryOf layer).isAbsolute = false) :
    (generator.pathFor layer).IsDirectlyIn (generator.directoryOf layer) ↔
      generator.name.StaysPut := by
  obtain ⟨absolute, nowhere, -, last, found, busy, noStepUp⟩ := generator.fileNameOf_heads layer
  rw [pathFor, isDirectlyIn_join_iff relative found busy noStepUp, absolute, nowhere]
  exact ⟨fun ⟨first, second⟩ => ⟨first, second⟩, fun ⟨first, second⟩ => ⟨first, second⟩⟩

/-- The file of a layer leads down if the directory of the layer and the name do. -/
theorem pathFor_descends {generator : Generator} {layer : Layer}
    (descends : (generator.directoryOf layer).Descends) (further : generator.name.Descends) :
    (generator.pathFor layer).Descends := by
  obtain ⟨absolute, -, stepUp, last, found, -, noStepUp⟩ := generator.fileNameOf_heads layer
  refine descends.join ((descends_iff_heads found noStepUp).2 ⟨?_, ?_⟩)
  · rw [absolute, further.relative]
  · rw [stepUp]
    exact further.noStepUp

end Generator

end ResourceScaffold
