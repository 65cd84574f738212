import ResourceScaffold.Proofs.Generator.Layers
import ResourceScaffold.Proofs.Name.Forms

/-!
Contract: the file names of the layers.

Owns:
- that the file name of a layer is one name, which is not a step up;
- that the file names of an identifier keep to the directory of their layer.

Does not own: the directories.
-/

namespace ResourceScaffold

open Text

namespace Generator

theorem fileNameOf_toList (generator : Generator) (layer : Layer) :
    ∃ stem, (generator.fileNameOf layer).toList = stem ++ layer.ending.toList := by
  obtain ⟨stem, fileName⟩ := generator.fileNameOf_eq layer
  exact ⟨stem.toList, by rw [fileName, String.toList_append]⟩

theorem fileNameOf_busy (generator : Generator) (layer : Layer) :
    Path.isIdle (generator.fileNameOf layer).toList = false ∧
      (generator.fileNameOf layer).toList ≠ ['.', '.'] := by
  obtain ⟨stem, chars⟩ := generator.fileNameOf_toList layer
  have longer : 2 < (generator.fileNameOf layer).toList.length := by
    have bound : 2 < layer.ending.toList.length := by cases layer <;> decide +kernel
    rw [chars, List.length_append]
    omega
  constructor
  · rw [Path.isIdle, Bool.or_eq_false_iff, List.isEmpty_eq_false_iff, decide_eq_false_iff_not]
    constructor
    · intro none
      simp [none] at longer
    · intro dot
      simp [dot] at longer
  · intro dots
    simp [dots] at longer

/-- The file names of different layers are different, even those of different resources. -/
theorem fileNameOf_inj {generator generator' : Generator} {first second : Layer}
    (same : (generator.fileNameOf first).toList = (generator'.fileNameOf second).toList) :
    first = second := by
  obtain ⟨stem, chars⟩ := generator.fileNameOf_toList first
  obtain ⟨stem', chars'⟩ := generator'.fileNameOf_toList second
  exact Layer.eq_of_endings (chars.symm.trans (same.trans chars'))

theorem slash_notMem_fileNameOf {generator : Generator}
    (identifier : IsIdentifier generator.name.camel) (layer : Layer) :
    '/' ∉ (generator.fileNameOf layer).toList := by
  have inCamel := notMem_of_isIdentifier identifier '/' (by decide)
  have inPascal : '/' ∉ generator.name.pascal.toList := fun member =>
    absurd (continuesIdentifier_of_mem_pascal identifier member) (by decide)
  cases layer <;> simp [fileNameOf, inCamel, inPascal]

end Generator

/-! ## A name to try things with -/

theorem order_ne_empty : "order" ≠ "" := by
  decide

def orderName : ResourceName :=
  ⟨"order", order_ne_empty⟩

end ResourceScaffold
