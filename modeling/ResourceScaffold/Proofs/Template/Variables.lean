import ResourceScaffold.Proofs.Template.Standard
import Mathlib.Data.List.Basic

/-!
Contract: what text and variables render to.

Owns:
- looking up the fields of a record;
- nodes that are text or name one field of the data, and their text.

Does not own: blocks and embedded templates.
-/

namespace ResourceScaffold

/-! ## Records -/

namespace Value

theorem lookup_setField_self (key : String) (value : Value) (fields : List (String × Value)) :
    (setField key value fields).lookup key = some value := by
  induction fields with
  | nil => simp [setField]
  | cons field rest inductionHypothesis =>
      obtain ⟨first, found⟩ := field
      rw [setField]
      split_ifs with same ahead
      · simp
      · simp
      · have other : (key == first) = false := by simpa using same
        simp [List.lookup_cons, other, inductionHypothesis]

theorem lookup_setField_of_ne {key other : String} (value : Value)
    (fields : List (String × Value)) (different : other ≠ key) :
    (setField key value fields).lookup other = fields.lookup other := by
  have unequal : (other == key) = false := by simpa using different
  induction fields with
  | nil => simp [setField, List.lookup_cons, unequal]
  | cons field rest inductionHypothesis =>
      obtain ⟨first, found⟩ := field
      rw [setField]
      split_ifs with same ahead
      · subst same
        simp [List.lookup_cons, unequal]
      · simp [List.lookup_cons, unequal]
      · simp [List.lookup_cons, inductionHypothesis]

/-- A field of a record made of fields is the last one given for its key. -/
theorem field?_ofFields_reverse (key : String) (fields : List (String × Value)) :
    (ofFields fields).field? key = fields.reverse.lookup key := by
  have general (sorted : List (String × Value)) :
      (fields.foldl (fun sorted field => setField field.1 field.2 sorted) sorted).lookup key =
        (fields.reverse ++ sorted).lookup key := by
    induction fields generalizing sorted with
    | nil => rfl
    | cons field rest inductionHypothesis =>
        obtain ⟨first, found⟩ := field
        rw [List.foldl_cons, inductionHypothesis, List.reverse_cons, List.append_assoc,
          List.lookup_append, List.lookup_append, List.singleton_append, List.lookup_cons]
        by_cases same : key = first
        · subst same
          simp [lookup_setField_self]
        · have unequal : (key == first) = false := by simpa using same
          simp [lookup_setField_of_ne _ _ same, unequal]
  simpa [ofFields, field?] using general []

theorem field?_ofFields (key : String) {fields : List (String × Value)}
    (distinct : (fields.map Prod.fst).Nodup) :
    (ofFields fields).field? key = fields.lookup key := by
  rw [field?_ofFields_reverse]
  induction fields with
  | nil => rfl
  | cons field rest inductionHypothesis =>
      obtain ⟨first, found⟩ := field
      rw [List.map_cons, List.nodup_cons] at distinct
      rw [List.reverse_cons, List.lookup_append, inductionHypothesis distinct.2]
      by_cases same : key = first
      · subst same
        have absent : rest.lookup key = none := by
          rw [List.lookup_eq_none_iff]
          rintro ⟨other, value⟩ member
          have apart : key ≠ other := by
            rintro rfl
            exact distinct.1 (List.mem_map.2 ⟨_, member, rfl⟩)
          simpa using apart
        simp [absent]
      · have unequal : (key == first) = false := by simpa using same
        simp [List.lookup_cons, unequal]

end Value

namespace Template

/-! ## Parts -/

def fieldReference (name : String) : Reference := ⟨name, false, false, 0, [name]⟩

/-- A part of a template without blocks: text as it stands, or the value of a field. -/
inductive Part where
  | literal (content : List Char)
  | field (name : String) (place : Place)

namespace Part

def node : Part → Node
  | literal content => .text content
  | field name place => .output (.reference (fieldReference name)) place

/-- What a part renders to, given the values of the fields. -/
def written (valueOf : String → Value) : Part → List Char
  | literal content => content
  | field name _ => (valueOf name).text

/-- Whether the data has the field that a part names, under the value that is expected. -/
def Finds (data : Value) (valueOf : String → Value) : Part → Prop
  | literal _ => True
  | field name _ => Helper.ofName? name = none ∧ data.field? name = some (valueOf name)

end Part

/-! ## Rendering -/

@[simp] theorem withMargin_nil (text : List Char) : withMargin [] text = text := by
  induction text with
  | nil => rfl
  | cons character rest inductionHypothesis => simp [withMargin, inductionHypothesis]

theorem write_nil (text : List Char) (progress : Progress) :
    write [] text progress = (text, (write [] text progress).2) := by
  refine Prod.ext ?_ rfl
  unfold write
  by_cases empty : text = []
  · simp [empty]
  · simp [empty]

theorem valueOf_fieldReference (fields : List (String × Value)) (name : String) :
    valueOf (.ofData (.record fields)) (fieldReference name) =
      .ok ((Value.record fields).field? name) := by
  have unnamed : [name].head?.bind (blockName? [Scope.ofValue (.record fields)]) = none := by
    simp [blockName?, Scope.ofValue]
  simp only [valueOf, fieldReference, Surroundings.ofData, Bool.false_eq_true, if_false, unnamed]
  rfl

/-- A field of the data is found under its name, or found to be missing. -/
theorem findOperand_fieldReference (fields : List (String × Value)) (name : String) :
    findOperand (.ofData (.record fields)) (.reference (fieldReference name)) =
      .ok ⟨(Value.record fields).field? name, some name⟩ := by
  rw [findOperand, valueOf_fieldReference]
  rfl

section Rendering

variable (embed : Embedder) (registered : String → Option Entry) {fields : List (String × Value)}
  {valueOf : String → Value}

theorem renderNode_part {part : Part} (finds : part.Finds (.record fields) valueOf)
    (progress : Progress) :
    ∃ next, renderNode embed registered (.ofData (.record fields)) part.node progress =
      .ok (part.written valueOf, next) := by
  cases part with
  | literal content =>
      refine ⟨(write [] content progress).2, ?_⟩
      rw [Part.node, renderNode, Part.written, ← write_nil]
      rfl
  | field name place =>
      obtain ⟨noHelper, found⟩ := finds
      refine ⟨(write [] (valueOf name).text progress).2, ?_⟩
      have noCall : Helper.ofName? (fieldReference name).text = none := noHelper
      have output : renderOutput (.ofData (.record fields)) (.reference (fieldReference name))
          progress = .ok (write [] (valueOf name).text progress) := by
        simp only [renderOutput, findOperand_fieldReference, found, causing, pure_bind, noCall,
          Option.isSome_none, Bool.false_eq_true, if_false]
        rfl
      rw [Part.node, renderNode, output, Part.written, ← write_nil]
      rfl

theorem renderNodes_parts {parts : List Part}
    (finds : ∀ part ∈ parts, part.Finds (.record fields) valueOf) (progress : Progress) :
    ∃ last, renderNodes embed registered (.ofData (.record fields)) (parts.map Part.node) progress =
      .ok (parts.flatMap (Part.written valueOf), last) := by
  induction parts generalizing progress with
  | nil => exact ⟨progress, by simp [renderNodes]⟩
  | cons part rest inductionHypothesis =>
      obtain ⟨next, rendered⟩ := renderNode_part embed registered
        (finds part List.mem_cons_self) progress
      obtain ⟨last, others⟩ := inductionHypothesis
        (fun other member => finds other (List.mem_cons_of_mem _ member)) next
      exact ⟨last, by simp [renderNodes, rendered, others]⟩

/-- A template of parts renders to the text of its parts. -/
theorem render_parts {name : Option String} {parts : List Part}
    (finds : ∀ part ∈ parts, part.Finds (.record fields) valueOf) :
    render registered ⟨name, parts.map Part.node⟩ (.record fields) =
      .ok (String.ofList (parts.flatMap (Part.written valueOf))) := by
  obtain ⟨last, rendered⟩ := renderNodes_parts (renderWithin registered 999) registered finds
    { Progress.start with rendering := name }
  rw [render, embeddingLimit, renderWithin, rendered]
  rfl

end Rendering

end Template

end ResourceScaffold
