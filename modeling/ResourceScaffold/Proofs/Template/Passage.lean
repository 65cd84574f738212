import ResourceScaffold.Proofs.Template.Variables
import Mathlib.Data.List.Dedup
import Mathlib.Data.List.Sublists

/-!
Contract: templates of text, fields and conditions on fields.

Owns:
- what such a template consists of, without the places that only faults report;
- which fields it needs, and that it renders to their values if they are all there.

Does not own: loops, embedded templates and calls.
-/

namespace ResourceScaffold.Template

/-! ## Glyphs -/

/-- A character that is written as it stands, or the value of a field. -/
inductive Glyph where
  | char (character : Char)
  | field (name : String)
deriving DecidableEq, Repr

/-- Glyphs that are always written, or only if a field is as expected: `true` expects a text that is
not empty. -/
inductive Passage where
  | always (glyphs : List Glyph)
  | guarded (expected : Bool) (name : String) (glyphs : List Glyph)
deriving DecidableEq, Repr

namespace Glyph

def name? : Glyph → Option String
  | char _ => none
  | field name => some name

def written (textOf : String → String) : Glyph → List Char
  | char character => [character]
  | field name => (textOf name).toList

end Glyph

namespace Passage

def guard? : Passage → Option String
  | always _ => none
  | guarded _ name _ => some name

/-- The fields that a passage needs. -/
def names : Passage → List String
  | always glyphs => glyphs.filterMap Glyph.name?
  | guarded _ name glyphs => name :: glyphs.filterMap Glyph.name?

/-- The glyphs that are written, given which fields hold a text that is not empty. -/
def shown (holds : String → Bool) : Passage → List Glyph
  | always glyphs => glyphs
  | guarded expected name glyphs => if holds name = expected then glyphs else []

end Passage

/-- The glyphs of passages, given which fields hold a text that is not empty. -/
def outline (holds : String → Bool) (passages : List Passage) : List Glyph :=
  passages.flatMap (Passage.shown holds)

def written (textOf : String → String) (glyphs : List Glyph) : List Char :=
  glyphs.flatMap (Glyph.written textOf)

def writtenPassages (textOf : String → String) (passages : List Passage) : List Char :=
  written textOf (outline (fun name => !(textOf name).isEmpty) passages)

@[simp] theorem written_nil (textOf : String → String) : written textOf [] = [] := rfl

@[simp] theorem written_append (textOf : String → String) (first second : List Glyph) :
    written textOf (first ++ second) = written textOf first ++ written textOf second :=
  List.flatMap_append

theorem written_chars (textOf : String → String) (content : List Char) :
    written textOf (content.map .char) = content := by
  induction content with
  | nil => rfl
  | cons character rest inductionHypothesis =>
      rw [List.map_cons, written, List.flatMap_cons]
      exact congrArg (character :: ·) inductionHypothesis

theorem writtenPassages_cons (textOf : String → String) (passage : Passage)
    (rest : List Passage) :
    writtenPassages textOf (passage :: rest) =
      written textOf (passage.shown fun name => !(textOf name).isEmpty) ++
        writtenPassages textOf rest := by
  rw [writtenPassages, outline, List.flatMap_cons, written_append]
  rfl

/-! ### Finitely many outlines -/

theorem Passage.shown_congr {passage : Passage} {holds holds' : String → Bool}
    (same : ∀ name ∈ passage.guard?, holds name = holds' name) :
    passage.shown holds = passage.shown holds' := by
  cases passage with
  | always glyphs => rfl
  | guarded expected name glyphs => rw [shown, shown, same name rfl]

theorem outline_congr {passages : List Passage} {holds holds' : String → Bool}
    (same : ∀ passage ∈ passages, ∀ name ∈ passage.guard?, holds name = holds' name) :
    outline holds passages = outline holds' passages :=
  List.flatMap_congr fun passage member => Passage.shown_congr (same passage member)

/-- Which of the fields that are guards hold a text is one of finitely many choices. -/
theorem exists_choice (passages : List Passage) (holds : String → Bool) :
    ∃ present ∈ (passages.filterMap Passage.guard?).dedup.sublists,
      ∀ passage ∈ passages, ∀ name ∈ passage.guard?, holds name = present.contains name := by
  refine ⟨(passages.filterMap Passage.guard?).dedup.filter holds,
    List.mem_sublists.2 List.filter_sublist, fun passage member name isGuard => ?_⟩
  have guards : name ∈ (passages.filterMap Passage.guard?).dedup :=
    List.mem_dedup.2 (List.mem_filterMap.2 ⟨passage, member, isGuard⟩)
  cases held : holds name <;> simp [guards, held]

/-- What holds of the outlines for all choices of fields that are guards holds of every outline. -/
theorem forall_outline {property : List Glyph → Prop} {passages : List Passage}
    (checked : ∀ present ∈ (passages.filterMap Passage.guard?).dedup.sublists,
      property (outline (fun name => present.contains name) passages)) (holds : String → Bool) :
    property (outline holds passages) := by
  -- What a passage shows depends on its own guard only, which is among those that are chosen from.
  obtain ⟨present, isChoice, chosen⟩ := exists_choice passages holds
  rw [outline_congr chosen]
  exact checked present isChoice

/-! ## Reading nodes -/

/-- The field that an operand names, if it is no more than that. -/
def Operand.fieldName? : Operand → Option String
  | .reference named =>
      if named = fieldReference named.text ∧ Helper.ofName? named.text = none then some named.text
      else none
  | _ => none

def Node.part? : Node → Option Part
  | .text content => some (.literal content)
  | .output operand place => operand.fieldName?.map fun name => .field name place
  | _ => none

def Part.glyphs : Part → List Glyph
  | literal content => content.map .char
  | field name _ => [.field name]

def Node.passage? : Node → Option Passage
  | .block call _ body none _ =>
      match Helper.ofName? call.name, call.arguments, call.options with
      | some (.condition expected), [operand], [] =>
          operand.fieldName?.bind fun name =>
            (body.mapM Node.part?).map fun parts => .guarded expected name (parts.flatMap Part.glyphs)
      | _, _, _ => none
  | node => node.part?.map fun part => .always part.glyphs

theorem Operand.fieldName?_eq_some {operand : Operand} {name : String}
    (names : operand.fieldName? = some name) :
    operand = .reference (fieldReference name) ∧ Helper.ofName? name = none := by
  unfold fieldName? at names
  split at names
  · split_ifs at names with plain
    cases names
    exact ⟨congrArg Operand.reference plain.1, plain.2⟩
  · cases names

theorem Node.part?_eq_some {node : Node} {part : Part} (read : node.part? = some part) :
    node = part.node ∧ ∀ name place, part = .field name place → Helper.ofName? name = none := by
  unfold part? at read
  split at read
  · cases read
    exact ⟨rfl, nofun⟩
  · rename_i operand place
    obtain ⟨name, names, rfl⟩ := Option.map_eq_some_iff.1 read
    obtain ⟨rfl, noHelper⟩ := Operand.fieldName?_eq_some names
    refine ⟨rfl, fun _ _ same => ?_⟩
    cases same
    exact noHelper
  · cases read

theorem mapM_part?_eq_some {nodes : List Node} {parts : List Part}
    (read : nodes.mapM Node.part? = some parts) :
    nodes = parts.map Part.node ∧
      ∀ part ∈ parts, ∀ name place, part = .field name place → Helper.ofName? name = none := by
  induction nodes generalizing parts with
  | nil =>
      cases read
      exact ⟨rfl, nofun⟩
  | cons node rest inductionHypothesis =>
      rw [List.mapM_cons] at read
      obtain ⟨part, first, others⟩ := Option.bind_eq_some_iff.1 read
      obtain ⟨parts', second, ends⟩ := Option.bind_eq_some_iff.1 others
      cases ends
      obtain ⟨rfl, noHelper⟩ := Node.part?_eq_some first
      obtain ⟨rfl, noHelpers⟩ := inductionHypothesis second
      exact ⟨rfl, List.forall_mem_cons.2 ⟨noHelper, noHelpers⟩⟩

theorem Part.written_eq (textOf : String → String) (part : Part) :
    part.written (fun name => .string (textOf name)) =
      Template.written textOf part.glyphs := by
  cases part with
  | literal content => exact (written_chars textOf content).symm
  | field name place =>
      rw [glyphs, Template.written, List.flatMap_singleton]
      rfl

theorem written_parts (textOf : String → String) (parts : List Part) :
    parts.flatMap (Part.written fun name => .string (textOf name)) =
      written textOf (parts.flatMap Part.glyphs) := by
  rw [written, List.flatMap_assoc]
  exact List.flatMap_congr fun part _ => part.written_eq textOf

/-- Parts find their fields if the data has what their glyphs name. -/
theorem Part.finds_of_glyphs {data : Value} {valueOf : String → Value} {parts : List Part}
    (noHelper : ∀ part ∈ parts, ∀ name place,
      part = .field name place → Helper.ofName? name = none)
    (known : ∀ name ∈ (parts.flatMap Part.glyphs).filterMap Glyph.name?,
      data.field? name = some (valueOf name)) :
    ∀ part ∈ parts, part.Finds data valueOf := by
  intro part member
  cases part with
  | literal content => trivial
  | field name place =>
      refine ⟨noHelper _ member name place rfl, known name ?_⟩
      have shown : Glyph.field name ∈ parts.flatMap Part.glyphs :=
        List.mem_flatMap.2 ⟨_, member, List.mem_singleton_self _⟩
      exact List.mem_filterMap.2 ⟨_, shown, rfl⟩

/-! ## Rendering -/

section Rendering

variable (embed : Embedder) (registered : String → Option Entry) {fields : List (String × Value)}
  {textOf : String → String}

theorem renderNodes_of_part? {nodes : List Node} {parts : List Part}
    (read : nodes.mapM Node.part? = some parts)
    (known : ∀ name ∈ (parts.flatMap Part.glyphs).filterMap Glyph.name?,
      (Value.record fields).field? name = some (.string (textOf name))) (progress : Progress) :
    ∃ last, renderNodes embed registered (.ofData (.record fields)) nodes progress =
      .ok (written textOf (parts.flatMap Part.glyphs), last) := by
  obtain ⟨rfl, noHelper⟩ := mapM_part?_eq_some read
  rw [← written_parts]
  exact renderNodes_parts embed registered (Part.finds_of_glyphs noHelper known) progress

/-- A node that is read as a part renders to the text of its glyphs. -/
theorem renderNode_of_part? {node : Node} {part : Part} (read : node.part? = some part)
    (known : ∀ name ∈ part.glyphs.filterMap Glyph.name?,
      (Value.record fields).field? name = some (.string (textOf name))) (progress : Progress) :
    ∃ next, renderNode embed registered (.ofData (.record fields)) node progress =
      .ok (written textOf part.glyphs, next) := by
  obtain ⟨rfl, noHelper⟩ := Node.part?_eq_some read
  have finds := Part.finds_of_glyphs (List.forall_mem_singleton.2 noHelper)
    (by simpa using known) part (List.mem_singleton_self part)
  rw [← Part.written_eq]
  exact renderNode_part embed registered finds progress

/-- What is rendered for a tag is written as it is, whatever becomes of the margin. -/
theorem forTag_ok (due : Bool) {render : Progress → Rendered} {text : List Char}
    (renders : ∀ progress, ∃ next, render progress = .ok (text, next)) (progress : Progress) :
    ∃ next, forTag due render progress = .ok (text, next) := by
  obtain ⟨next, rendered⟩ := renders { progress with wrote := false, marginDue := due }
  exact ⟨_, by rw [forTag, rendered]⟩

/-- A condition renders its block if its argument counts as expected, and nothing otherwise. -/
theorem renderHelper_condition (expected : Bool) (call : Call) (around : Surroundings)
    (found : Found) (body : Surroundings → Progress → Rendered) (progress : Progress) :
    renderHelper (.condition expected) call around [found] [] body none progress =
      if found.orNull.isTrue false = expected then body around progress else .ok ([], progress) :=
  rfl

theorem renderNode_condition {call : Call} {expected : Bool} {name : String}
    (helper : Helper.ofName? call.name = some (.condition expected))
    (arguments : call.arguments = [.reference (fieldReference name)]) (options : call.options = [])
    (ownLine : Bool) (body : List Node) (place : Option Place) (progress : Progress) :
    renderNode embed registered (.ofData (.record fields)) (.block call ownLine body none place)
        progress =
      placed place (forTag (progress.marginDue || (ownLine && progress.endedLine))
        (renderHelper (.condition expected) call (.ofData (.record fields))
          [⟨(Value.record fields).field? name, some name⟩] []
          (fun around progress => renderNodes embed registered around body progress.inBlock) none)
        progress) := by
  rw [renderNode]
  simp only [arguments, options, findArguments, findOptions, findOperand_fieldReference, causing,
    helper, renderOtherwise]
  rfl

/-- A node that is read as a passage renders to the text of the passage. -/
theorem renderNode_of_passage? {node : Node} {passage : Passage}
    (read : node.passage? = some passage)
    (known : ∀ name ∈ passage.names,
      (Value.record fields).field? name = some (.string (textOf name))) (progress : Progress) :
    ∃ next, renderNode embed registered (.ofData (.record fields)) node progress =
      .ok (written textOf (passage.shown fun name => !(textOf name).isEmpty), next) := by
  unfold Node.passage? at read
  split at read
  · rename_i call ownLine body place
    split at read
    · rename_i expected operand helper arguments options
      obtain ⟨name, named, isParts⟩ := Option.bind_eq_some_iff.1 read
      obtain ⟨parts, bodyRead, rfl⟩ := Option.map_eq_some_iff.1 isParts
      obtain ⟨rfl, -⟩ := Operand.fieldName?_eq_some named
      rw [Passage.names, List.forall_mem_cons] at known
      have renders : ∀ inner, ∃ next, renderHelper (.condition expected) call
          (.ofData (.record fields)) [⟨some (.string (textOf name)), some name⟩] []
          (fun around progress => renderNodes embed registered around body progress.inBlock)
          none inner =
            .ok (written textOf (Passage.shown (fun name => !(textOf name).isEmpty)
              (.guarded expected name (parts.flatMap Part.glyphs))), next) := by
        intro inner
        have counts : (Found.orNull ⟨some (.string (textOf name)), some name⟩).isTrue false =
            !(textOf name).isEmpty := rfl
        rw [renderHelper_condition, counts, Passage.shown]
        split_ifs
        · exact renderNodes_of_part? embed registered bodyRead known.2 inner.inBlock
        · exact ⟨inner, rfl⟩
      obtain ⟨next, rendered⟩ :=
        forTag_ok (progress.marginDue || (ownLine && progress.endedLine)) renders progress
      refine ⟨next, ?_⟩
      rw [renderNode_condition embed registered helper arguments options, known.1, rendered]
      rfl
    · cases read
  · obtain ⟨part, isPart, rfl⟩ := Option.map_eq_some_iff.1 read
    exact renderNode_of_part? embed registered isPart known progress

theorem renderNodes_of_passage? {nodes : List Node} {passages : List Passage}
    (read : nodes.mapM Node.passage? = some passages)
    (known : ∀ passage ∈ passages, ∀ name ∈ passage.names,
      (Value.record fields).field? name = some (.string (textOf name))) (progress : Progress) :
    ∃ last, renderNodes embed registered (.ofData (.record fields)) nodes progress =
      .ok (writtenPassages textOf passages, last) := by
  induction nodes generalizing passages progress with
  | nil =>
      cases read
      exact ⟨progress, by simp [renderNodes, writtenPassages, outline]⟩
  | cons node rest inductionHypothesis =>
      rw [List.mapM_cons] at read
      obtain ⟨passage, first, others⟩ := Option.bind_eq_some_iff.1 read
      obtain ⟨passages', second, ends⟩ := Option.bind_eq_some_iff.1 others
      cases ends
      rw [List.forall_mem_cons] at known
      obtain ⟨next, rendered⟩ := renderNode_of_passage? embed registered first known.1 progress
      obtain ⟨last, rendered'⟩ := inductionHypothesis second known.2 next
      exact ⟨last, by simp [renderNodes, rendered, rendered', writtenPassages_cons]⟩

theorem render_passages {name : Option String} {nodes : List Node} {passages : List Passage}
    (read : nodes.mapM Node.passage? = some passages)
    (known : ∀ passage ∈ passages, ∀ name ∈ passage.names,
      (Value.record fields).field? name = some (.string (textOf name))) :
    render registered ⟨name, nodes⟩ (.record fields) =
      .ok (String.ofList (writtenPassages textOf passages)) := by
  obtain ⟨last, rendered⟩ := renderNodes_of_passage? (renderWithin registered 999) registered read
    known { Progress.start with rendering := name }
  rw [render, embeddingLimit, renderWithin, rendered]
  rfl

end Rendering

end ResourceScaffold.Template
