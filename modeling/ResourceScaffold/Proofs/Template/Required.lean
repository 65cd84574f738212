import ResourceScaffold.Proofs.Template.Passage

/-!
Contract: the fields without which a template cannot be rendered.

Owns:
- the fields that nodes print whatever the data is;
- blocks that print no field but their own guard, and so never miss one;
- that rendering fails exactly if a printed field is missing, at the first one that is;
- the fields that the templates of the program require.

Does not own: the text that is rendered.
-/

namespace ResourceScaffold.Template

/-! ## Prints -/

/-- A field that is printed, and the place of its tag. -/
structure Print where
  name : String
  place : Place
deriving DecidableEq, Repr

namespace Print

def isMissing (data : Value) (print : Print) : Bool := (data.field? print.name).isNone

def fault (print : Print) (template : Option String) : RenderFault :=
  ⟨.missingVariable (some print.name), some print.place, template⟩

end Print

/-- The print that a node is. A field inside a block is printed only if the block is rendered, so a
block is no print. -/
def Node.print? : Node → Option Print
  | .output operand place => operand.fieldName?.map fun name => ⟨name, place⟩
  | _ => none

/-- What nodes print whatever the data is, in order. -/
def printsOf (nodes : List Node) : List Print :=
  nodes.filterMap Node.print?

/-- The first print of some kind is one of the first node, or else the first of the others. -/
theorem find?_printsOf_cons (node : Node) (rest : List Node) (kind : Print → Bool) :
    (printsOf (node :: rest)).find? kind =
      (node.print?.filter kind).or ((printsOf rest).find? kind) := by
  rw [printsOf, List.filterMap_cons]
  cases node.print? with
  | none => rfl
  | some print =>
      rw [List.find?_cons, Option.filter_some]
      cases kind print <;> rfl

/-- Whether a passage that is guarded shows no field but its guard, and that one only if the guard has
to be true. -/
def Passage.guardsItself : Passage → Bool
  | always _ => true
  | guarded expected name glyphs =>
      (glyphs.filterMap Glyph.name?).all fun shown => expected && shown == name

/-- Whether a node is text, the print of a field or a block that guards itself. -/
def Node.guardsItself (node : Node) : Bool :=
  node.passage?.any Passage.guardsItself

/-- What counts as true is there, since what is missing counts as null. -/
theorem Found.isSome_of_isTrue {found : Found} (holds : found.orNull.isTrue false = true) :
    found.value.isSome := by
  cases present : found.value with
  | some value => rfl
  | none =>
      rw [Found.orNull, present] at holds
      cases holds

/-! ## Rendering -/

section Rendering

variable (embed : Embedder) (registered : String → Option Entry) {fields : List (String × Value)}

theorem renderNode_of_isMissing {node : Node} {print : Print} (isPrint : node.print? = some print)
    (missing : print.isMissing (.record fields) = true) (progress : Progress) :
    renderNode embed registered (.ofData (.record fields)) node progress =
      .error (print.fault none) := by
  cases node with
  | output operand place =>
      obtain ⟨name, named, rfl⟩ := Option.map_eq_some_iff.1 isPrint
      obtain ⟨rfl, noHelper⟩ := Operand.fieldName?_eq_some named
      have absent : (Value.record fields).field? name = none := Option.isNone_iff_eq_none.1 missing
      have noCall : Helper.ofName? (fieldReference name).text = none := noHelper
      have output : renderOutput (.ofData (.record fields)) (.reference (fieldReference name))
          progress = .error (.ofCause (.missingVariable (some name))) := by
        simp only [renderOutput, findOperand_fieldReference, absent, causing, pure_bind, noCall,
          Option.isSome_none, Bool.false_eq_true, if_false]
        rfl
      rw [renderNode, output]
      rfl
  | _ => cases isPrint

theorem Part.finds_of_isSome {data : Value} {parts : List Part}
    (noHelper : ∀ part ∈ parts, ∀ name place,
      part = .field name place → Helper.ofName? name = none)
    (present : ∀ name ∈ (parts.flatMap Part.glyphs).filterMap Glyph.name?,
      (data.field? name).isSome) :
    ∀ part ∈ parts, part.Finds data fun name => (data.field? name).getD .null := by
  refine Part.finds_of_glyphs noHelper fun name shown => ?_
  obtain ⟨value, found⟩ := Option.isSome_iff_exists.1 (present name shown)
  rw [found, Option.getD_some]

/-- Nodes that are read as parts are rendered if the fields of the parts are there. -/
theorem renderNodes_of_isSome {nodes : List Node} {parts : List Part}
    (read : nodes.mapM Node.part? = some parts)
    (present : ∀ name ∈ (parts.flatMap Part.glyphs).filterMap Glyph.name?,
      ((Value.record fields).field? name).isSome) :
    ∃ text, ∀ progress, ∃ next,
      renderNodes embed registered (.ofData (.record fields)) nodes progress =
        .ok (text, next) := by
  obtain ⟨rfl, noHelper⟩ := mapM_part?_eq_some read
  exact ⟨_, renderNodes_parts embed registered (Part.finds_of_isSome noHelper present)⟩

/-- A block whose parts show no field but its guard is rendered, whether the guard is there or not. -/
theorem renderNode_of_ownGuard {call : Call} {expected : Bool} {name : String} {body : List Node}
    {parts : List Part} (helper : Helper.ofName? call.name = some (.condition expected))
    (arguments : call.arguments = [.reference (fieldReference name)]) (options : call.options = [])
    (read : body.mapM Node.part? = some parts)
    (own : ∀ shown ∈ (parts.flatMap Part.glyphs).filterMap Glyph.name?,
      expected = true ∧ shown = name)
    (ownLine : Bool) (place : Option Place) (progress : Progress) :
    ∃ text next, renderNode embed registered (.ofData (.record fields))
      (.block call ownLine body none place) progress = .ok (text, next) := by
  obtain ⟨text, renders⟩ : ∃ text, ∀ inner, ∃ next,
      renderHelper (.condition expected) call (.ofData (.record fields))
        [⟨(Value.record fields).field? name, some name⟩] []
        (fun around progress => renderNodes embed registered around body progress.inBlock) none
        inner = .ok (text, next) := by
    simp only [renderHelper_condition]
    split_ifs with holds
    · -- What is shown is the guard, which then has to be true.
      have present : ∀ shown ∈ (parts.flatMap Part.glyphs).filterMap Glyph.name?,
          ((Value.record fields).field? shown).isSome := by
        intro shown member
        obtain ⟨isTrue, rfl⟩ := own shown member
        exact Found.isSome_of_isTrue (holds.trans isTrue)
      obtain ⟨text, rendered⟩ := renderNodes_of_isSome embed registered read present
      exact ⟨text, fun inner => rendered inner.inBlock⟩
    · exact ⟨[], fun inner => ⟨inner, rfl⟩⟩
  obtain ⟨next, rendered⟩ :=
    forTag_ok (progress.marginDue || (ownLine && progress.endedLine)) renders progress
  rw [renderNode_condition embed registered helper arguments options, rendered]
  exact ⟨text, next, rfl⟩

/-- A node that guards itself is rendered if it is no print of a missing field. -/
theorem renderNode_of_guardsItself {node : Node} (guards : node.guardsItself = true)
    (present : ∀ print ∈ node.print?, print.isMissing (.record fields) = false)
    (progress : Progress) :
    ∃ text next, renderNode embed registered (.ofData (.record fields)) node progress =
      .ok (text, next) := by
  obtain ⟨passage, read, guards⟩ := (Option.any_eq_true _ _).1 guards
  unfold Node.passage? at read
  split at read
  · rename_i call ownLine body place
    split at read
    · rename_i expected operand helper arguments options
      obtain ⟨name, named, isParts⟩ := Option.bind_eq_some_iff.1 read
      obtain ⟨parts, bodyRead, rfl⟩ := Option.map_eq_some_iff.1 isParts
      obtain ⟨rfl, -⟩ := Operand.fieldName?_eq_some named
      refine renderNode_of_ownGuard embed registered helper arguments options bodyRead ?_ _ _ _
      intro shown member
      simpa using List.all_eq_true.1 guards shown member
    · cases read
  · obtain ⟨part, isPart, rfl⟩ := Option.map_eq_some_iff.1 read
    obtain ⟨rfl, noHelper⟩ := Node.part?_eq_some isPart
    have shows : ∀ name ∈ ([part].flatMap Part.glyphs).filterMap Glyph.name?,
        ((Value.record fields).field? name).isSome := by
      intro name shown
      cases part with
      | literal content => simp [Part.glyphs, Glyph.name?] at shown
      | field name' place =>
          obtain rfl : name = name' := by simpa [Part.glyphs, Glyph.name?] using shown
          have isPrint : (Part.field name place).node.print? = some ⟨name, place⟩ := by
            simp [Part.node, Node.print?, Operand.fieldName?, fieldReference,
              noHelper name place rfl]
          simpa [Print.isMissing] using present _ isPrint
    have finds := Part.finds_of_isSome (List.forall_mem_singleton.2 noHelper) shows part
      (List.mem_singleton_self part)
    exact ⟨_, renderNode_part embed registered finds progress⟩

/-- Nodes that guard themselves are rendered if none of them prints a missing field. -/
theorem renderNodes_of_guardsItself {nodes : List Node}
    (guards : ∀ node ∈ nodes, node.guardsItself = true)
    (present : ∀ print ∈ printsOf nodes, print.isMissing (.record fields) = false)
    (progress : Progress) :
    ∃ text last, renderNodes embed registered (.ofData (.record fields)) nodes progress =
      .ok (text, last) := by
  induction nodes generalizing progress with
  | nil => exact ⟨[], progress, by rw [renderNodes]⟩
  | cons node rest inductionHypothesis =>
      rw [List.forall_mem_cons] at guards
      have here : ∀ print ∈ node.print?, print.isMissing (.record fields) = false :=
        fun print isPrint => present print
          (List.mem_filterMap.2 ⟨node, List.mem_cons_self, isPrint⟩)
      have further : ∀ print ∈ printsOf rest, print.isMissing (.record fields) = false := by
        intro print member
        obtain ⟨other, isOther, isPrint⟩ := List.mem_filterMap.1 member
        exact present print (List.mem_filterMap.2 ⟨other, List.mem_cons_of_mem _ isOther, isPrint⟩)
      obtain ⟨text, next, rendered⟩ :=
        renderNode_of_guardsItself embed registered guards.1 here progress
      obtain ⟨others, last, rendered'⟩ := inductionHypothesis guards.2 further next
      exact ⟨text ++ others, last, by simp [renderNodes, rendered, rendered']⟩

/-- Nodes that guard themselves fail at the first print of a missing field. -/
theorem renderNodes_of_find? {nodes : List Node} {print : Print}
    (guards : ∀ node ∈ nodes, node.guardsItself = true)
    (first : (printsOf nodes).find? (Print.isMissing (.record fields)) = some print)
    (progress : Progress) :
    renderNodes embed registered (.ofData (.record fields)) nodes progress =
      .error (print.fault none) := by
  induction nodes generalizing progress with
  | nil => cases first
  | cons node rest inductionHypothesis =>
      rw [List.forall_mem_cons] at guards
      rw [find?_printsOf_cons] at first
      cases here : node.print?.filter (Print.isMissing (.record fields)) with
      | some found =>
          rw [here] at first
          cases first
          obtain ⟨isPrint, missing⟩ := Option.filter_eq_some_iff.1 here
          rw [renderNodes, renderNode_of_isMissing embed registered isPrint missing]
      | none =>
          rw [here] at first
          have present := Option.filter_eq_none_iff.1 here
          obtain ⟨text, next, rendered⟩ := renderNode_of_guardsItself embed registered guards.1
            (fun print isPrint => Bool.eq_false_iff.2 (present print isPrint)) progress
          simp only [renderNodes, rendered, inductionHypothesis guards.2 first]

/-- A template whose nodes guard themselves is rendered if none of them prints a missing field. -/
theorem render_of_guardsItself (template : Entry)
    (guards : ∀ node ∈ template.nodes, node.guardsItself = true)
    (present : ∀ print ∈ printsOf template.nodes, print.isMissing (.record fields) = false) :
    ∃ text, render registered template (.record fields) = .ok text := by
  obtain ⟨text, last, rendered⟩ := renderNodes_of_guardsItself (renderWithin registered 999)
    registered guards present { Progress.start with rendering := template.name }
  rw [render, embeddingLimit, renderWithin, rendered]
  exact ⟨_, rfl⟩

/-- A template whose nodes guard themselves fails at the first print of a missing field. -/
theorem render_of_find? (template : Entry) {print : Print}
    (guards : ∀ node ∈ template.nodes, node.guardsItself = true)
    (first : (printsOf template.nodes).find? (Print.isMissing (.record fields)) = some print) :
    render registered template (.record fields) = .error (print.fault template.name) := by
  rw [render, embeddingLimit, renderWithin,
    renderNodes_of_find? (renderWithin registered 999) registered guards first]
  rfl

end Rendering

/-! ## Templates of the program -/

/-- Whether a source is read as nodes that pass a check. -/
def readsWith (check : List Node → Bool) (source : String) : Bool :=
  match ofSource source with
  | .ok nodes => check nodes
  | .error _ => false

namespace Builtin

/-- The fields that a template of the program prints whatever the data is, each where it is printed
first. -/
def required : Builtin → List String
  | route => ["pascal", "routes_ident", "camel", "base_path", "id_field"]
  | controller => ["pascal", "camel", "request_type", "id_field"]
  | service => ["pascal", "camel", "id_field"]
  | repository => ["pascal", "id_field"]
  | test => ["pascal", "title", "request_type", "id_field", "camel"]
  | aggregatorImport => ["routes_ident", "camel"]
  | aggregatorRegistration => ["router_ident", "routes_ident"]

def prints (builtin : Builtin) : List Print := printsOf builtin.nodes

/-- Whether nodes guard themselves and print the fields that a template requires. -/
def printsRequired (builtin : Builtin) (nodes : List Node) : Bool :=
  nodes.all Node.guardsItself &&
    ((printsOf nodes).map Print.name).eraseDups == builtin.required

set_option maxRecDepth 20000 in
theorem readsWith_printsRequired (builtin : Builtin) :
    readsWith builtin.printsRequired builtin.source = true := by
  cases builtin <;>
    · simp only [source, routeSource, controllerSource, serviceSource, repositorySource, testSource,
        importSource, registrationSource]
      rw [readsWith, ofSource_ofLines (by repeat' constructor)]
      decide +kernel

theorem printsRequired_nodes (builtin : Builtin) : builtin.printsRequired builtin.nodes = true := by
  simpa only [readsWith, ofSource_source] using builtin.readsWith_printsRequired

theorem guardsItself_of_mem_nodes {builtin : Builtin} {node : Node} (member : node ∈ builtin.nodes) :
    node.guardsItself = true :=
  List.all_eq_true.1 (Bool.and_eq_true_iff.1 builtin.printsRequired_nodes).1 node member

theorem eraseDups_prints (builtin : Builtin) :
    (builtin.prints.map Print.name).eraseDups = builtin.required :=
  eq_of_beq (Bool.and_eq_true_iff.1 builtin.printsRequired_nodes).2

theorem mem_required_iff {builtin : Builtin} {name : String} :
    name ∈ builtin.required ↔ ∃ print ∈ builtin.prints, print.name = name := by
  rw [← eraseDups_prints, List.mem_eraseDups, List.mem_map]

end Builtin

namespace Registry

theorem render_ofBuiltins (builtin : Builtin) (data : Value) :
    ofBuiltins.render builtin.name data =
      Template.render ofBuiltins.template? ⟨some builtin.name, builtin.nodes⟩ data := by
  rw [render, template?_ofBuiltins]

/-- The standard registry renders a template of the program with the fields of a record exactly if
every field that the template requires is there. Otherwise it reports the first print of a field that
is missing, at the place of its tag. -/
theorem standard_render_iff_required (builtin : Builtin) :
    (builtin.prints.map Print.name).eraseDups = builtin.required ∧
      ∃ registry, standard = .ok registry ∧ ∀ fields,
        ((∃ text, registry.render builtin.name (.record fields) = .ok text) ↔
          ∀ name ∈ builtin.required, ((Value.record fields).field? name).isSome) ∧
        ∀ fault, registry.render builtin.name (.record fields) = .error fault ↔
          ∃ print, builtin.prints.find? (Print.isMissing (.record fields)) = some print ∧
            fault = print.fault (some builtin.name) := by
  refine ⟨builtin.eraseDups_prints, ofBuiltins, standard_eq, fun fields => ?_⟩
  rw [render_ofBuiltins]
  have guards : ∀ node ∈ builtin.nodes, node.guardsItself = true :=
    fun node => Builtin.guardsItself_of_mem_nodes
  cases first : builtin.prints.find? (Print.isMissing (.record fields)) with
  | none =>
      rw [List.find?_eq_none] at first
      obtain ⟨text, rendered⟩ := render_of_guardsItself ofBuiltins.template?
        ⟨some builtin.name, builtin.nodes⟩ guards
        fun print member => Bool.eq_false_iff.2 (first print member)
      refine ⟨⟨fun _ name needed => ?_, fun _ => ⟨text, rendered⟩⟩, fun fault => ?_⟩
      · obtain ⟨print, member, rfl⟩ := Builtin.mem_required_iff.1 needed
        simpa [Print.isMissing, Option.isSome_iff_ne_none] using first print member
      · simp [rendered]
  | some print =>
      have rendered := render_of_find? ofBuiltins.template? ⟨some builtin.name, builtin.nodes⟩
        guards first
      have needed : print.name ∈ builtin.required :=
        Builtin.mem_required_iff.2 ⟨print, List.mem_of_find?_eq_some first, rfl⟩
      have missing : print.isMissing (.record fields) = true := List.find?_some first
      have absent : (Value.record fields).field? print.name = none :=
        Option.isNone_iff_eq_none.1 missing
      refine ⟨⟨fun ⟨text, succeeded⟩ => ?_, fun present => ?_⟩, fun fault => ?_⟩
      · rw [rendered] at succeeded
        cases succeeded
      · have isThere := present print.name needed
        rw [absent] at isThere
        cases isThere
      · simp [rendered, eq_comm]

end Registry

end ResourceScaffold.Template
