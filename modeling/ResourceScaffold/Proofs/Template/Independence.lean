import ResourceScaffold.Proofs.Template.Required

/-!
Contract: templates that no other template can influence.

Owns:
- nodes that embed no template;
- that rendering such nodes asks for no other template, so that a registry does not matter to them;
- that the templates of the program are of this kind.

Does not own: the text that is rendered.
-/

namespace ResourceScaffold.Template

/-! ## Nodes that embed nothing -/

mutual

/-- Whether no other template is embedded in a node. What a node defines for embedding does not
count. -/
def Node.standsAlone : Node → Bool
  | .block _ _ body otherwise _ => nodesStandAlone body && alternativeStandsAlone otherwise
  | .embed _ _ _ => false
  | .text _ | .output _ _ | .helper _ _ | .decorate _ _ _ => true
termination_by structural node => node

def nodesStandAlone : List Node → Bool
  | [] => true
  | node :: rest => node.standsAlone && nodesStandAlone rest
termination_by structural nodes => nodes

def alternativeStandsAlone : Option (List Node) → Bool
  | none => true
  | some nodes => nodesStandAlone nodes
termination_by structural otherwise => otherwise

end

theorem nodesStandAlone_of_forall {nodes : List Node}
    (alone : ∀ node ∈ nodes, node.standsAlone = true) : nodesStandAlone nodes = true := by
  induction nodes with
  | nil => rfl
  | cons node rest inductionHypothesis =>
      rw [List.forall_mem_cons] at alone
      rw [nodesStandAlone, alone.1, inductionHypothesis alone.2]
      rfl

theorem Part.standsAlone_node (part : Part) : part.node.standsAlone = true := by
  cases part <;> rfl

theorem Node.standsAlone_of_passage? {node : Node} {passage : Passage}
    (read : node.passage? = some passage) : node.standsAlone = true := by
  unfold passage? at read
  split at read
  · -- A guarded block has a body of parts and no alternative.
    split at read
    · obtain ⟨_, -, isParts⟩ := Option.bind_eq_some_iff.1 read
      obtain ⟨parts, bodyRead, -⟩ := Option.map_eq_some_iff.1 isParts
      obtain ⟨rfl, -⟩ := mapM_part?_eq_some bodyRead
      have body : nodesStandAlone (parts.map Part.node) = true :=
        nodesStandAlone_of_forall (List.forall_mem_map.2 fun part _ => part.standsAlone_node)
      rw [standsAlone, body]
      rfl
    · cases read
  · obtain ⟨part, isPart, -⟩ := Option.map_eq_some_iff.1 read
    obtain ⟨rfl, -⟩ := Node.part?_eq_some isPart
    exact part.standsAlone_node

theorem Builtin.nodesStandAlone_nodes (builtin : Builtin) :
    nodesStandAlone builtin.nodes = true := by
  refine nodesStandAlone_of_forall fun node member => ?_
  obtain ⟨passage, read, -⟩ :=
    (Option.any_eq_true _ _).1 (Builtin.guardsItself_of_mem_nodes member)
  exact Node.standsAlone_of_passage? read

/-! ## Rendering -/

section Rendering

variable (embed embed' : Embedder) (registered registered' : String → Option Entry)

mutual

/-- A node that embeds nothing is rendered alike, whatever can be embedded and however. -/
theorem renderNode_of_standsAlone : (node : Node) → node.standsAlone = true →
    (around : Surroundings) → (progress : Progress) →
      renderNode embed registered around node progress =
        renderNode embed' registered' around node progress
  | .text _, _, _, _ => rfl
  | .output _ _, _, _, _ => rfl
  | .helper _ _, _, _, _ => rfl
  | .decorate _ _ _, _, _, _ => rfl
  | .embed _ _ _, alone, _, _ => by cases alone
  | .block call ownLine body otherwise place, alone, around, progress => by
      rw [Node.standsAlone, Bool.and_eq_true] at alone
      have sameBody : (fun inner progress => renderNodes embed registered inner body
            (Progress.inBlock progress)) =
          fun inner progress => renderNodes embed' registered' inner body
            (Progress.inBlock progress) := by
        funext inner progress
        exact renderNodes_of_standAlone body alone.1 inner progress.inBlock
      rw [renderNode, renderNode, sameBody,
        renderOtherwise_of_standsAlone otherwise alone.2 around]

theorem renderNodes_of_standAlone : (nodes : List Node) → nodesStandAlone nodes = true →
    (around : Surroundings) → (progress : Progress) →
      renderNodes embed registered around nodes progress =
        renderNodes embed' registered' around nodes progress
  | [], _, _, _ => rfl
  | node :: rest, alone, around, progress => by
      rw [nodesStandAlone, Bool.and_eq_true] at alone
      rw [renderNodes, renderNodes, renderNode_of_standsAlone node alone.1]
      cases renderNode embed' registered' around node progress with
      | error fault => rfl
      | ok rendered =>
          dsimp only
          rw [renderNodes_of_standAlone rest alone.2]

theorem renderOtherwise_of_standsAlone : (otherwise : Option (List Node)) →
    alternativeStandsAlone otherwise = true → (around : Surroundings) →
      renderOtherwise embed registered around otherwise =
        renderOtherwise embed' registered' around otherwise
  | none, _, _ => rfl
  | some nodes, alone, around => by
      rw [renderOtherwise, renderOtherwise]
      congr 1
      funext progress
      exact renderNodes_of_standAlone nodes alone around progress.inBlock

end

end Rendering

theorem render_of_standAlone (registered registered' : String → Option Entry) {template : Entry}
    (alone : nodesStandAlone template.nodes = true) (data : Value) :
    render registered template data = render registered' template data := by
  rw [render, render, embeddingLimit, renderWithin, renderWithin,
    renderNodes_of_standAlone (renderWithin registered 999) (renderWithin registered' 999)
      registered registered' template.nodes alone]

/-- A registry that holds the nodes of a template of the program renders it as the standard one,
whatever else it holds. -/
theorem Registry.render_of_nodes {registry : Registry} {builtin : Builtin}
    (found : registry.template? builtin.name = some ⟨some builtin.name, builtin.nodes⟩)
    (data : Value) : registry.render builtin.name data = ofBuiltins.render builtin.name data := by
  rw [render_ofBuiltins, Registry.render, found]
  exact render_of_standAlone registry.template? ofBuiltins.template?
    builtin.nodesStandAlone_nodes data

end ResourceScaffold.Template
