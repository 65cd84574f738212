import ResourceScaffold.Overrides
import Mathlib.Data.List.Forall2

/-!
Contract: the templates that come with the program can all be read.

Owns:
- the nodes of each of them;
- the registry that holds exactly them.

Does not own: what they render to.
-/

namespace ResourceScaffold.Template

/-! ## Reading -/

/-- A source of lines is read by the characters of its lines, once these are spelled out. -/
theorem ofSource_ofLines {lines : List String} {spelled : List (List Char)}
    (same : List.Forall₂ (fun line chars => String.ofList chars = line) lines spelled) :
    ofSource (Text.ofLines lines) = ofChars (spelled.flatMap fun line => line ++ ['\n']) := by
  have written : lines = spelled.map String.ofList := by
    induction same with
    | nil => rfl
    | cons head _ inductionHypothesis => rw [List.map_cons, head, ← inductionHypothesis]
  rw [written, ofSource, Text.toList_ofLines]

namespace Builtin

set_option maxRecDepth 20000 in
/-- Every template that comes with the program is read without a fault. -/
theorem source_isRead (builtin : Builtin) : (ofSource builtin.source).toBool = true := by
  cases builtin with
  | route =>
      rw [source, routeSource, ofSource_ofLines (by repeat' constructor)]
      decide +kernel
  | controller =>
      rw [source, controllerSource, ofSource_ofLines (by repeat' constructor)]
      decide +kernel
  | service =>
      rw [source, serviceSource, ofSource_ofLines (by repeat' constructor)]
      decide +kernel
  | repository =>
      rw [source, repositorySource, ofSource_ofLines (by repeat' constructor)]
      decide +kernel
  | test =>
      rw [source, testSource, ofSource_ofLines (by repeat' constructor)]
      decide +kernel
  | aggregatorImport =>
      rw [source, importSource, ofSource_ofLines (by repeat' constructor)]
      decide +kernel
  | aggregatorRegistration =>
      rw [source, registrationSource, ofSource_ofLines (by repeat' constructor)]
      decide +kernel

def nodes (builtin : Builtin) : List Node :=
  match ofSource builtin.source with
  | .ok nodes => nodes
  | .error _ => []

theorem ofSource_source (builtin : Builtin) : ofSource builtin.source = .ok builtin.nodes := by
  have isRead := builtin.source_isRead
  rw [nodes]
  cases read : ofSource builtin.source with
  | ok nodes => rfl
  | error fault =>
      rw [read] at isRead
      cases isRead

end Builtin

/-! ## Registry -/

namespace Registry

/-- The registry of the templates that come with the program, with the last one in front. -/
def ofBuiltins : Registry where
  entries := (Builtin.all.map fun builtin => (builtin.name, builtin.nodes)).reverse

theorem register_builtin (registry : Registry) (builtin : Builtin) :
    registry.register builtin.name builtin.source =
      .ok ⟨(builtin.name, builtin.nodes) :: registry.entries⟩ := by
  rw [register, Builtin.ofSource_source]

theorem registerAll_eq (registry : Registry) (builtins : List Builtin) :
    registry.registerAll builtins =
      .ok ⟨(builtins.map fun builtin => (builtin.name, builtin.nodes)).reverse ++
        registry.entries⟩ := by
  induction builtins generalizing registry with
  | nil => rfl
  | cons builtin rest inductionHypothesis =>
      rw [registerAll, register_builtin]
      simp only [inductionHypothesis, List.map_cons, List.reverse_cons, List.append_assoc,
        List.cons_append, List.nil_append]

theorem standard_eq : standard = .ok ofBuiltins := by
  rw [standard, builtin, registerAll_eq, empty, List.append_nil]
  rfl

theorem template?_ofBuiltins (builtin : Builtin) :
    ofBuiltins.template? builtin.name = some ⟨some builtin.name, builtin.nodes⟩ := by
  cases builtin <;> simp [template?, ofBuiltins, Builtin.all, Builtin.name, List.lookup_cons]

end Registry

end ResourceScaffold.Template
