import ResourceScaffold.Proofs.Generator.FileNames
import ResourceScaffold.Proofs.Name.CamelWord

/-!
Contract: resources with different names in camel case share nothing that is made from their names.

Owns:
- the files of a layer, told by their names in whatever directories they lie;
- that no form of a name and no file of a resource is one of another resource.

Does not own: names that are no words in camel case. `order` and `Order` share their type name.
-/

namespace ResourceScaffold

open Text

namespace Generator

variable {generator generator' : Generator} {layer layer' : Layer}

theorem names_pathFor_getLast? (generator : Generator)
    (identifier : IsIdentifier generator.name.camel) (layer : Layer) :
    (generator.pathFor layer).names.getLast? = some (generator.fileNameOf layer).toList := by
  have alone : (Path.mk (generator.fileNameOf layer)).names = [(generator.fileNameOf layer).toList] :=
    Path.names_of_isIdle (slash_notMem_fileNameOf identifier layer)
      (fileNameOf_busy generator layer).1
  refine Path.names_join_getLast? _ ?_
  rw [alone, List.getLast?_singleton]

/-- A file name tells its layer and, among words in camel case, the name of its resource. -/
theorem name_eq_of_fileNameOf (isWord : IsCamelWord generator.name.camel)
    (isWord' : IsCamelWord generator'.name.camel)
    (same : (generator.fileNameOf layer).toList = (generator'.fileNameOf layer').toList) :
    generator.name = generator'.name := by
  obtain rfl := fileNameOf_inj same
  have ofPascal {ending : String}
      (same : generator.name.pascal ++ ending = generator'.name.pascal ++ ending) :
      generator.name = generator'.name :=
    ResourceName.pascal_inj isWord isWord' (String.append_left_inj ending |>.1 same)
  rw [String.toList_inj] at same
  cases layer with
  | route =>
      exact ResourceName.eq_iff_camel.2 (String.append_left_inj ".routes.ts" |>.1 same)
  | controller => exact ofPascal same
  | service => exact ofPascal same
  | repository => exact ofPascal same
  | test => exact ofPascal same

end Generator

namespace ResourceName

/-- Two resources share no identifier, no URL and no file: under no settings does a path of the one
consist of the same names as a path of the other. -/
structure Apart (first second : ResourceName) : Prop where
  pascal : first.pascal ≠ second.pascal
  kebab : first.kebab ≠ second.kebab
  basePath : first.basePath ≠ second.basePath
  idField : first.idField ≠ second.idField
  routesIdent : first.routesIdent ≠ second.routesIdent
  files : ∀ (settings settings' : Settings) (templates templates' : Template.Registry)
    (layer layer' : Layer),
    ((Generator.mk first settings templates).pathFor layer).names ≠
      ((Generator.mk second settings' templates').pathFor layer').names

variable {first second : ResourceName}

theorem apart_of_ne (isWord : IsCamelWord first.camel) (isWord' : IsCamelWord second.camel)
    (different : first ≠ second) : first.Apart second where
  pascal same := different (pascal_inj isWord isWord' same)
  kebab same := different ((kebabTells isWord).inj (kebabTells isWord') same)
  basePath same := by
    rw [basePath, basePath, String.append_right_inj] at same
    exact different ((kebabTells isWord).inj (kebabTells isWord') same)
  idField same := by
    rw [idField, idField, ResourceScaffold.idField, ResourceScaffold.idField,
      String.append_right_inj] at same
    exact different (pascal_inj isWord isWord' same)
  routesIdent same := by
    rw [routesIdent, routesIdent, String.append_left_inj] at same
    exact different (eq_iff_camel.2 same)
  files settings settings' templates templates' layer layer' same := by
    have last := Generator.names_pathFor_getLast? ⟨first, settings, templates⟩ isWord.isIdentifier layer
    have last' :=
      Generator.names_pathFor_getLast? ⟨second, settings', templates'⟩ isWord'.isIdentifier layer'
    rw [same, last', Option.some.injEq] at last
    exact different (Generator.name_eq_of_fileNameOf isWord' isWord last).symm

/-- Every word in camel case is the name of a resource whose URL segment tells the name, and
resources with different such names are apart. -/
theorem camelWords_apart :
    (∀ word, IsCamelWord word →
      ∃ name, ofWord? word = some name ∧ name.camel = word ∧ name.KebabTells) ∧
    ∀ first second : ResourceName, IsCamelWord first.camel → IsCamelWord second.camel →
      first ≠ second → first.Apart second := by
  refine ⟨fun word isWord => ?_, fun first second isWord isWord' different =>
    apart_of_ne isWord isWord' different⟩
  obtain ⟨name, accepted, rfl⟩ := isWord.exists_name
  exact ⟨name, accepted, rfl, kebabTells isWord⟩

/-- Two words that differ in the case of one letter only. -/
theorem camelWords_apart_userUrl :
    (∃ name, ofWord? "userURL" = some name ∧ name.camel = "userURL" ∧ name.KebabTells) ∧
      IsCamelWord "userUrL" ∧ (⟨"userURL", by decide⟩ : ResourceName) ≠ ⟨"userUrL", by decide⟩ ∧
      ResourceName.Apart ⟨"userURL", by decide⟩ ⟨"userUrL", by decide⟩ := by
  have isWord : IsCamelWord "userURL" := ⟨by decide, by decide⟩
  have isWord' : IsCamelWord "userUrL" := ⟨by decide, by decide⟩
  have different : (⟨"userURL", by decide⟩ : ResourceName) ≠ ⟨"userUrL", by decide⟩ := by decide
  exact ⟨camelWords_apart.1 _ isWord, isWord', different,
    camelWords_apart.2 _ _ isWord isWord' different⟩

/-- A capital is told from a small letter by its hyphen. -/
example : kebabCase "userURL" = "user-u-r-l" ∧ kebabCase "userUrL" = "user-ur-l" := by
  decide +kernel

end ResourceName

end ResourceScaffold
