import TemplateCompiler.Customization.Build
import TemplateCompiler.Proofs.Outcome

/-! What is built under which name. A customization has the name that it was asked for by, and one
that was just built holds no directives. -/

namespace TemplateCompiler.Customization

/-- The customizations that can be built under a name. -/
inductive Made : Text → Customization → Prop where
  | setImports (imports : List Value) (replaceExisting : Bool) :
      Made "set_imports".toList (.setImports imports replaceExisting)
  | addMarker (name : Text) : Made "add_marker_attribute".toList (.addMarker name)
  | excludeFromCoverage : Made "exclude_from_code_coverage".toList .excludeFromCoverage
  | addGeneratedCode (tool version : Value) :
      Made "add_generated_code_attribute".toList (.addGeneratedCode tool version)
  | setBaseType (baseType : Value) : Made "set_base_type".toList (.setBaseType baseType)
  | setNamespace (name : Text) : Made "set_namespace".toList (.setNamespace name)
  | directiveDispatch : Made "directive_dispatch".toList (.directiveDispatch [])
  | makePartial : Made "make_partial_and_strip_default_constructor".toList .makePartial
  | replaceText (old new : Value) : Made "replace_text".toList (.replaceText old new)
  | relativizePragmas (directory : Text) :
      Made "rewrite_line_pragmas".toList (.relativizePragmas directory)

theorem made_make {r : Recipe} (known : r ∈ recipes) {args : Arguments} {c : Customization}
    (made : r.make args = .ok c) : Made r.name c := by
  simp only [recipes, List.mem_cons, List.not_mem_nil, or_false] at known
  rcases known with rfl | rfl | rfl | rfl | rfl | rfl | rfl | rfl | rfl | rfl
  · simp only [buildSetImports] at made
    split at made <;> cases made
    exact .setImports _ _
  · obtain ⟨name, -, rfl⟩ := map_eq_ok_iff.1 made
    exact .addMarker name
  · cases made
    exact .excludeFromCoverage
  · cases made
    exact .addGeneratedCode _ _
  · cases made
    exact .setBaseType _
  · obtain ⟨name, -, rfl⟩ := map_eq_ok_iff.1 made
    exact .setNamespace name
  · cases made
    exact .directiveDispatch
  · cases made
    exact .makePartial
  · simp only [buildReplaceText] at made
    split at made <;> cases made
    exact .replaceText _ _
  · simp only [buildRelativizePragmas] at made
    split at made
    · cases made
      exact .relativizePragmas _
    · cases made
    · split at made <;> cases made
      exact .relativizePragmas _
    · split at made <;> cases made
      exact .relativizePragmas _

theorem made_build {profile name : Text} {args : Arguments} {c : Customization}
    (built : build profile name args = .ok c) : Made name c := by
  unfold build at built
  split at built
  · next r found =>
    have called : r.name = name := by simpa using List.find?_some found
    rw [Recipe.run] at built
    split at built
    · rw [← called]
      exact made_make (List.mem_of_find?_eq_some found) built
    · cases built
  · cases built

theorem Made.name_eq {name : Text} {c : Customization} (made : Made name c) : c.name = name := by
  cases made <;> rfl

end TemplateCompiler.Customization
