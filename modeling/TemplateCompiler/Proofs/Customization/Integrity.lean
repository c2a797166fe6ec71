import TemplateCompiler.Proofs.Customization.Declared

/-! What customizations leave of a unit. A unit that is in order stays in order, its statements stay
as they are and it only loses constructors without parameters, whether the model hooks go through
or a directive ends them. -/

namespace TemplateCompiler

namespace CompileUnit

/-- What of a unit is still there after it was customized. -/
structure KeptIn (u u' : CompileUnit) : Prop where
  sourceFile : u'.sourceFile = u.sourceFile
  entryName : u'.type.entryMethod.name = u.type.entryMethod.name
  statements : u'.type.entryMethod.statements = u.type.entryMethod.statements
  constructors : u'.type.constructors.Sublist u.type.constructors
  parameterized : (u'.type.constructors.filter fun c => !c.isDefault) =
    u.type.constructors.filter fun c => !c.isDefault
  linePragmas : u'.type.entryMethod.linePragmas = true → u.type.entryMethod.linePragmas = true
  isPartial : u.type.isPartial = true → u'.type.isPartial = true

theorem KeptIn.trans {u v w : CompileUnit} (first : u.KeptIn v) (second : v.KeptIn w) :
    u.KeptIn w where
  sourceFile := second.sourceFile.trans first.sourceFile
  entryName := second.entryName.trans first.entryName
  statements := second.statements.trans first.statements
  constructors := second.constructors.trans first.constructors
  parameterized := second.parameterized.trans first.parameterized
  linePragmas := first.linePragmas ∘ second.linePragmas
  isPartial := second.isPartial ∘ first.isPartial

theorem keptIn_of_eq {u u' : CompileUnit} (sourceFile : u'.sourceFile = u.sourceFile)
    (entryMethod : u'.type.entryMethod = u.type.entryMethod)
    (constructors : u'.type.constructors = u.type.constructors)
    (isPartial : u'.type.isPartial = u.type.isPartial) : u.KeptIn u' := by
  constructor
  · exact sourceFile
  · rw [entryMethod]
  · rw [entryMethod]
  · rw [constructors]
  · rw [constructors]
  · rw [entryMethod]
    exact id
  · rw [isPartial]
    exact id

theorem keptIn_refl (u : CompileUnit) : u.KeptIn u := keptIn_of_eq rfl rfl rfl rfl

theorem keptIn_addAttribute (u : CompileUnit) (a : CodeAttribute) :
    u.KeptIn (u.addAttribute a) := by
  rw [addAttribute_eq]
  exact keptIn_of_eq rfl rfl rfl rfl

end CompileUnit

open CompileUnit

namespace StandardDirective

variable {u u' : CompileUnit} {a : Option CodeAttribute}

theorem Makes.sound (made : Makes u a u') (sound : u.Sound) : u'.Sound := by
  obtain ⟨imports, attributes, visibility, name⟩ := sound
  cases made with
  | nothing | namespaceName | pragmas => exact ⟨imports, attributes, visibility, name⟩
  | name full => exact ⟨imports, attributes, visibility, full name⟩
  | imports names => exact ⟨imports.insertAll names, attributes, visibility, name⟩
  | marker => exact Sound.addAttribute ⟨imports, attributes, visibility, name⟩ plain_coverageMarker
  | visibility known => exact ⟨imports, attributes, known, name⟩

theorem Makes.keptIn (made : Makes u a u') : u.KeptIn u' := by
  cases made with
  | marker => exact u.keptIn_addAttribute coverageMarker
  | pragmas =>
    refine ⟨rfl, rfl, rfl, .refl _, rfl, fun on => ?_, id⟩
    cases on
  | nothing | name | namespaceName | imports | visibility => exact keptIn_of_eq rfl rfl rfl rfl

end StandardDirective

theorem Template.compileUnit_sound (host : HostDefaults) {names : UnitNames} (t : Text)
    (named : names.className ≠ []) : (compileUnit host names t).Sound where
  imports := ImportSet.sound_empty.insertAll host.imports
  attributes := .nil
  visibility := .inl rfl
  name := named

namespace Customization

theorem mutateModel_sound {c : Customization} (declared : c.Declared) {u : CompileUnit}
    (sound : u.Sound) : (c.mutateModel u).reached.Sound := by
  cases c with
  | setImports imports replaceExisting =>
    refine ⟨?_, sound.attributes, sound.visibility, sound.name⟩
    cases replaceExisting with
    | false => exact sound.imports.insertValues imports
    | true => exact ImportSet.sound_empty.insertValues imports
  | addMarker name => exact sound.addAttribute (CodeAttribute.plain_marker name)
  | excludeFromCoverage => exact sound.addAttribute StandardDirective.plain_coverageMarker
  | addGeneratedCode => exact sound.addAttribute (plain_generatedCode declared)
  | directiveDispatch held =>
    exact StandardDirective.holds_applyAll (fun _ _ _ made => made.sound) _ sound
  | setBaseType | makePartial =>
    exact ⟨sound.imports, sound.attributes, sound.visibility, sound.name⟩
  | setNamespace | replaceText | relativizePragmas => exact sound

theorem filter_eraseP_isDefault (cs : List Constructor) :
    ((cs.eraseP Constructor.isDefault).filter fun c => !c.isDefault) =
      cs.filter fun c => !c.isDefault := by
  rcases List.exists_or_eq_self_of_eraseP Constructor.isDefault cs with
    same | ⟨c, before, after, -, default, split, erased⟩
  · rw [same]
  · rw [erased, split]
    simp [default]

theorem keptIn_mutateModel (c : Customization) (u : CompileUnit) :
    u.KeptIn (c.mutateModel u).reached := by
  cases c with
  | addMarker name => exact u.keptIn_addAttribute _
  | excludeFromCoverage => exact u.keptIn_addAttribute _
  | addGeneratedCode tool version => exact u.keptIn_addAttribute _
  | directiveDispatch held =>
    exact StandardDirective.holds_applyAll (fun _ _ _ made before => before.trans made.keptIn) _
      u.keptIn_refl
  | makePartial =>
    refine ⟨rfl, rfl, rfl, List.eraseP_sublist, ?_, id, fun _ => rfl⟩
    exact filter_eraseP_isDefault u.type.constructors
  | setImports | setBaseType | setNamespace | replaceText | relativizePragmas =>
    exact keptIn_of_eq rfl rfl rfl rfl

theorem keptIn_reach (cs : List Customization) (u : CompileUnit) :
    u.KeptIn (Chain.reach mutateModel cs u) := by
  induction cs generalizing u with
  | nil => exact u.keptIn_refl
  | cons c cs ih => exact (c.keptIn_mutateModel u).trans (ih _)

/-- The model hooks of a tree of customizations keep a unit in order and leave its statements and
its constructors with parameters alone, and what they reach is like that also where they fail. They
only fail on a directive that asks for a visibility that there is not. -/
theorem mutateModel_integrity {c : Chain Customization} (declared : ∀ t ∈ c.leaves, t.Declared)
    (context : Context) {u : CompileUnit} (sound : u.Sound) :
    let prepared := (Chain.hooks hooks).prepare c context
    let mutated := (Chain.hooks hooks).mutateModel prepared.after u
    prepared.failure = none ∧ mutated.reached.Sound ∧ u.KeptIn mutated.reached ∧
      ∀ f, mutated.failure = some f → ∃ d ∈ context.directives,
        Text.lower d.1.trim = "typevisibility".toList ∧ f = .badVisibility (some d.2) := by
  intro prepared mutated
  obtain ⟨fine, leaves⟩ := prepare_leaves (c := c) context
  have given : ∀ t ∈ prepared.after.leaves, t.Declared := by
    rw [leaves]
    exact List.forall_mem_map.2 fun t inside => declared_holding.2 (declared t inside)
  have kept : mutated.reached.Sound ∧ u.KeptIn mutated.reached := by
    refine Chain.holds_run mutateModel (fun v => v.Sound ∧ u.KeptIn v) prepared.after
      (fun t inside v before => ?_) u ⟨sound, u.keptIn_refl⟩
    exact ⟨mutateModel_sound (given t inside) before.1,
      before.2.trans (t.keptIn_mutateModel v)⟩
  refine ⟨fine, kept.1, kept.2, fun f failed => ?_⟩
  have first : mutated.failure = prepared.after.leaves.findSome? refusal? :=
    (Chain.run_failing (fun t inside v => mutateModel_failure (given t inside) v) u).1
  rw [failed, leaves, List.findSome?_map] at first
  obtain ⟨t, -, refused⟩ := List.exists_of_findSome?_eq_some first.symm
  cases t with
  | directiveDispatch => exact refusal?_directiveDispatch refused
  | _ => cases refused

def endedEarly : Chain Customization :=
  .chain [.single (.setImports [.text "A".toList, .text " A ".toList] true),
    .chain [.single (.directiveDispatch []), .single .makePartial]]

def privateContext : Context where
  directives := [("imports".toList, "B, C;B".toList), ("TypeVisibility".toList, "private".toList)]
  language := .csharp
  relativePath := "a.cshtml".toList
  namespaceName := "ASP".toList
  className := "Page".toList
  linePragmas := true

def simplePage : CompileUnit :=
  Template.compileUnit .webPage ⟨"Page".toList, "ASP".toList, "a.cshtml".toList, true⟩ "<p>".toList

theorem mutateModel_integrity_endedEarly :
    let prepared := (Chain.hooks hooks).prepare endedEarly privateContext
    let mutated := (Chain.hooks hooks).mutateModel prepared.after simplePage
    (∀ t ∈ endedEarly.leaves, t.Declared) ∧ simplePage.Sound ∧
    mutated.failure = some (.badVisibility (some "private".toList)) ∧
    mutated.reached.imports.names = ["A".toList, "B".toList, "C".toList] ∧
    prepared.failure = none ∧ mutated.reached.Sound ∧ simplePage.KeptIn mutated.reached ∧
      ∀ f, mutated.failure = some f → ∃ d ∈ privateContext.directives,
        Text.lower d.1.trim = "typevisibility".toList ∧ f = .badVisibility (some d.2) := by
  have declared : ∀ t ∈ endedEarly.leaves, t.Declared := by
    have imports :
        (Customization.setImports [.text "A".toList, .text " A ".toList] true).Declared :=
      List.forall_mem_cons.2 ⟨⟨_, rfl⟩, List.forall_mem_singleton.2 ⟨_, rfl⟩⟩
    exact List.forall_mem_cons.2 ⟨imports, List.forall_mem_cons.2 ⟨trivial,
      List.forall_mem_singleton.2 trivial⟩⟩
  have sound : simplePage.Sound := Template.compileUnit_sound .webPage _ (by decide)
  exact ⟨declared, sound, by decide +kernel, by decide +kernel,
    mutateModel_integrity declared privateContext sound⟩

end Customization

end TemplateCompiler
