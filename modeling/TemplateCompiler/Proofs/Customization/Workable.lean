import TemplateCompiler.Proofs.Customization.Demands

/-! Customizations that no pass fails on, whatever its template: each hook is followed from member
to member. -/

namespace TemplateCompiler

namespace Customization

def base? : Customization → Option Value
  | .setBaseType baseType => some baseType
  | _ => none

/-- The attribute with arguments that is added. -/
def mark? : Customization → Option CodeAttribute
  | .addGeneratedCode tool version => some (generatedCode tool version)
  | _ => none

def ImportsFit : Customization → Prop
  | .setImports imports _ =>
    ∀ v ∈ imports, v.truthy = true → v.hasOperation "strip".toList = true
  | _ => True

def ReplacementFits : Customization → Prop
  | .replaceText old new => (∃ t, old = .text t) ∧ ∃ t, new = .text t
  | _ => True

/-- The arguments of the customizations can be used. Of several base types only the last counts,
and an attribute that is there already is not added again. -/
structure Workable (cs : List Customization) : Prop where
  imports : ∀ c ∈ cs, c.ImportsFit
  replacements : ∀ c ∈ cs, c.ReplacementFits
  marks : ∀ a ∈ (cs.filterMap mark?).foldl CodeAttribute.addDistinct [],
    ∀ v ∈ a.arguments, v.Printable
  base : ∀ v, (cs.filterMap base?).getLast? = some v → v.truthy = true → v.isWritable = true

def holding (ds : Directives) : Customization → Customization
  | .directiveDispatch _ => .directiveDispatch ds
  | c => c

theorem workable_holding (ds : Directives) (cs : List Customization) :
    Workable (cs.map (holding ds)) ↔ Workable cs := by
  have sameMark : mark? ∘ holding ds = mark? := by
    funext c
    cases c <;> rfl
  have sameBase : base? ∘ holding ds = base? := by
    funext c
    cases c <;> rfl
  have marks : (cs.map (holding ds)).filterMap mark? = cs.filterMap mark? := by
    rw [List.filterMap_map, sameMark]
  have bases : (cs.map (holding ds)).filterMap base? = cs.filterMap base? := by
    rw [List.filterMap_map, sameBase]
  have imports (c : Customization) : (c.holding ds).ImportsFit ↔ c.ImportsFit := by
    cases c <;> rfl
  have replacements (c : Customization) : (c.holding ds).ReplacementFits ↔ c.ReplacementFits := by
    cases c <;> rfl
  constructor
  · rintro ⟨h₁, h₂, h₃, h₄⟩
    rw [List.forall_mem_map] at h₁ h₂
    exact ⟨fun c inside => (imports c).1 (h₁ c inside),
      fun c inside => (replacements c).1 (h₂ c inside), marks ▸ h₃, bases ▸ h₄⟩
  · rintro ⟨h₁, h₂, h₃, h₄⟩
    refine ⟨?_, ?_, marks ▸ h₃, bases ▸ h₄⟩
    · exact List.forall_mem_map.2 fun c inside => (imports c).2 (h₁ c inside)
    · exact List.forall_mem_map.2 fun c inside => (replacements c).2 (h₂ c inside)

section Members

theorem prepare_after (c : Customization) (context : Context) :
    (c.prepare context).after = c.holding context.directives := by
  cases c <;> rfl

theorem prepare_directives (c : Customization) (context : Context) :
    (c.prepare context).reached.directives = context.directives := by
  cases c <;> rfl

theorem mutateModel_none_iff {c : Customization} (u : CompileUnit)
    (admissible : ∀ held, c = .directiveDispatch held → held.Admissible) :
    (c.mutateModel u).failure = none ↔ c.ImportsFit := by
  cases c with
  | setImports imports replaceExisting =>
    cases replaceExisting with
    | false => exact u.imports.insertValues_none_iff
    | true => exact ImportSet.empty.insertValues_none_iff
  | directiveDispatch held =>
    exact iff_of_true (StandardDirective.applyAll_selected (admissible held rfl) u) trivial
  | _ => exact iff_of_true rfl trivial

theorem mutateText_none_iff {c : Customization} (t : Text) :
    (c.mutateText t).failure = none ↔ c.ReplacementFits := by
  cases c with
  | replaceText old new =>
    cases old with
    | text old => cases new <;> simp [mutateText, replaceIn, ReplacementFits, HookRun.done,
        HookRun.failed]
    | _ => simp [mutateText, replaceIn, ReplacementFits, HookRun.failed]
  | _ => exact iff_of_true rfl trivial

theorem mutateModel_marks (c : Customization) (u : CompileUnit) :
    (c.mutateModel u).reached.marks =
      c.mark?.toList.foldl CodeAttribute.addDistinct u.marks := by
  cases c with
  | addMarker name => exact u.marks_addAttribute (.marker name)
  | excludeFromCoverage => exact u.marks_addAttribute StandardDirective.coverageMarker
  | addGeneratedCode tool version => exact u.marks_addAttribute (generatedCode tool version)
  | directiveDispatch held => exact (StandardDirective.applyAll_keeps _ u).1
  | _ => rfl

theorem mutateModel_base (c : Customization) (u : CompileUnit) :
    (c.mutateModel u).reached.type.baseType = c.base?.getD u.type.baseType := by
  cases c with
  | addMarker name => exact u.type.addAttribute_baseType _
  | excludeFromCoverage => exact u.type.addAttribute_baseType _
  | addGeneratedCode tool version => exact u.type.addAttribute_baseType _
  | directiveDispatch held => exact (StandardDirective.applyAll_keeps _ u).2
  | _ => rfl

end Members

section Chains

theorem reach_marks (cs : List Customization) (u : CompileUnit) :
    (Chain.reach mutateModel cs u).marks =
      (cs.filterMap mark?).foldl CodeAttribute.addDistinct u.marks := by
  induction cs generalizing u with
  | nil => rfl
  | cons c cs ih =>
    have others := ih (c.mutateModel u).reached
    rw [mutateModel_marks] at others
    rw [Chain.reach, List.foldl_cons, ← Chain.reach, others]
    cases marked : c.mark? <;> simp [marked]

theorem reach_base (cs : List Customization) (u : CompileUnit) :
    (Chain.reach mutateModel cs u).type.baseType =
      (cs.filterMap base?).getLast?.getD u.type.baseType := by
  induction cs generalizing u with
  | nil => rfl
  | cons c cs ih =>
    have others := ih (c.mutateModel u).reached
    rw [mutateModel_base] at others
    rw [Chain.reach, List.foldl_cons, ← Chain.reach, others]
    cases based : c.base? with
    | none => simp [based]
    | some v => simp [based, List.getLast?_cons]

variable {c : Chain Customization}

theorem prepare_leaves (context : Context) :
    ((Chain.hooks hooks).prepare c context).failure = none ∧
      ((Chain.hooks hooks).prepare c context).after.leaves =
        c.leaves.map (holding context.directives) := by
  have run := Chain.run_iff prepare (fun found => found.directives = context.directives)
    (fun _ => True) (holding context.directives) c context
    (fun t found same => (t.prepare_directives found).trans same)
    (fun t found same => (t.prepare_after found).trans (by rw [same]))
    (fun t _ found => iff_of_true (t.prepare_failure found) trivial) rfl
  have fine := run.1.2 fun _ _ => trivial
  exact ⟨fine, (run.2 fine).1⟩

theorem mutateText_renewed (c : Customization) (t : Text) :
    (c.renewed.mutateText t).value = (c.mutateText t).value := by
  cases c <;> rfl

theorem mutateModel_prepared (c : Chain Customization) (context : Context) (u : CompileUnit) :
    ((Chain.hooks hooks).mutateModel ((Chain.hooks hooks).prepare c context).after u).value =
      c.leaves.foldlM (fun v t => ((t.holding context.directives).mutateModel v).value) u := by
  change (Chain.run mutateModel _ u).value = _
  rw [Chain.value_run, (prepare_leaves context).2, List.foldlM_map]

theorem mutateText_prepared (c : Chain Customization) (context : Context) (u : CompileUnit)
    (t : Text) :
    ((Chain.hooks hooks).mutateText ((Chain.hooks hooks).mutateModel
        ((Chain.hooks hooks).prepare c context).after u).after t).value =
      ((Chain.hooks hooks).mutateText c t).value := by
  have steady := Chain.renews renews prepare_failure
  have same : Chain.map renewed ((Chain.hooks hooks).mutateModel
      ((Chain.hooks hooks).prepare c context).after u).after = c.map renewed := by
    rw [steady.renew_mutateModel, steady.renew_prepare]
  have kept (d : Chain Customization) : ((Chain.hooks hooks).mutateText (d.map renewed) t).value =
      ((Chain.hooks hooks).mutateText d t).value := Chain.value_run_map mutateText_renewed d t
  rw [← kept, same, kept]

theorem mutateModel_chain (u : CompileUnit)
    (admissible : ∀ held, .directiveDispatch held ∈ c.leaves → held.Admissible) :
    (((Chain.hooks hooks).mutateModel c u).failure = none ↔ ∀ t ∈ c.leaves, t.ImportsFit) ∧
      (((Chain.hooks hooks).mutateModel c u).failure = none →
        ((Chain.hooks hooks).mutateModel c u).after.leaves = c.leaves ∧
        ((Chain.hooks hooks).mutateModel c u).reached = Chain.reach mutateModel c.leaves u) := by
  have run := Chain.run_iff mutateModel (fun _ => True) ImportsFit id c u (fun _ _ _ => trivial)
    (fun t u _ => t.mutateModel_after u)
    (fun t inside u => mutateModel_none_iff u fun held same => admissible held (same ▸ inside))
    trivial
  rwa [List.map_id] at run

theorem mutateText_chain (t : Text) :
    ((Chain.hooks hooks).mutateText c t).failure = none ↔ ∀ x ∈ c.leaves, x.ReplacementFits :=
  (Chain.run_iff mutateText (fun _ => True) ReplacementFits id c t (fun _ _ _ => trivial)
    (fun x t _ => x.mutateText_after t) (fun _ _ t => mutateText_none_iff t) trivial).1

theorem reach_renderable_iff (cs : List Customization) {u : CompileUnit} {base : Text}
    (bare : u.type.attributes = []) (named : u.type.baseType = .text base) :
    (Chain.reach mutateModel cs u).Renderable ↔
      (∀ a ∈ (cs.filterMap mark?).foldl CodeAttribute.addDistinct [],
        ∀ v ∈ a.arguments, v.Printable) ∧
      ∀ v, (cs.filterMap base?).getLast? = some v → v.truthy = true → v.isWritable = true := by
  have unmarked : u.marks = [] := by rw [CompileUnit.marks, bare, List.filter_nil]
  rw [CompileUnit.renderable_iff, reach_marks, reach_base, unmarked, named]
  refine and_congr_right fun _ => ?_
  cases (cs.filterMap base?).getLast? with
  | none => simp [Value.isWritable]
  | some v => simp

end Chains

end Customization

end TemplateCompiler
