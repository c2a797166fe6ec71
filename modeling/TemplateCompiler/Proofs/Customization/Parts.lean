import TemplateCompiler.Proofs.Customization.Declared

/-! What each customization changes, part by part: the namespace of the context, the parts of a unit
that directives know of, the base type, the constructors, and the attributes. -/

namespace TemplateCompiler

namespace CompileUnit

def directed (u : CompileUnit) : CompileUnit :=
  { u with
    type := { u.type with
      baseType := .null
      isPartial := false
      attributes := []
      constructors := [] } }

def shape (u : CompileUnit) : Bool × List Constructor := (u.type.isPartial, u.type.constructors)

theorem directed_addAttribute (u : CompileUnit) (a : CodeAttribute) :
    (u.addAttribute a).directed = u.directed := by
  rw [addAttribute_eq]
  rfl

theorem shape_addAttribute (u : CompileUnit) (a : CodeAttribute) :
    (u.addAttribute a).shape = u.shape := by
  rw [addAttribute_eq]
  rfl

end CompileUnit

open CompileUnit

namespace StandardDirective

theorem apply_directed (d : StandardDirective) (value : Option Text) (u : CompileUnit) :
    (d.apply value u).map directed = (d.apply value u.directed).map directed := by
  cases d with
  | imports => rfl
  | excludeFromCodeCoverage =>
    simp only [apply]
    split <;> simp only [Except.map, directed_addAttribute] <;> rfl
  | typeVisibility =>
    simp only [apply]
    cases visibilityOf value <;> rfl
  | className | namespaceName | disableLinePragmas | trimLeadingUnderscores =>
    simp only [apply]
    split <;> rfl

theorem Makes.shape {u u' : CompileUnit} {a : Option CodeAttribute} (made : Makes u a u') :
    u'.shape = u.shape := by
  cases made with
  | marker => exact u.shape_addAttribute coverageMarker
  | _ => rfl

theorem Makes.attributes {u u' : CompileUnit} {a : Option CodeAttribute} (made : Makes u a u') :
    u'.type.attributes = a.toList.foldl CodeAttribute.addDistinct u.type.attributes := by
  cases made with
  | marker => exact u.type.addAttribute_attributes coverageMarker
  | _ => rfl

theorem applyAll_directed (es : List (StandardDirective × Text)) {u v : CompileUnit}
    (same : u.directed = v.directed) : (applyAll u es).1.directed = (applyAll v es).1.directed := by
  induction es generalizing u v with
  | nil => exact same
  | cons e es ih =>
    have both : (e.1.apply (some e.2) u).map directed = (e.1.apply (some e.2) v).map directed := by
      rw [apply_directed, same, ← apply_directed]
    rw [applyAll, applyAll]
    -- Whether a directive is refused does not depend on the unit, so both runs end at the same one.
    cases first : e.1.apply (some e.2) u <;> cases second : e.1.apply (some e.2) v <;>
      rw [first, second] at both
    · exact same
    · cases both
    · cases both
    · exact ih (Except.ok.inj both)

theorem applyAll_attributes {es : List (StandardDirective × Text)}
    (fine : ∀ e ∈ es, refusal? e = none) (u : CompileUnit) :
    (applyAll u es).1.type.attributes =
      (es.filterMap added?).foldl CodeAttribute.addDistinct u.type.attributes := by
  induction es generalizing u with
  | nil => rfl
  | cons e es ih =>
    obtain ⟨first, others⟩ := List.forall_mem_cons.1 fine
    rw [applyAll, List.filterMap_cons]
    cases applied : e.1.apply (some e.2) u with
    | error f =>
      have refused : refusal? e = some f := (apply_refusal e.1 e.2 u).1 f applied
      rw [first] at refused
      cases refused
    | ok u' =>
      simp only [ih others, (apply_makes applied).attributes]
      cases added? e <;> rfl

theorem added?_eq_some {e : StandardDirective × Text} {a : CodeAttribute}
    (adds : added? e = some a) : a = coverageMarker := by
  unfold added? at adds
  split at adds
  · split at adds <;> cases adds
    rfl
  · cases adds

theorem plain_added {e : StandardDirective × Text} {a : CodeAttribute} (adds : added? e = some a) :
    a.Plain := by
  rw [added?_eq_some adds]
  exact plain_coverageMarker

end StandardDirective

namespace Customization

/-- What customizations can override each other in. -/
inductive Part where
  | namespaceName
  | baseType
  | imports
deriving DecidableEq, Repr

/-- What a customization can override others in. Directives count for the imports: the names that
they add can be replaced. -/
def part? : Customization → Option Part
  | .setNamespace _ => some .namespaceName
  | .setBaseType _ => some .baseType
  | .setImports .. => some .imports
  | .directiveDispatch _ => some .imports
  | _ => none

def concerns (part : Part) (c : Customization) : Bool := c.part? = some part

def strips : Customization → Bool
  | .makePartial => true
  | _ => false

def added : Customization → List CodeAttribute
  | .addMarker name => [.marker name]
  | .excludeFromCoverage => [StandardDirective.coverageMarker]
  | .addGeneratedCode tool version => [generatedCode tool version]
  | .directiveDispatch held =>
    (StandardDirective.table.selected held).filterMap StandardDirective.added?
  | _ => []

theorem plain_added {c : Customization} (declared : c.Declared) :
    ∀ a ∈ c.added, a.Plain := by
  cases c with
  | addMarker name => exact List.forall_mem_singleton.2 (CodeAttribute.plain_marker name)
  | excludeFromCoverage => exact List.forall_mem_singleton.2 StandardDirective.plain_coverageMarker
  | addGeneratedCode => exact List.forall_mem_singleton.2 (plain_generatedCode declared)
  | directiveDispatch held =>
    intro a inside
    obtain ⟨e, -, adds⟩ := List.mem_filterMap.1 inside
    exact StandardDirective.plain_added adds
  | _ => exact List.forall_mem_nil _

theorem prepare_others {c : Customization} (other : c.concerns .namespaceName = false)
    (context : Context) : (c.prepare context).reached = context := by
  cases c with
  | setNamespace => cases other
  | _ => rfl

theorem mutateModel_directed (c : Customization) {u v : CompileUnit}
    (same : u.directed = v.directed) :
    (c.mutateModel u).reached.directed = (c.mutateModel v).reached.directed := by
  cases c with
  | setImports imports replaceExisting =>
    cases replaceExisting with
    | false =>
      exact congrArg (fun w => { w with imports := (w.imports.insertValues imports).1 }) same
    | true =>
      exact congrArg (fun w => { w with imports := (w.imports.replaceValues imports).1 }) same
  | addMarker | excludeFromCoverage | addGeneratedCode =>
    exact (u.directed_addAttribute _).trans (same.trans (v.directed_addAttribute _).symm)
  | directiveDispatch held => exact StandardDirective.applyAll_directed _ same
  | _ => exact same

theorem mutateModel_directed_others {c : Customization} (other : c.concerns .imports = false)
    (u : CompileUnit) : (c.mutateModel u).reached.directed = u.directed := by
  cases c with
  | setImports | directiveDispatch => cases other
  | addMarker | excludeFromCoverage | addGeneratedCode => exact u.directed_addAttribute _
  | _ => rfl

theorem mutateModel_base_others {c : Customization} (other : c.concerns .baseType = false)
    (u : CompileUnit) : (c.mutateModel u).reached.type.baseType = u.type.baseType := by
  rw [mutateModel_base]
  cases c with
  | setBaseType => cases other
  | _ => rfl

theorem mutateModel_shape_others {c : Customization} (other : c.strips = false)
    (u : CompileUnit) : (c.mutateModel u).reached.shape = u.shape := by
  cases c with
  | makePartial => cases other
  | addMarker | excludeFromCoverage | addGeneratedCode => exact u.shape_addAttribute _
  | directiveDispatch held =>
    have keeps (a : Option CodeAttribute) (v v' : CompileUnit)
        (made : StandardDirective.Makes v a v') (before : v.shape = u.shape) :
        v'.shape = u.shape := made.shape.trans before
    exact StandardDirective.holds_applyAll keeps _ rfl
  | _ => rfl

theorem reach_shape_others {cs : List Customization} (others : ∀ c ∈ cs, c.strips = false)
    (u : CompileUnit) : (Chain.reach mutateModel cs u).shape = u.shape := by
  induction cs generalizing u with
  | nil => rfl
  | cons c cs ih =>
    obtain ⟨first, rest⟩ := List.forall_mem_cons.1 others
    exact (ih rest _).trans (mutateModel_shape_others first u)

theorem mutateModel_shape (c : Customization) {u v : CompileUnit} (same : u.shape = v.shape) :
    (c.mutateModel u).reached.shape = (c.mutateModel v).reached.shape := by
  cases stripping : c.strips with
  | false => rw [mutateModel_shape_others stripping, mutateModel_shape_others stripping, same]
  | true =>
    cases c with
    | makePartial => exact congrArg (fun s => (true, s.2.eraseP Constructor.isDefault)) same
    | _ => cases stripping

theorem mutateModel_attributes {c : Customization} (fine : c.refusal? = none) (u : CompileUnit) :
    (c.mutateModel u).reached.type.attributes =
      c.added.foldl CodeAttribute.addDistinct u.type.attributes := by
  cases c with
  | addMarker | excludeFromCoverage | addGeneratedCode => exact u.type.addAttribute_attributes _
  | directiveDispatch held =>
    exact StandardDirective.applyAll_attributes (List.findSome?_eq_none_iff.1 fine) u
  | _ => rfl

end Customization

end TemplateCompiler
