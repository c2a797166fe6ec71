import TemplateCompiler.Proofs.Customization.Workable
import TemplateCompiler.Proofs.Model.Soundness

/-! Customizations whose arguments are of the declared types. Only a directive can make such a
customization fail on a model, and whether it does is said by the directive alone. -/

namespace TemplateCompiler

theorem CompileUnit.addAttribute_eq (u : CompileUnit) (a : CodeAttribute) :
    u.addAttribute a = { u with
      type := { u.type with attributes := CodeAttribute.addDistinct u.type.attributes a } } := by
  unfold addAttribute mapType TypeDeclaration.addAttribute CodeAttribute.addDistinct
    TypeDeclaration.hasAttribute
  cases found : u.type.attributes.any a.same <;> simp [found]

namespace StandardDirective

def refusal? (e : StandardDirective × Text) : Option Failure :=
  match e.1, visibilityOf (some e.2) with
  | .typeVisibility, .error f => some f
  | _, _ => none

theorem visibilityOf_error {value : Option Text} {f : Failure}
    (refused : visibilityOf value = .error f) : f = .badVisibility value := by
  unfold visibilityOf at refused
  split at refused <;> cases refused
  rfl

theorem visibilityOf_ok {value : Option Text} {v : Visibility}
    (seen : visibilityOf value = .ok v) : v = .exported ∨ v = .internal := by
  unfold visibilityOf at seen
  split at seen
  · cases seen
  · next named =>
    cases seen
    cases found : Visibility.ofName (Text.lower (value.getD []).trim) with
    | other name => exact absurd found (named name)
    | exported => exact .inl rfl
    | internal => exact .inr rfl

theorem refusal?_eq_some {e : StandardDirective × Text} {f : Failure}
    (refused : refusal? e = some f) : e.1 = .typeVisibility ∧ f = .badVisibility (some e.2) := by
  unfold refusal? at refused
  split at refused
  · next named seen =>
    cases refused
    exact ⟨named, visibilityOf_error seen⟩
  · cases refused

theorem refusal?_eq_none_iff {e : StandardDirective × Text} :
    refusal? e = none ↔ (e.1 = .typeVisibility →
      Text.lower e.2.trim = "public".toList ∨ Text.lower e.2.trim = "internal".toList) := by
  rw [← visibilityOf_ok_iff]
  obtain ⟨d, value⟩ := e
  cases d with
  | typeVisibility =>
    simp only [refusal?, forall_const]
    cases visibilityOf (some value) <;> simp
  | _ => simp [refusal?]

theorem refusal?_selected_iff {ds : Directives} :
    (table.selected ds).findSome? refusal? = none ↔ ds.Admissible := by
  simp only [List.findSome?_eq_none_iff, refusal?_eq_none_iff, mem_selected_iff]
  constructor
  · intro fine d given named
    exact fine (.typeVisibility, d.2) ⟨d, given, named, rfl⟩ rfl
  · rintro admissible ⟨a, value⟩ ⟨d, given, named, rfl⟩ rfl
    exact admissible d given named

def added? (e : StandardDirective × Text) : Option CodeAttribute :=
  match e.1 with
  | .excludeFromCodeCoverage => if Text.flag false (some e.2) then some coverageMarker else none
  | _ => none

/-- What a directive can make of a unit, by the attribute that it adds. -/
inductive Makes (u : CompileUnit) : Option CodeAttribute → CompileUnit → Prop where
  | nothing : Makes u none u
  | name {name : Text} (full : u.type.name ≠ [] → name ≠ []) :
      Makes u none (u.mapType fun t => { t with name := name })
  | namespaceName (name : Text) : Makes u none { u with namespaceName := name }
  | imports (names : List Text) : Makes u none { u with imports := u.imports.insertAll names }
  | marker : Makes u (some coverageMarker) (u.addAttribute coverageMarker)
  | visibility {v : Visibility} (known : v = .exported ∨ v = .internal) :
      Makes u none (u.mapType fun t => { t with visibility := v })
  | pragmas : Makes u none
      (u.mapType fun t => { t with entryMethod := { t.entryMethod with linePragmas := false } })

theorem trimUnderscores_ne_nil {name : Text} (some : name ≠ []) : trimUnderscores name ≠ [] := by
  unfold trimUnderscores
  simp only [List.isEmpty_iff]
  split
  · exact some
  · next full => exact full

theorem apply_makes {d : StandardDirective} {value : Text} {u u' : CompileUnit}
    (applied : d.apply (some value) u = .ok u') : Makes u (added? (d, value)) u' := by
  cases d with
  | imports =>
    cases applied
    exact .imports _
  | typeVisibility =>
    obtain ⟨v, seen, rfl⟩ := map_eq_ok_iff.1 applied
    exact .visibility (visibilityOf_ok seen)
  | excludeFromCodeCoverage =>
    simp only [apply] at applied
    simp only [added?]
    split at applied <;> cases applied
    · next flagged =>
      rw [if_pos flagged]
      exact .marker
    · next unflagged =>
      rw [if_neg unflagged]
      exact .nothing
  | className =>
    simp only [apply] at applied
    split at applied <;> cases applied
    · exact .nothing
    · next full => exact .name fun _ => mt (Text.trim_eq_nil_iff _).1 full
  | namespaceName =>
    simp only [apply] at applied
    split at applied <;> cases applied
    · exact .nothing
    · exact .namespaceName _
  | disableLinePragmas =>
    simp only [apply] at applied
    split at applied <;> cases applied
    · exact .pragmas
    · exact .nothing
  | trimLeadingUnderscores =>
    simp only [apply] at applied
    split at applied <;> cases applied
    · exact .name trimUnderscores_ne_nil
    · exact .nothing

theorem apply_refusal (d : StandardDirective) (value : Text) (u : CompileUnit) :
    (∀ f, d.apply (some value) u = .error f → refusal? (d, value) = some f) ∧
      ∀ u', d.apply (some value) u = .ok u' → refusal? (d, value) = none := by
  cases d with
  | typeVisibility =>
    simp only [apply, refusal?]
    cases visibilityOf (some value) with
    | error f =>
      refine ⟨fun g same => congrArg some (Except.error.inj same), fun u' applied => ?_⟩
      cases applied
    | ok v =>
      refine ⟨fun f applied => ?_, fun _ _ => rfl⟩
      cases applied
  | _ =>
    refine ⟨fun f applied => ?_, fun _ _ => rfl⟩
    cases applied

theorem applyAll_failure (es : List (StandardDirective × Text)) (u : CompileUnit) :
    (applyAll u es).2 = es.findSome? refusal? := by
  induction es generalizing u with
  | nil => rfl
  | cons e es ih =>
    obtain ⟨refused, carried⟩ := apply_refusal e.1 e.2 u
    rw [applyAll, List.findSome?_cons]
    cases applied : e.1.apply (some e.2) u with
    | error f => rw [refused f applied]
    | ok u' =>
      rw [carried u' applied]
      exact ih u'

theorem holds_applyAll {Holds : CompileUnit → Prop}
    (keeps : ∀ a u u', Makes u a u' → Holds u → Holds u')
    (es : List (StandardDirective × Text)) {u : CompileUnit} (start : Holds u) :
    Holds (applyAll u es).1 := by
  induction es generalizing u with
  | nil => exact start
  | cons e es ih =>
    rw [applyAll]
    cases applied : e.1.apply (some e.2) u with
    | error f => exact start
    | ok u' => exact ih (keeps _ u u' (apply_makes applied) start)

theorem plain_coverageMarker : coverageMarker.Plain := CodeAttribute.plain_marker _

end StandardDirective

namespace Customization

/-- The arguments have the declared types: names and other texts are texts. -/
def Declared : Customization → Prop
  | .setImports imports _ => ∀ v ∈ imports, ∃ t, v = .text t
  | .addGeneratedCode tool version => (∃ t, tool = .text t) ∧ ∃ t, version = .text t
  | .setBaseType baseType => ∃ t, baseType = .text t
  | .replaceText old new => (∃ t, old = .text t) ∧ ∃ t, new = .text t
  | _ => True

def refusal? : Customization → Option Failure
  | .directiveDispatch held =>
    (StandardDirective.table.selected held).findSome? StandardDirective.refusal?
  | _ => none

theorem declared_holding {c : Customization} {ds : Directives} :
    (c.holding ds).Declared ↔ c.Declared := by
  cases c <;> rfl

theorem plain_generatedCode {tool version : Value}
    (declared : (Customization.addGeneratedCode tool version).Declared) :
    (generatedCode tool version).Plain :=
  List.forall_mem_cons.2 ⟨declared.1, List.forall_mem_singleton.2 declared.2⟩

theorem mutateModel_failure {c : Customization} (declared : c.Declared) (u : CompileUnit) :
    (c.mutateModel u).failure = c.refusal? := by
  cases c with
  | setImports imports replaceExisting =>
    have names : ∀ v ∈ imports, v.truthy = true → v.hasOperation "strip".toList = true := by
      intro v inside _
      obtain ⟨t, rfl⟩ := declared v inside
      rfl
    cases replaceExisting with
    | false => exact u.imports.insertValues_none_iff.2 names
    | true => exact ImportSet.empty.insertValues_none_iff.2 names
  | directiveDispatch held => exact StandardDirective.applyAll_failure _ u
  | _ => rfl

theorem refusal?_directiveDispatch {ds : Directives} {f : Failure}
    (refused : (directiveDispatch ds).refusal? = some f) :
    ∃ d ∈ ds, Text.lower d.1.trim = "typevisibility".toList ∧ f = .badVisibility (some d.2) := by
  obtain ⟨e, inside, refused⟩ := List.exists_of_findSome?_eq_some refused
  obtain ⟨visible, rfl⟩ := StandardDirective.refusal?_eq_some refused
  obtain ⟨d, given, named, value⟩ := StandardDirective.mem_selected_iff.1 inside
  rw [visible] at named
  exact ⟨d, given, named, by rw [value]⟩

end Customization

end TemplateCompiler
