import TemplateCompiler.Proofs.Customization.Renewal
import TemplateCompiler.Proofs.Customization.Steps
import TemplateCompiler.Proofs.Language.Rendering
import TemplateCompiler.Proofs.Registry.Entries

/-! What customizations need of their arguments in a pass. The imports have to be names and both
sides of a replacement texts, and the renderer has to be able to write the attributes and the base
type that are left in the end. -/

namespace TemplateCompiler

/-- Every directive for the visibility of the type says a visibility. -/
def Directives.Admissible (ds : Directives) : Prop :=
  ∀ d ∈ ds, Text.lower d.1.trim = "typevisibility".toList →
    Text.lower d.2.trim = "public".toList ∨ Text.lower d.2.trim = "internal".toList

namespace CompileUnit

def marks (u : CompileUnit) : List CodeAttribute := u.type.attributes.filter fun a => !a.isMarker

theorem renderable_iff {u : CompileUnit} :
    u.Renderable ↔ (∀ a ∈ u.marks, ∀ v ∈ a.arguments, v.Printable) ∧
      (u.type.baseType.truthy = true → u.type.baseType.isWritable = true) := by
  constructor
  · intro renderable
    exact ⟨fun a inside => renderable.arguments a (List.mem_filter.1 inside).1, renderable.base⟩
  · rintro ⟨arguments, base⟩
    refine ⟨fun a inside v given => ?_, base⟩
    have marked : (!a.isMarker) = true := by
      unfold CodeAttribute.isMarker
      cases listed : a.arguments with
      | nil => simp [listed] at given
      | cons w ws => rfl
    exact arguments a (List.mem_filter.2 ⟨inside, marked⟩) v given

end CompileUnit

def CodeAttribute.addDistinct (as : List CodeAttribute) (a : CodeAttribute) : List CodeAttribute :=
  if as.any a.same then as else as ++ [a]

theorem CodeAttribute.same_marker {a b : CodeAttribute} (same : a.same b = true) :
    a.isMarker = b.isMarker := by
  have arguments : (Value.list a.arguments).same (.list b.arguments) = true := by
    simp only [CodeAttribute.same, Bool.and_eq_true] at same
    exact same.2
  rw [Value.same] at arguments
  unfold isMarker
  cases ha : a.arguments <;> cases hb : b.arguments <;> simp_all [Value.sameList]

namespace TypeDeclaration

theorem addAttribute_attributes (t : TypeDeclaration) (a : CodeAttribute) :
    (t.addAttribute a).attributes = CodeAttribute.addDistinct t.attributes a := by
  unfold addAttribute CodeAttribute.addDistinct hasAttribute
  split <;> rfl

@[simp] theorem addAttribute_baseType (t : TypeDeclaration) (a : CodeAttribute) :
    (t.addAttribute a).baseType = t.baseType := by
  unfold addAttribute
  split <;> rfl

end TypeDeclaration

namespace CompileUnit

theorem marks_addAttribute (u : CompileUnit) (a : CodeAttribute) :
    (u.addAttribute a).marks =
      if a.isMarker then u.marks else CodeAttribute.addDistinct u.marks a := by
  have attributes : (u.addAttribute a).type.attributes =
      CodeAttribute.addDistinct u.type.attributes a := u.type.addAttribute_attributes a
  rw [marks, attributes, CodeAttribute.addDistinct]
  by_cases marker : a.isMarker = true
  · simp only [marker, if_true]
    split
    · rfl
    · simp [marks, marker]
  · -- an equal attribute has arguments too, so it is found among those that have
    have found : u.type.attributes.any a.same = u.marks.any a.same := by
      rw [marks, Bool.eq_iff_iff, List.any_eq_true, List.any_eq_true]
      constructor
      · rintro ⟨b, inside, same⟩
        refine ⟨b, List.mem_filter.2 ⟨inside, ?_⟩, same⟩
        simpa [CodeAttribute.same_marker same] using marker
      · rintro ⟨b, inside, same⟩
        exact ⟨b, (List.mem_filter.1 inside).1, same⟩
    simp only [marker, if_false, found, CodeAttribute.addDistinct, Bool.false_eq_true]
    split
    · rfl
    · simp [marks, marker]

end CompileUnit

namespace StandardDirective

def key : StandardDirective → Text
  | .className => "classname".toList
  | .namespaceName => "namespace".toList
  | .imports => "imports".toList
  | .excludeFromCodeCoverage => "excludefromcodecoverage".toList
  | .typeVisibility => "typevisibility".toList
  | .disableLinePragmas => "disablelinepragmas".toList
  | .trimLeadingUnderscores => "trimleadingunderscores".toList

theorem lookup_table_iff {name : Text} {d : StandardDirective} :
    table.lookup name = some d ↔ name = d.key := by
  constructor
  · intro found
    have listed : ∀ e ∈ table, e.1 = e.2.key := by decide +kernel
    obtain ⟨before, after, split, -⟩ := List.lookup_eq_some_iff.1 found
    have inside : (name, d) ∈ table := by
      rw [split]
      exact List.mem_append_right before List.mem_cons_self
    exact listed _ inside
  · rintro rfl
    cases d <;> decide +kernel

theorem mem_selected_iff {ds : Directives} {e : StandardDirective × Text} :
    e ∈ table.selected ds ↔ ∃ d ∈ ds, Text.lower d.1.trim = e.1.key ∧ d.2 = e.2 := by
  unfold DirectiveTable.selected
  rw [List.mem_filterMap]
  refine exists_congr fun d => and_congr_right fun _ => ?_
  rw [Option.map_eq_some_iff, DirectiveTable.find?, ← lookup_table_iff]
  constructor
  · rintro ⟨a, found, rfl⟩
    exact ⟨found, rfl⟩
  · rintro ⟨found, same⟩
    exact ⟨e.1, found, Prod.ext rfl same⟩

theorem visibilityOf_ok_iff {value : Text} :
    (∃ v, visibilityOf (some value) = .ok v) ↔
      Text.lower value.trim = "public".toList ∨ Text.lower value.trim = "internal".toList := by
  unfold visibilityOf
  rw [Option.getD_some]
  generalize Text.lower value.trim = name
  by_cases exported : name = "public".toList
  · subst exported
    exact iff_of_true ⟨.exported, rfl⟩ (.inl rfl)
  by_cases internal : name = "internal".toList
  · subst internal
    exact iff_of_true ⟨.internal, rfl⟩ (.inr rfl)
  rw [Visibility.ofName, if_neg exported, if_neg internal]
  exact iff_of_false (fun ⟨v, seen⟩ => nomatch seen) (not_or.2 ⟨exported, internal⟩)

theorem apply_ok_iff {d : StandardDirective} {value : Text} {u : CompileUnit} :
    (∃ u', d.apply (some value) u = .ok u') ↔ (d = .typeVisibility →
      Text.lower value.trim = "public".toList ∨ Text.lower value.trim = "internal".toList) := by
  rw [← visibilityOf_ok_iff]
  cases d with
  | typeVisibility =>
    simp only [apply, forall_const]
    cases visibilityOf (some value) <;> simp [Except.map]
  | _ => simp [apply]

theorem apply_keeps {d : StandardDirective} {value : Option Text} {u u' : CompileUnit}
    (applied : d.apply value u = .ok u') :
    u'.marks = u.marks ∧ u'.type.baseType = u.type.baseType := by
  cases d with
  | typeVisibility =>
    simp only [apply] at applied
    cases seen : visibilityOf value with
    | error f => rw [seen] at applied; cases applied
    | ok v => rw [seen] at applied; cases applied; exact ⟨rfl, rfl⟩
  | excludeFromCodeCoverage =>
    simp only [apply] at applied
    split at applied <;> cases applied
    · exact ⟨u.marks_addAttribute coverageMarker, u.type.addAttribute_baseType coverageMarker⟩
    · exact ⟨rfl, rfl⟩
  | imports => cases applied; exact ⟨rfl, rfl⟩
  | _ =>
    simp only [apply] at applied
    split at applied <;> cases applied <;> exact ⟨rfl, rfl⟩

theorem applyAll_keeps (es : List (StandardDirective × Text)) (u : CompileUnit) :
    (applyAll u es).1.marks = u.marks ∧ (applyAll u es).1.type.baseType = u.type.baseType := by
  induction es generalizing u with
  | nil => exact ⟨rfl, rfl⟩
  | cons e es ih =>
    rw [applyAll]
    cases applied : e.1.apply (some e.2) u with
    | error f => exact ⟨rfl, rfl⟩
    | ok u' =>
      have kept := apply_keeps applied
      exact ⟨(ih u').1.trans kept.1, (ih u').2.trans kept.2⟩

theorem applyAll_none {es : List (StandardDirective × Text)} (u : CompileUnit)
    (fine : ∀ e ∈ es, e.1 = .typeVisibility →
      Text.lower e.2.trim = "public".toList ∨ Text.lower e.2.trim = "internal".toList) :
    (applyAll u es).2 = none := by
  induction es generalizing u with
  | nil => rfl
  | cons e es ih =>
    obtain ⟨first, others⟩ := List.forall_mem_cons.1 fine
    obtain ⟨u', applied⟩ := apply_ok_iff (u := u).2 first
    rw [applyAll, applied]
    exact ih u' others

theorem applyAll_selected {ds : Directives} (admissible : ds.Admissible) (u : CompileUnit) :
    (applyAll u (table.selected ds)).2 = none := by
  refine applyAll_none u fun e inside visible => ?_
  obtain ⟨d, given, named, value⟩ := mem_selected_iff.1 inside
  rw [visible] at named
  rw [← value]
  exact admissible d given named

end StandardDirective

namespace ImportSet

theorem nameOf_ok_iff {v : Value} : (∃ name, nameOf v = .ok name) ↔
    (v.truthy = true → v.hasOperation "strip".toList = true) := by
  generalize strips : "strip".toList = operation
  have refused (b : Bool) (f : Failure) :
      (∃ name, (if b = true then Except.error f else .ok ([] : Text)) = .ok name) ↔
        (b = true → False) := by
    cases b <;> simp
  cases v with
  | text | bytes => simp [nameOf, Value.hasOperation]
  | moment =>
    have other : (operation == "replace".toList) = false := strips ▸ by decide
    simp only [nameOf, Value.hasOperation, other, Bool.false_eq_true, refused]
  | _ => simp only [nameOf, Value.hasOperation, Bool.false_eq_true, refused]

theorem insertValues_none_iff (s : ImportSet) {vs : List Value} :
    (s.insertValues vs).2 = none ↔
      ∀ v ∈ vs, v.truthy = true → v.hasOperation "strip".toList = true := by
  induction vs generalizing s with
  | nil => simp [insertValues]
  | cons v vs ih =>
    rw [insertValues, List.forall_mem_cons, ← nameOf_ok_iff]
    cases nameOf v with
    | error f => simp
    | ok name => simpa using ih (s.insert name)

end ImportSet

end TemplateCompiler
