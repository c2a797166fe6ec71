import TemplateCompiler.Language.Render
import TemplateCompiler.Proofs.Outcome

/-! Which compile units can be rendered. It is the same in both languages: the items of every
attribute argument have to be texts, and a base type that is shown needs a text. -/

namespace TemplateCompiler

/-- A value whose items are texts, as those of a text are. -/
def Value.Printable (v : Value) : Prop :=
  ∃ items, v.items? = some items ∧ ∀ i ∈ items, ∃ t, i = .text t

theorem Value.printable_text (t : Text) : (Value.text t).Printable := by
  refine ⟨t.map fun c => .text [c], rfl, fun i inside => ?_⟩
  obtain ⟨c, -, rfl⟩ := List.mem_map.1 inside
  exact ⟨[c], rfl⟩

namespace Spelling

theorem itemTexts_ok_iff (index : Nat) {items : List Value} :
    (∃ texts, itemTexts index items = .ok texts) ↔ ∀ i ∈ items, ∃ t, i = .text t := by
  induction items generalizing index with
  | nil => simp [itemTexts]
  | cons v items ih =>
    rw [List.forall_mem_cons, ← ih (index + 1)]
    cases v with
    | text t => cases h : itemTexts (index + 1) items <;> simp [itemTexts, h, Except.map]
    | _ => simp [itemTexts]

theorem argument_ok_iff {s : Spelling} {v : Value} :
    (∃ form, s.argument v = .ok form) ↔ v.Printable := by
  unfold argument
  split
  · exact iff_of_true ⟨_, rfl⟩ (Value.printable_text _)
  · split
    · next none => simp [Value.Printable, none]
    · next items found =>
      have printable : v.Printable ↔ ∀ i ∈ items, ∃ t, i = .text t := by
        simp [Value.Printable, found]
      rw [printable]
      split
      · next part unkeyed =>
        refine iff_of_false (by simp) fun texts => ?_
        obtain ⟨i, inside, given⟩ := List.exists_of_findSome?_eq_some unkeyed
        obtain ⟨t, rfl⟩ := texts i inside
        cases given
      · rw [← itemTexts_ok_iff 0]
        cases itemTexts 0 items <;> simp [Except.map]

theorem attributeText_ok_iff {s : Spelling} {a : CodeAttribute} :
    (∃ form, s.attributeText a = .ok form) ↔ ∀ v ∈ a.arguments, v.Printable := by
  have arguments : (∃ forms, a.arguments.mapM s.argument = .ok forms) ↔
      ∀ v ∈ a.arguments, v.Printable := by
    simp only [mapM_ok_iff, argument_ok_iff]
  rw [← arguments, attributeText]
  cases a.arguments.mapM s.argument <;> simp [Except.map]

end Spelling

structure CompileUnit.Renderable (u : CompileUnit) : Prop where
  arguments : ∀ a ∈ u.type.attributes, ∀ v ∈ a.arguments, v.Printable
  base : u.type.baseType.truthy = true → u.type.baseType.isWritable = true

namespace Language

theorem checkBaseType_eq_ok_iff {base : Value} :
    checkBaseType base = .ok () ↔ (base.truthy = true → base.isWritable = true) := by
  simp [checkBaseType]

theorem renderLines_eq_ok_iff {l : Language} {u : CompileUnit} {lines : List Text} :
    l.renderLines u = .ok lines ↔
      ∃ attributes, u.type.attributes.mapM l.spelling.attributeText = .ok attributes ∧
        checkBaseType u.type.baseType = .ok () ∧ lines = l.layout u attributes := by
  unfold renderLines
  constructor
  · intro written
    obtain ⟨attributes, forms, written⟩ := do_eq_ok_iff.1 written
    obtain ⟨⟨⟩, base, written⟩ := do_eq_ok_iff.1 written
    cases written
    exact ⟨attributes, forms, base, rfl⟩
  · rintro ⟨attributes, forms, base, rfl⟩
    exact do_eq_ok_iff.2 ⟨attributes, forms, do_eq_ok_iff.2 ⟨(), base, rfl⟩⟩

theorem render_ok_iff {l : Language} {u : CompileUnit} :
    (∃ code, l.render u = .ok code) ↔ u.Renderable := by
  constructor
  · rintro ⟨code, rendered⟩
    obtain ⟨lines, laid, -⟩ := map_eq_ok_iff.1 rendered
    obtain ⟨attributes, forms, base, -⟩ := renderLines_eq_ok_iff.1 laid
    have each := mapM_ok_iff.1 ⟨attributes, forms⟩
    exact ⟨fun a inside => Spelling.attributeText_ok_iff.1 (each a inside),
      checkBaseType_eq_ok_iff.1 base⟩
  · intro renderable
    obtain ⟨attributes, forms⟩ := mapM_ok_iff.2 fun a inside =>
      Spelling.attributeText_ok_iff (s := l.spelling).2 (renderable.arguments a inside)
    have base := checkBaseType_eq_ok_iff.2 renderable.base
    have laid := renderLines_eq_ok_iff.2 ⟨attributes, forms, base, rfl⟩
    exact ⟨_, map_eq_ok_iff.2 ⟨_, laid, rfl⟩⟩

end Language

end TemplateCompiler
