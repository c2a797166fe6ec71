import Mathlib.Logic.Function.Iterate
import TemplateCompiler.Customization.Basic
import TemplateCompiler.Proofs.Customization.Nesting

/-! Making a type partial several times. Each time the first constructor without parameters that is
left is taken out, and a warning says how many there were if there were more than one. -/

namespace TemplateCompiler

theorem Chain.runAll_replicate {τ ν α : Type} (hook : τ → α → HookRun τ ν α) {t : τ}
    (stays : ∀ a, (hook t a).after = t) (succeeds : ∀ a, (hook t a).failure = none) (n : ℕ)
    (a : α) :
    let step (b : α) : α := (hook t b).reached
    runAll hook (List.replicate n (.single t)) a =
      ⟨List.replicate n (.single t), step^[n] a,
        (List.range n).flatMap fun i => (hook t (step^[i] a)).notes, none⟩ := by
  intro step
  induction n with
  | zero => rfl
  | succ n ih =>
    have once (b : α) :
        runAll hook [.single t] b = ⟨[.single t], step b, (hook t b).notes, none⟩ := by
      rw [runAll, join, run, HookRun.mapAfter]
      simp [stays, succeeds, runAll, HookRun.done, step]
    rw [List.replicate_succ', runAll_append, ih, followed, once, Function.iterate_succ_apply',
      List.range_succ, List.flatMap_append, List.flatMap_singleton]

/-- The first `k` constructors without parameters are gone; all others are there in their order. -/
def LosesFirst (k : ℕ) (cs kept : List Constructor) : Prop :=
  ∃ front back, cs = front ++ back ∧ front.countP Constructor.isDefault = k ∧
    kept = (front.filter fun c => !c.isDefault) ++ back

namespace LosesFirst

variable {k : ℕ} {cs kept : List Constructor}

theorem zero (cs : List Constructor) : LosesFirst 0 cs cs := ⟨[], cs, rfl, rfl, rfl⟩

theorem countP_kept (loses : LosesFirst k cs kept) :
    kept.countP Constructor.isDefault = cs.countP Constructor.isDefault - k := by
  obtain ⟨front, back, rfl, rfl, rfl⟩ := loses
  have none : (front.filter fun c => !c.isDefault).countP Constructor.isDefault = 0 := by
    simp [List.countP_eq_zero]
  rw [List.countP_append, List.countP_append, none]
  omega

theorem eraseP (loses : LosesFirst k cs kept) :
    LosesFirst (min (k + 1) (cs.countP Constructor.isDefault)) cs
      (kept.eraseP Constructor.isDefault) := by
  obtain ⟨front, back, rfl, rfl, rfl⟩ := loses
  have passed : ((front.filter fun c => !c.isDefault) ++ back).eraseP Constructor.isDefault =
      (front.filter fun c => !c.isDefault) ++ back.eraseP Constructor.isDefault :=
    List.eraseP_append_right _ (by simp)
  rw [passed, List.countP_append]
  -- Those in `front` are gone already; the next one is the first of `back`, if there is any.
  by_cases left : ∃ c ∈ back, c.isDefault = true
  · obtain ⟨c, inside, default⟩ := left
    obtain ⟨c, before, after, others, default, rfl, erased⟩ :=
      List.exists_of_eraseP inside default
    have free : before.filter (fun c => !c.isDefault) = before :=
      List.filter_eq_self.2 (by simpa using others)
    have none : before.countP Constructor.isDefault = 0 := List.countP_eq_zero.2 others
    refine ⟨front ++ before ++ [c], after, by simp, ?_, ?_⟩
    · simp [none, default]
    · rw [erased, List.filter_append, List.filter_append, free]
      simp [default]
  · have others : ∀ c ∈ back, ¬ c.isDefault = true := fun c inside default =>
      left ⟨c, inside, default⟩
    have none : back.countP Constructor.isDefault = 0 := List.countP_eq_zero.2 others
    rw [List.eraseP_of_forall_not others, none]
    exact ⟨front, back, rfl, (Nat.min_eq_right (Nat.le_succ _)).symm, rfl⟩

end LosesFirst

namespace Customization

theorem stripConstructor_iterate (n : ℕ) (t : TypeDeclaration) :
    ∃ kept, LosesFirst (min n t.defaultConstructors) t.constructors kept ∧
      stripConstructor^[n] t =
        { t with isPartial := t.isPartial || decide (0 < n), constructors := kept } := by
  induction n with
  | zero =>
    refine ⟨t.constructors, ?_, ?_⟩
    · rw [Nat.zero_min]
      exact .zero _
    · simp
  | succ n ih =>
    obtain ⟨kept, loses, same⟩ := ih
    refine ⟨kept.eraseP Constructor.isDefault, ?_, ?_⟩
    · have further := loses.eraseP
      have count : min (min n t.defaultConstructors + 1) t.defaultConstructors =
          min (n + 1) t.defaultConstructors := by omega
      rwa [← TypeDeclaration.defaultConstructors, count] at further
    · rw [Function.iterate_succ_apply', same, stripConstructor]
      simp

theorem defaultConstructors_iterate (n : ℕ) (t : TypeDeclaration) :
    (stripConstructor^[n] t).defaultConstructors = t.defaultConstructors - n := by
  obtain ⟨kept, loses, same⟩ := stripConstructor_iterate n t
  have left := loses.countP_kept
  rw [← TypeDeclaration.defaultConstructors] at left
  rw [same, TypeDeclaration.defaultConstructors, left]
  omega

theorem name_iterate (n : ℕ) (t : TypeDeclaration) : (stripConstructor^[n] t).name = t.name := by
  obtain ⟨kept, -, same⟩ := stripConstructor_iterate n t
  rw [same]

theorem ambiguity_iterate (n : ℕ) (t : TypeDeclaration) :
    ((List.range n).flatMap fun i => ambiguity (stripConstructor^[i] t)) =
      (List.range (min n (t.defaultConstructors - 1))).map fun i =>
        .ambiguousConstructors t.name (t.defaultConstructors - i) := by
  induction n with
  | zero => simp
  | succ n ih =>
    rw [List.range_succ, List.flatMap_append, ih, List.flatMap_singleton, ambiguity,
      defaultConstructors_iterate, name_iterate]
    by_cases several : 1 < t.defaultConstructors - n
    · have before : min n (t.defaultConstructors - 1) = n := by omega
      have now : min (n + 1) (t.defaultConstructors - 1) = n + 1 := by omega
      rw [if_pos several, before, now, List.range_succ, List.map_append, List.map_singleton]
    · have same : min (n + 1) (t.defaultConstructors - 1) =
          min n (t.defaultConstructors - 1) := by omega
      rw [if_neg several, same, List.append_nil]

theorem mapType_iterate (f : TypeDeclaration → TypeDeclaration) (n : ℕ) (u : CompileUnit) :
    (fun v : CompileUnit => v.mapType f)^[n] u = u.mapType f^[n] := by
  induction n with
  | zero => rfl
  | succ n ih => rw [Function.iterate_succ_apply', ih, CompileUnit.mapType, CompileUnit.mapType,
      CompileUnit.mapType, Function.iterate_succ_apply']

/-- A chain that makes the type partial `n` times takes out the first `n` of its `d` constructors
without parameters, or all, and changes nothing else but that the type is partial. While more than
one is left it warns each time how many there are. -/
theorem mutateModel_makePartials (n : ℕ) (u : CompileUnit) :
    let members : List (Chain Customization) := List.replicate n (.single .makePartial)
    let d := u.type.defaultConstructors
    ∃ kept, LosesFirst (min n d) u.type.constructors kept ∧
      (Chain.hooks hooks).mutateModel (.chain members) u =
        { after := .chain members
          reached := { u with type := { u.type with
            isPartial := u.type.isPartial || decide (0 < n)
            constructors := kept } }
          notes := (List.range (min n (d - 1))).map fun i =>
            .ambiguousConstructors u.type.name (d - i)
          failure := none } := by
  intro members d
  obtain ⟨kept, loses, same⟩ := stripConstructor_iterate n u.type
  refine ⟨kept, loses, ?_⟩
  have ran := Chain.runAll_replicate mutateModel (t := .makePartial) (fun _ => rfl) (fun _ => rfl)
    n u
  have reached (i : ℕ) : (fun v => (mutateModel .makePartial v).reached)^[i] u =
      u.mapType stripConstructor^[i] := mapType_iterate stripConstructor i u
  have warned : ((List.range n).flatMap fun i =>
      (mutateModel .makePartial (u.mapType stripConstructor^[i])).notes) = _ :=
    ambiguity_iterate n u.type
  have whole : (Chain.hooks hooks).mutateModel (.chain members) u =
      (Chain.runAll mutateModel members u).mapAfter .chain := rfl
  simp only [reached] at ran
  rw [whole, ran, warned, CompileUnit.mapType, same]
  rfl

end Customization

end TemplateCompiler
