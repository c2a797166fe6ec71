import TemplateCompiler.Customization.Chain

/-! Nesting does not show. A chain whose members are chains does what the chain of its leaves does:
the same members are called with the same arguments in the same order, and what is reached, what is
noted and the failure are the same. -/

namespace TemplateCompiler.Chain

variable {τ ν α : Type}

/-- The chain of the leaves, without chains in it. -/
def flat (c : Chain τ) : Chain τ := .chain (c.leaves.map .single)

/-- The hook that notes first which member was called, and what it was given. -/
def noting (hook : τ → α → HookRun τ ν α) (member : τ) (a : α) : HookRun τ (τ × α ⊕ ν) α :=
  let r := hook member a
  ⟨r.after, r.reached, .inl (member, a) :: r.notes.map .inr, r.failure⟩

def calls (hook : τ → α → HookRun τ ν α) (c : Chain τ) (a : α) : List (τ × α) :=
  (run (noting hook) c a).notes.filterMap Sum.getLeft?

def unnoted {σ β : Type} (r : HookRun σ (β ⊕ ν) α) : HookRun σ ν α :=
  ⟨r.after, r.reached, r.notes.filterMap Sum.getRight?, r.failure⟩

/-- A hook does the same on both chains: it calls the same members with the same arguments, reaches
the same where it ends, fails or does not fail in the same way, and leaves the members alike. -/
structure Alike (hook : τ → α → HookRun τ ν α) (c d : Chain τ) (a : α) : Prop where
  calls : calls hook c a = calls hook d a
  reached : (run hook c a).reached = (run hook d a).reached
  failure : (run hook c a).failure = (run hook d a).failure
  notes : (run hook c a).notes = (run hook d a).notes
  leaves : (run hook c a).after.leaves = (run hook d a).after.leaves

@[simp] theorem leavesOf_map_single (ts : List τ) : leavesOf (ts.map .single) = ts := by
  induction ts with
  | nil => rfl
  | cons t ts ih => rw [List.map_cons, leavesOf, leaves, ih, List.singleton_append]

@[simp] theorem leaves_flat (c : Chain τ) : c.flat.leaves = c.leaves := leavesOf_map_single c.leaves

section Names

variable (h : Hooks τ ν)

theorem namesOf_append (front back : List (Chain τ)) :
    namesOf h (front ++ back) = namesOf h front ++ namesOf h back := by
  induction front with
  | nil => rfl
  | cons member rest ih => rw [List.cons_append, namesOf, namesOf, ih, List.append_assoc]

mutual

theorem namesOf_leaves : (c : Chain τ) → namesOf h (c.leaves.map .single) = names h c
  | .single _ => List.append_nil _
  | .chain members => namesOf_leavesOf members

theorem namesOf_leavesOf : (members : List (Chain τ)) →
    namesOf h ((leavesOf members).map .single) = namesOf h members
  | [] => rfl
  | member :: rest => by
    rw [leavesOf, List.map_append, namesOf_append, namesOf_leaves member, namesOf_leavesOf rest,
      namesOf]

end

end Names

section Runs

variable (hook : τ → α → HookRun τ ν α)

def followed (first : HookRun (List (Chain τ)) ν α) (rest : List (Chain τ)) :
    HookRun (List (Chain τ)) ν α :=
  match first.failure with
  | some f => ⟨first.after ++ rest, first.reached, first.notes, some f⟩
  | none =>
    let r := runAll hook rest first.reached
    ⟨first.after ++ r.after, r.reached, first.notes ++ r.notes, r.failure⟩

theorem runAll_append (front back : List (Chain τ)) (a : α) :
    runAll hook (front ++ back) a = followed hook (runAll hook front a) back := by
  induction front generalizing a with
  | nil => rfl
  | cons member rest ih =>
    rw [List.cons_append, runAll, runAll, join, join]
    cases failed : (run hook member a).failure with
    | some f => rfl
    | none =>
      simp only [ih]
      unfold followed
      cases (runAll hook rest (run hook member a).reached).failure with
      | some f => rfl
      | none => simp only [List.cons_append, List.append_assoc]

mutual

theorem runAll_leaves : (c : Chain τ) → (a : α) →
    runAll hook (c.leaves.map .single) a =
      (run hook c a).mapAfter fun d => d.leaves.map .single
  | .single member, a => by
    rw [leaves, List.map_singleton, runAll, join, run]
    unfold HookRun.mapAfter
    cases (hook member a).failure with
    | some f => rfl
    | none => simp [runAll, HookRun.done, leaves]
  | .chain members, a => runAll_leavesOf members a

theorem runAll_leavesOf : (members : List (Chain τ)) → (a : α) →
    runAll hook ((leavesOf members).map .single) a =
      (runAll hook members a).mapAfter fun ds => (leavesOf ds).map .single
  | [], _ => rfl
  | member :: rest, a => by
    rw [leavesOf, List.map_append, runAll_append, runAll_leaves member a, runAll, join]
    unfold followed HookRun.mapAfter
    cases (run hook member a).failure with
    | some f => simp only [leavesOf, List.map_append]
    | none =>
      simp only [runAll_leavesOf rest, HookRun.mapAfter, leavesOf, List.map_append]

end

theorem run_flat (c : Chain τ) (a : α) : run hook c.flat a = (run hook c a).mapAfter flat := by
  rw [flat, run, runAll_leaves]
  rfl

mutual

theorem run_noting : (c : Chain τ) → (a : α) → unnoted (run (noting hook) c a) = run hook c a
  | .single member, a => by
    have none : List.filterMap Sum.getRight? (.inl (member, a) :: (hook member a).notes.map .inr) =
        (hook member a).notes := by
      rw [List.filterMap_cons_none rfl, List.filterMap_map]
      exact List.filterMap_some
    rw [run, run]
    simp only [unnoted, noting, HookRun.mapAfter, none]
  | .chain members, a => congrArg (HookRun.mapAfter Chain.chain) (runAll_noting members a)

theorem runAll_noting : (members : List (Chain τ)) → (a : α) →
    unnoted (runAll (noting hook) members a) = runAll hook members a
  | [], _ => rfl
  | member :: rest, a => by
    rw [runAll, runAll, ← run_noting member a]
    unfold join unnoted
    cases (run (noting hook) member a).failure with
    | some f => rfl
    | none => simp only [← runAll_noting rest, unnoted, List.filterMap_append]

end

theorem alike_flat (c : Chain τ) (a : α) : Alike hook c.flat c a := by
  have same := run_flat hook c a
  have noted := run_flat (noting hook) c a
  refine ⟨?_, ?_, ?_, ?_, ?_⟩
  · rw [calls, noted]
    rfl
  · rw [same]
    rfl
  · rw [same]
    rfl
  · rw [same]
    rfl
  · rw [same]
    exact leaves_flat _

end Runs

/-- Nothing that the hooks of a chain do shows how it is nested, whatever its members are. The last
part is about hooks that pass on anything, such as a store in which members that stand at several
places keep what they have. -/
theorem hooks_flat (h : Hooks τ ν) (c : Chain τ) :
    (hooks h).names c.flat = (hooks h).names c ∧
      (∀ context, Alike h.prepare c.flat c context) ∧
      (∀ u, Alike h.mutateModel c.flat c u) ∧
      (∀ t, Alike h.mutateText c.flat c t) ∧
      ∀ (β : Type) (hook : τ → β → HookRun τ ν β) (b : β), Alike hook c.flat c b :=
  ⟨namesOf_leaves h c, alike_flat _ c, alike_flat _ c, alike_flat _ c,
    fun _ hook b => alike_flat hook c b⟩

end TemplateCompiler.Chain
