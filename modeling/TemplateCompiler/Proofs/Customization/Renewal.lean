import TemplateCompiler.Proofs.Customization.Building
import TemplateCompiler.Proofs.Pass.Ending

/-! Customizations are as good as new before every pass. What one keeps from a pass, it gets anew
when the next pass is prepared, so hooks that only differ in what was kept do the same. -/

namespace TemplateCompiler

/-- `renew` takes away what a customization kept from earlier passes: preparing gives it again,
and no hook changes anything else. -/
structure Hooks.Renews {τ ν : Type} (h : Hooks τ ν) (renew : τ → τ) : Prop where
  prepare_renew : ∀ t context, h.prepare (renew t) context = h.prepare t context
  renew_prepare : ∀ t context, renew (h.prepare t context).after = renew t
  renew_mutateModel : ∀ t u, renew (h.mutateModel t u).after = renew t
  renew_mutateText : ∀ t code, renew (h.mutateText t code).after = renew t

namespace Chain

variable {τ ν α : Type}

section

variable (hook : τ → α → HookRun τ ν α) (renew : τ → τ)

mutual

theorem map_run_after (keeps : ∀ t a, renew (hook t a).after = renew t) :
    (c : Chain τ) → (a : α) → (run hook c a).after.map renew = c.map renew
  | .single t, a => congrArg Chain.single (keeps t a)
  | .chain members, a => congrArg Chain.chain (mapAll_runAll_after keeps members a)

theorem mapAll_runAll_after (keeps : ∀ t a, renew (hook t a).after = renew t) :
    (members : List (Chain τ)) → (a : α) →
      mapAll renew (runAll hook members a).after = mapAll renew members
  | [], _ => rfl
  | member :: rest, a => by
    have first := map_run_after keeps member a
    rw [runAll, join]
    cases (run hook member a).failure with
    | some f => simp only [mapAll, first]
    | none => simp only [mapAll, first, mapAll_runAll_after keeps rest]

end

mutual

theorem run_failure (steady : ∀ t a, (hook t a).failure = none) :
    (c : Chain τ) → (a : α) → (run hook c a).failure = none
  | .single t, a => steady t a
  | .chain members, a => runAll_failure steady members a

theorem runAll_failure (steady : ∀ t a, (hook t a).failure = none) :
    (members : List (Chain τ)) → (a : α) → (runAll hook members a).failure = none
  | [], _ => rfl
  | member :: rest, a => by
    rw [runAll, join]
    simp only [run_failure steady member a, runAll_failure steady rest]

end

mutual

/-- The members behind a failing one would keep what they have, so the hook must not fail. -/
theorem run_map (steady : ∀ t a, (hook t a).failure = none)
    (same : ∀ t a, hook (renew t) a = hook t a) :
    (c : Chain τ) → (a : α) → run hook (c.map renew) a = run hook c a
  | .single t, a => congrArg (HookRun.mapAfter Chain.single) (same t a)
  | .chain members, a => congrArg (HookRun.mapAfter Chain.chain) (runAll_mapAll steady same members a)

theorem runAll_mapAll (steady : ∀ t a, (hook t a).failure = none)
    (same : ∀ t a, hook (renew t) a = hook t a) :
    (members : List (Chain τ)) → (a : α) →
      runAll hook (mapAll renew members) a = runAll hook members a
  | [], _ => rfl
  | member :: rest, a => by
    have others : runAll hook (mapAll renew rest) = runAll hook rest := by
      funext b
      exact runAll_mapAll steady same rest b
    simp only [mapAll, runAll, join, run_map steady same member a,
      run_failure hook steady member a, others]

end

end

theorem renews {h : Hooks τ ν} {renew : τ → τ} (renews : h.Renews renew)
    (steady : ∀ t context, (h.prepare t context).failure = none) :
    (hooks h).Renews (map renew) where
  prepare_renew := run_map _ _ steady renews.prepare_renew
  renew_prepare := map_run_after _ _ renews.renew_prepare
  renew_mutateModel := map_run_after _ _ renews.renew_mutateModel
  renew_mutateText := map_run_after _ _ renews.renew_mutateText

end Chain

namespace Customization

def renewed : Customization → Customization
  | .directiveDispatch _ => .directiveDispatch []
  | c => c

theorem prepare_failure (c : Customization) (context : Context) :
    (c.prepare context).failure = none := by
  cases c <;> rfl

theorem mutateModel_after (c : Customization) (u : CompileUnit) :
    (c.mutateModel u).after = c := by
  cases c <;> rfl

theorem mutateText_after (c : Customization) (t : Text) : (c.mutateText t).after = c := by
  cases c with
  | replaceText old new =>
    rw [mutateText]
    split <;> rfl
  | _ => rfl

theorem renews : hooks.Renews renewed where
  prepare_renew c context := by cases c <;> rfl
  renew_prepare c context := by cases c <;> rfl
  renew_mutateModel c u := congrArg renewed (c.mutateModel_after u)
  renew_mutateText c t := congrArg renewed (c.mutateText_after t)

theorem renewed_build {profile name : Text} {args : Arguments} {c : Customization}
    (built : build profile name args = .ok c) : c.renewed = c := by
  cases made_build built <;> rfl

end Customization

/-- Trees of chains over customizations that were just built. -/
inductive Chain.Built : Chain Customization → Prop where
  | single {profile name : Text} {args : Arguments} {c : Customization}
      (built : Customization.build profile name args = .ok c) : Built (.single c)
  | chain {members : List (Chain Customization)} (built : ∀ x ∈ members, Built x) :
      Built (.chain members)

theorem Chain.mapAll_eq {τ σ : Type} (f : τ → σ) (members : List (Chain τ)) :
    mapAll f members = members.map (map f) := by
  induction members with
  | nil => rfl
  | cons member rest ih => rw [mapAll, ih, List.map_cons]

theorem Chain.Built.map_renewed {c : Chain Customization} (built : c.Built) :
    c.map Customization.renewed = c := by
  induction built with
  | single built => exact congrArg Chain.single (Customization.renewed_build built)
  | chain _ ih =>
    rw [map, mapAll_eq]
    exact congrArg Chain.chain ((List.map_congr_left ih).trans (List.map_id' _))

end TemplateCompiler
