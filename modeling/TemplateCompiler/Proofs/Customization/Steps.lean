import TemplateCompiler.Customization.Chain

/-! A hook runs on a chain as it does on the list of the chain's leaves: one step after the other,
up to the first that fails. -/

namespace TemplateCompiler

variable {σ τ ν α : Type}

/-- What a run came to: its leaves as they are afterwards and what was reached, or its failure. -/
def HookRun.outcome (leaves : σ → List τ) (r : HookRun σ ν α) : Except Failure (List τ × α) :=
  match r.failure with
  | some f => .error f
  | none => .ok (leaves r.after, r.reached)

def HookRun.value (r : HookRun σ ν α) : Except Failure α :=
  match r.failure with
  | some f => .error f
  | none => .ok r.reached

theorem HookRun.map_outcome (leaves : σ → List τ) (r : HookRun σ ν α) :
    (r.outcome leaves).map Prod.snd = r.value := by
  unfold outcome value
  cases r.failure <;> rfl

theorem HookRun.value_eq_ok_iff {r : HookRun σ ν α} {a : α} :
    r.value = .ok a ↔ r.failure = none ∧ r.reached = a := by
  unfold value
  cases r.failure <;> simp

theorem HookRun.value_eq_error_iff {r : HookRun σ ν α} {f : Failure} :
    r.value = .error f ↔ r.failure = some f := by
  unfold value
  cases r.failure <;> simp

theorem HookRun.value_eq_iff {r : HookRun σ ν α} {s : HookRun τ ν α} :
    r.value = s.value ↔
      r.failure = s.failure ∧ (r.failure = none → r.reached = s.reached) := by
  unfold value
  cases r.failure <;> cases s.failure <;> simp

theorem HookRun.outcome_eq_ok_iff {leaves : σ → List τ} {r : HookRun σ ν α} {x : List τ × α} :
    r.outcome leaves = .ok x ↔ r.failure = none ∧ leaves r.after = x.1 ∧ r.reached = x.2 := by
  obtain ⟨ts, a⟩ := x
  unfold outcome
  cases r.failure <;> simp

theorem HookRun.outcome_eq_error_iff {leaves : σ → List τ} {r : HookRun σ ν α} {f : Failure} :
    r.outcome leaves = .error f ↔ r.failure = some f := by
  unfold outcome
  cases r.failure <;> simp

namespace Chain

def steps (hook : τ → α → HookRun τ ν α) : List τ → α → Except Failure (List τ × α)
  | [], a => .ok ([], a)
  | t :: ts, a =>
    match (hook t a).failure with
    | some f => .error f
    | none => (steps hook ts (hook t a).reached).map fun x => ((hook t a).after :: x.1, x.2)

theorem steps_append (hook : τ → α → HookRun τ ν α) (ts us : List τ) (a : α) :
    steps hook (ts ++ us) a =
      (steps hook ts a).bind fun x => (steps hook us x.2).map fun y => (x.1 ++ y.1, y.2) := by
  induction ts generalizing a with
  | nil =>
    rw [List.nil_append, steps, Except.bind]
    cases steps hook us a <;> rfl
  | cons t ts ih =>
    rw [List.cons_append, steps, steps]
    cases (hook t a).failure with
    | some f => rfl
    | none =>
      simp only [ih]
      cases steps hook ts (hook t a).reached with
      | error f => rfl
      | ok x =>
        simp only [Except.bind, Except.map]
        cases steps hook us x.2 <;> rfl

mutual

/-- However a chain is nested, a hook runs on its leaves from left to right. -/
theorem outcome_run (hook : τ → α → HookRun τ ν α) :
    (c : Chain τ) → (a : α) → (run hook c a).outcome leaves = steps hook c.leaves a
  | .single t, a => by
    rw [run, leaves, steps]
    unfold HookRun.outcome HookRun.mapAfter
    cases (hook t a).failure <;> rfl
  | .chain members, a => by
    rw [run, leaves, ← outcome_runAll hook members a]
    rfl

theorem outcome_runAll (hook : τ → α → HookRun τ ν α) :
    (members : List (Chain τ)) → (a : α) →
      (runAll hook members a).outcome leavesOf = steps hook (leavesOf members) a
  | [], _ => rfl
  | member :: rest, a => by
    have first := outcome_run hook member a
    have others := outcome_runAll hook rest (run hook member a).reached
    rw [leavesOf, steps_append, ← first, runAll, join]
    -- The others only run where the first member did not fail.
    cases failed : (run hook member a).failure with
    | some f =>
      unfold HookRun.outcome
      rw [failed]
      rfl
    | none =>
      have reached : (run hook member a).outcome leaves =
          .ok ((run hook member a).after.leaves, (run hook member a).reached) := by
        unfold HookRun.outcome
        rw [failed]
      rw [reached, Except.bind, ← others]
      unfold HookRun.outcome
      cases (runAll hook rest (run hook member a).reached).failure <;> rfl

end

theorem value_run (hook : τ → α → HookRun τ ν α) (c : Chain τ) (a : α) :
    (run hook c a).value = c.leaves.foldlM (fun b t => (hook t b).value) a := by
  rw [← HookRun.map_outcome leaves, outcome_run]
  induction c.leaves generalizing a with
  | nil => rfl
  | cons t ts ih =>
    rw [steps, List.foldlM_cons, HookRun.value]
    cases (hook t a).failure with
    | some f => rfl
    | none =>
      have others := ih (hook t a).reached
      cases later : steps hook ts (hook t a).reached <;> rw [later] at others <;> exact others

mutual

theorem leaves_map (f : τ → σ) : (c : Chain τ) → (c.map f).leaves = c.leaves.map f
  | .single _ => rfl
  | .chain members => leavesOf_mapAll f members

theorem leavesOf_mapAll (f : τ → σ) :
    (members : List (Chain τ)) → leavesOf (mapAll f members) = (leavesOf members).map f
  | [] => rfl
  | member :: rest => by
    rw [mapAll, leavesOf, leavesOf, List.map_append, leaves_map f member, leavesOf_mapAll f rest]

end

theorem value_run_map {hook : τ → α → HookRun τ ν α} {f : τ → τ}
    (same : ∀ t a, (hook (f t) a).value = (hook t a).value) (c : Chain τ) (a : α) :
    (run hook (c.map f) a).value = (run hook c a).value := by
  simp only [value_run, leaves_map, List.foldlM_map, same]

theorem mem_of_steps_error {hook : τ → α → HookRun τ ν α} {ts : List τ} {a : α} {f : Failure}
    (stopped : steps hook ts a = .error f) : ∃ t ∈ ts, ∃ b, (hook t b).failure = some f := by
  induction ts generalizing a with
  | nil => cases stopped
  | cons t ts ih =>
    rw [steps] at stopped
    cases failed : (hook t a).failure with
    | some g =>
      rw [failed] at stopped
      cases stopped
      exact ⟨t, List.mem_cons_self, a, failed⟩
    | none =>
      rw [failed] at stopped
      cases later : steps hook ts (hook t a).reached with
      | error g =>
        rw [later] at stopped
        cases stopped
        obtain ⟨u, further, b, failed⟩ := ih later
        exact ⟨u, List.mem_cons_of_mem t further, b, failed⟩
      | ok x =>
        rw [later] at stopped
        cases stopped

theorem mem_of_run_failure {hook : τ → α → HookRun τ ν α} {c : Chain τ} {a : α} {f : Failure}
    (failed : (run hook c a).failure = some f) : ∃ t ∈ c.leaves, ∃ b, (hook t b).failure = some f :=
  mem_of_steps_error ((outcome_run hook c a).symm.trans (HookRun.outcome_eq_error_iff.2 failed))

def reach (hook : τ → α → HookRun τ ν α) (ts : List τ) (a : α) : α :=
  ts.foldl (fun a t => (hook t a).reached) a

section

variable {β : Type} {hook : τ → α → HookRun τ ν α} (part : α → β) (kind : τ → Bool)

theorem reach_filter
    (own : ∀ t a b, part a = part b → part (hook t a).reached = part (hook t b).reached)
    (others : ∀ t a, kind t = false → part (hook t a).reached = part a) (ts : List τ) {a b : α}
    (same : part a = part b) :
    part (reach hook ts a) = part (reach hook (ts.filter kind) b) := by
  induction ts generalizing a b with
  | nil => exact same
  | cons t ts ih =>
    rw [reach, List.foldl_cons, ← reach]
    cases selected : kind t with
    | false =>
      rw [List.filter_cons_of_neg (Bool.eq_false_iff.1 selected)]
      exact ih ((others t a selected).trans same)
    | true =>
      rw [List.filter_cons_of_pos selected]
      exact ih (own t a b same)

theorem reach_congr_filter
    (own : ∀ t a b, part a = part b → part (hook t a).reached = part (hook t b).reached)
    (others : ∀ t a, kind t = false → part (hook t a).reached = part a) {ts us : List τ}
    (same : ts.filter kind = us.filter kind) (a : α) :
    part (reach hook ts a) = part (reach hook us a) := by
  rw [reach_filter part kind own others ts rfl, same, ← reach_filter part kind own others us rfl]

end

section

variable {hook : τ → α → HookRun τ ν α} {Holds : α → Prop} {Succeeds : τ → Prop} {next : τ → τ}

/-- Where each step succeeds or fails by itself, all do exactly if each does. `Holds` is what the
steps keep of what is passed on. -/
theorem steps_eq_ok_iff (holds : ∀ t a, Holds a → Holds (hook t a).reached)
    (after : ∀ t a, Holds a → (hook t a).after = next t) {ts : List τ}
    (succeeds : ∀ t ∈ ts, ∀ a, (hook t a).failure = none ↔ Succeeds t) {a : α} (start : Holds a)
    {x : List τ × α} :
    steps hook ts a = .ok x ↔ (∀ t ∈ ts, Succeeds t) ∧ x = (ts.map next, reach hook ts a) := by
  induction ts generalizing a x with
  | nil => simp [steps, reach, eq_comm]
  | cons t ts ih =>
    obtain ⟨first, further⟩ := List.forall_mem_cons.1 succeeds
    rw [steps, List.forall_mem_cons, ← first a, List.map_cons, ← after t a start]
    cases (hook t a).failure with
    | some f => simp
    | none =>
      have others (y : List τ × α) := ih further (holds t a start) (x := y)
      cases later : steps hook ts (hook t a).reached with
      | error f =>
        have never : ¬ ∀ t ∈ ts, Succeeds t := by
          intro all
          have fine := (others _).2 ⟨all, rfl⟩
          rw [later] at fine
          cases fine
        simp [Except.map, never]
      | ok y =>
        obtain ⟨all, rfl⟩ := (others y).1 later
        simp only [Except.map, Except.ok.injEq, true_and]
        constructor
        · rintro rfl
          exact ⟨all, rfl⟩
        · rintro ⟨-, rfl⟩
          rfl

variable (hook Holds Succeeds next)

theorem run_iff (c : Chain τ) (a : α) (holds : ∀ t a, Holds a → Holds (hook t a).reached)
    (after : ∀ t a, Holds a → (hook t a).after = next t)
    (succeeds : ∀ t ∈ c.leaves, ∀ a, (hook t a).failure = none ↔ Succeeds t) (start : Holds a) :
    ((run hook c a).failure = none ↔ ∀ t ∈ c.leaves, Succeeds t) ∧
      ((run hook c a).failure = none →
        (run hook c a).after.leaves = c.leaves.map next ∧
          (run hook c a).reached = reach hook c.leaves a) := by
  have outcome (x : List τ × α) : (run hook c a).outcome leaves = .ok x ↔
      (∀ t ∈ c.leaves, Succeeds t) ∧ x = (c.leaves.map next, reach hook c.leaves a) := by
    rw [outcome_run, steps_eq_ok_iff holds after succeeds start]
  have whole (fine : (run hook c a).failure = none) :=
    (outcome ((run hook c a).after.leaves, (run hook c a).reached)).1
      (HookRun.outcome_eq_ok_iff.2 ⟨fine, rfl, rfl⟩)
  refine ⟨⟨fun fine => (whole fine).1, fun all => ?_⟩, fun fine => Prod.ext_iff.1 (whole fine).2⟩
  exact (HookRun.outcome_eq_ok_iff.1 ((outcome _).2 ⟨all, rfl⟩)).1

end

section

variable {hook : τ → α → HookRun τ ν α} {failing : τ → Option Failure}

theorem steps_failing {ts : List τ} (fails : ∀ t ∈ ts, ∀ a, (hook t a).failure = failing t)
    (a : α) :
    (∀ f, ts.findSome? failing = some f → steps hook ts a = .error f) ∧
      (ts.findSome? failing = none → ∃ us, steps hook ts a = .ok (us, reach hook ts a)) := by
  induction ts generalizing a with
  | nil => exact ⟨nofun, fun _ => ⟨[], rfl⟩⟩
  | cons t ts ih =>
    obtain ⟨first, further⟩ := List.forall_mem_cons.1 fails
    rw [steps, List.findSome?_cons, ← first a]
    cases (hook t a).failure with
    | some f => exact ⟨fun g same => congrArg Except.error (Option.some.inj same), nofun⟩
    | none =>
      obtain ⟨failed, fine⟩ := ih further (hook t a).reached
      refine ⟨fun f found => ?_, fun found => ?_⟩
      · simp only [failed f found]
        rfl
      · obtain ⟨us, all⟩ := fine found
        simp only [all]
        exact ⟨_, rfl⟩

theorem run_failing {c : Chain τ} (fails : ∀ t ∈ c.leaves, ∀ a, (hook t a).failure = failing t)
    (a : α) :
    (run hook c a).failure = c.leaves.findSome? failing ∧
      ((run hook c a).failure = none → (run hook c a).reached = reach hook c.leaves a) := by
  obtain ⟨failed, fine⟩ := steps_failing fails a
  rw [← outcome_run] at failed fine
  cases found : c.leaves.findSome? failing with
  | some f =>
    have stopped := HookRun.outcome_eq_error_iff.1 (failed f found)
    rw [stopped]
    exact ⟨rfl, nofun⟩
  | none =>
    obtain ⟨us, all⟩ := fine found
    obtain ⟨through, -, reached⟩ := HookRun.outcome_eq_ok_iff.1 all
    exact ⟨through, fun _ => reached⟩

end

section

variable (hook : τ → α → HookRun τ ν α) (Holds : α → Prop)

mutual

theorem holds_run : (c : Chain τ) →
    (∀ t ∈ c.leaves, ∀ a, Holds a → Holds (hook t a).reached) → (a : α) → Holds a →
      Holds (run hook c a).reached
  | .single t, keeps, a, start => keeps t (List.mem_singleton_self t) a start
  | .chain members, keeps, a, start => holds_runAll members keeps a start

theorem holds_runAll : (members : List (Chain τ)) →
    (∀ t ∈ leavesOf members, ∀ a, Holds a → Holds (hook t a).reached) → (a : α) → Holds a →
      Holds (runAll hook members a).reached
  | [], _, _, start => start
  | member :: rest, keeps, a, start => by
    rw [leavesOf, List.forall_mem_append] at keeps
    have first := holds_run member keeps.1 a start
    rw [runAll, join]
    cases (run hook member a).failure with
    | some f => exact first
    | none => exact holds_runAll rest keeps.2 _ first

end

end

end Chain

end TemplateCompiler
