import TemplateCompiler.Proofs.Ensemble.Balance

/-! What the counters of passes say, whatever collaborators do while passes are under way: how many
calls had results, how many of these were failures, and how many diagnostics there were. -/

namespace TemplateCompiler

open Metrics (passCounter diagnosticCounter)

variable {σ : Type} {n r : Nat}

namespace Ended

def hasResult : Ended n → Bool
  | raised .. => false
  | returned .. => true

theorem amount_of_raised {c : Ended n} {f : Failure} (raised : c.outcome = .error f) :
    c.amount = 0 := by
  cases c with
  | raised => rfl
  | returned => cases raised

theorem amount_passes (c : Ended n) :
    c.amount (passCounter true) + c.amount (passCounter false) =
      if c.hasResult then 1 else 0 := by
  cases c with
  | raised => rfl
  | returned i found result =>
    cases result <;> simp [amount, single, PassResult.fatalAmount, PassResult.isSuccess, hasResult,
      passCounter, diagnosticCounter]

theorem amount_failure (c : Ended n) :
    c.amount (passCounter false) = c.amount (diagnosticCounter true) := by
  cases c with
  | raised => rfl
  | returned i found result =>
    cases result <;> simp [amount, single, PassResult.fatalAmount, PassResult.isSuccess,
      passCounter, diagnosticCounter]

theorem amount_found (c : Ended n) : c.amount (diagnosticCounter false) = c.found.length := by
  cases c with
  | raised => rfl
  | returned i found result =>
    cases result <;> simp [amount, single, PassResult.fatalAmount, PassResult.isSuccess,
      passCounter, diagnosticCounter, Ended.found]

end Ended

/-- What the calls added to a counter together. -/
def total (calls : List (Ended n)) (name : Text) : Int := (calls.map (·.amount name)).sum

theorem total_nil (name : Text) : total ([] : List (Ended n)) name = 0 := rfl

theorem total_cons (c : Ended n) (calls : List (Ended n)) (name : Text) :
    total (c :: calls) name = c.amount name + total calls name := rfl

theorem total_append (calls more : List (Ended n)) (name : Text) :
    total (calls ++ more) name = total calls name + total more name := by
  simp [total]

theorem total_passes (calls : List (Ended n)) :
    total calls (passCounter true) + total calls (passCounter false) =
      calls.countP (·.hasResult) := by
  induction calls with
  | nil => rfl
  | cons c calls ih =>
    have first := c.amount_passes
    rw [total_cons, total_cons, List.countP_cons]
    split at first <;> simp_all <;> omega

theorem total_failure (calls : List (Ended n)) :
    total calls (passCounter false) = total calls (diagnosticCounter true) := by
  simp only [total, Ended.amount_failure]

theorem total_found (calls : List (Ended n)) :
    total calls (diagnosticCounter false) = (calls.map (·.found.length)).sum := by
  induction calls with
  | nil => rfl
  | cons c calls ih =>
    rw [total_cons, ih, c.amount_found, List.map_cons, List.sum_cons, Nat.cast_add]

namespace Ensemble

theorem Follows.accounts {heard : Prop} {e later : Ensemble σ n r}
    (follows : Follows heard 0 e later) {calls : List (Ended n)}
    (ended : later.ended = e.ended ++ calls) (name : Text) :
    later.metrics.named.get name = e.metrics.named.get name + total calls name := by
  have counted := follows.counted name
  simp only [gap, ended, List.map_append, List.sum_append, Pi.zero_apply] at counted
  rw [total]
  omega

theorem surplus_reset (e : Ensemble σ n r) : e.reset.surplus = 0 := by
  have silent (j : Fin r) : (e.reset.recorders.get j).diagnostics = [] :=
    congrArg Recorder.diagnostics (Vector.getElem_replicate j.isLt)
  simp only [surplus, recorded, silent]
  simp [reset, Metrics.zero, Counters.get]

variable (crew : Fin n → Member σ n r)

theorem generate_ended (busy : List (Fin n)) (i : Fin n) (e : Ensemble σ n r) :
    ∃ during c, (generate crew busy i e).1.ended = e.ended ++ during ++ [c] ∧
      c.generator = i ∧ c.outcome = (generate crew busy i e).2 ∧
      c.found = (if i ∈ busy then [] else (crew i).reported (generate crew (i :: busy)) i e) ∧
      (i ∈ busy → during = []) := by
  by_cases running : i ∈ busy
  · rw [generate_raised crew running]
    exact ⟨[], .raised i .notReentrant, by simp [close], rfl, rfl, (if_pos running).symm,
      fun _ => rfl⟩
  · obtain ⟨later, c, passed, same, found, follows⟩ := (crew i).pass_ends
      (generate_follows crew (i :: busy)) (fun heard d => heard i d) i e
    obtain ⟨during, split⟩ := follows.ended
    rw [generate_entered crew running, passed]
    exact ⟨during, c, by simp [close, split], same, rfl, by rw [found, if_neg running],
      fun inside => absurd inside running⟩

/-- Two generators for one page, whose code is not closed, with one recorder. When the first has its
model customized, the second is called, and then the first again. -/
def meddling (i : Fin 2) : Member Unit 2 1 :=
  let g : Generator :=
    ⟨⟨"a.cshtml".toList, "a.cshtml".toList, none, []⟩, .default, .csharp, .inline "@\x7b".toList⟩
  let k := g.collaborators .empty
  { generator := g
    prepare context := .finish (.ok context)
    read := .finish k.read
    parse names text := .finish (k.parse names text)
    mutateModel u :=
      if i = 0 then .call 1 fun _ => .call 0 fun again => .finish (again.map fun _ => u)
      else .finish (.ok u)
    render u := .finish (k.render u)
    mutateText code := .finish (.ok code)
    hear _ := .recorded (Fin.last 0) }

end Ensemble

end TemplateCompiler
