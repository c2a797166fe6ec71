import TemplateCompiler.Http.Service
import TemplateCompiler.Proofs.Metrics.Counters

/-! Which responses carry the identifier of their request, and which requests are counted: both are
done where a response comes back from the endpoints, so neither is done for a request that failed
there and is answered by a report of the failure. -/

namespace TemplateCompiler

@[simp] theorem Metrics.countFound_requests (m : Metrics) (found : Nat) :
    (m.countFound found).requests = m.requests := by
  induction found generalizing m with
  | zero => rfl
  | succ found ih => rw [countFound, ih, countDiagnostic, addNamed_requests]

@[simp] theorem Pass.count_requests {τ ν : Type} (m : Metrics) (r : PassRun τ ν) :
    (Pass.count m r).requests = m.requests := by
  unfold count
  split <;> simp [Metrics.countPass, Metrics.countDiagnostic]

namespace Workspace

@[simp] theorem registryOf_metrics (w : Workspace) (file : Option Text) :
    (w.registryOf file).workspace.metrics = w.metrics := by
  unfold registryOf
  repeat' split
  all_goals rfl

theorem run_requests (w : Workspace) (request : Request) (profile : Text)
    (inline : Option Text) :
    (w.run request profile inline).workspace.metrics.requests = w.metrics.requests := by
  simp only [run]
  split
  · rw [registryOf_metrics]
  · rw [Pass.count_requests, registryOf_metrics]

end Workspace

namespace Http

theorem generate_requests (w : Workspace) (body : Text) :
    (generate w body).workspace.metrics.requests = w.metrics.requests := by
  unfold generate
  split
  · rfl
  · rfl
  · exact Workspace.run_requests ..

theorem dispatch_requests (w : Workspace) (r : Request) :
    (dispatch w r).workspace.metrics.requests = w.metrics.requests := by
  unfold dispatch
  split
  · next e _ =>
    cases e with
    | generate => exact generate_requests w r.body
    | profiles | profile => exact congrArg _ (w.registryOf_metrics _)
    | live => exact w.metrics.addNamed_requests _ _
    | _ => rfl
  · rfl
  · rfl

/-- The counters that a request is counted under when it is answered with a status. -/
def Request.counters (r : Request) (status : Nat) : List Text :=
  Metrics.requestCounters r.method (countedPath r.path) (Text.ofNat status)

theorem serve_append (w : Workspace) (requests more : List (Text × Request)) :
    serve w (requests ++ more) =
      ((serve (serve w requests).1 more).1,
        (serve w requests).2 ++ (serve (serve w requests).1 more).2) := by
  induction requests generalizing w with
  | nil => rfl
  | cons first requests ih => simp only [List.cons_append, serve, ih]

section Handle

variable (w : Workspace) (fresh : Text) (r : Request)

theorem handle_answered {status : Nat} {body : Value}
    (answered : sendable (dispatch w r).outcome = .ok (status, body)) :
    (handle w fresh r).outcome =
        .ok ⟨status, shown r.method body, some (r.idOr fresh), r.destination.location?⟩ ∧
      ∀ name, (handle w fresh r).workspace.metrics.requests.get name =
        w.metrics.requests.get name + if name ∈ r.counters status then 1 else 0 := by
  simp only [handle, answered, true_and]
  intro name
  have distinct := Metrics.requestCounters_nodup r.method (countedPath r.path) (Text.ofNat status)
  rw [Metrics.countAnswer_requests, Counters.get_raise, dispatch_requests, distinct.count,
    Request.counters, Nat.cast_ite, Nat.cast_one, Nat.cast_zero]

theorem handle_failed {f : Failure} (failed : sendable (dispatch w r).outcome = .error f) :
    (handle w fresh r).outcome = failureResponse (r.idOr fresh) f ∧
      (handle w fresh r).workspace.metrics.requests = w.metrics.requests := by
  simp only [handle, failed, true_and]
  exact dispatch_requests w r

end Handle

theorem failureResponse_unmarked {id : Text} {f : Failure} {response : Response}
    (sent : failureResponse id f = .ok response) :
    response.id = none ∧ response.status = if f.isConfiguration then 400 else 500 := by
  unfold failureResponse at sent
  split at sent
  · next configuration =>
    cases checked : Failure.checkEncodable .loneSurrogate (fun _ => false)
        (detailStart f.message) with
    | error => simp [checked, Except.map] at sent
    | ok =>
      rw [checked] at sent
      cases sent
      exact ⟨rfl, (if_pos configuration).symm⟩
  · next other =>
    cases sent
    exact ⟨rfl, (if_neg other).symm⟩

/-- After any requests, the next one is answered by its endpoint, or fails there. If it is
answered, with whatever status, the response carries the identifier of the request or the fresh
one, and the request is counted once under each of three different counters and no other. If it
fails, the response that reports it has status 400 or 500 and no identifier, and no counter of
requests changes. -/
theorem serve_accounts (w : Workspace) (earlier : List (Text × Request)) (fresh : Text)
    (r : Request) :
    let before := (serve w earlier).1
    let after := serve w (earlier ++ [(fresh, r)])
    ∃ outcome, after.2 = (serve w earlier).2 ++ [outcome] ∧
      (∀ status body, sendable (dispatch before r).outcome = .ok (status, body) →
        (∃ response, outcome = .ok response ∧ response.status = status ∧
          response.id = some (if r.id = [] then fresh else r.id)) ∧
        (r.counters status).Nodup ∧
        ∀ name, after.1.metrics.requests.get name =
          before.metrics.requests.get name + if name ∈ r.counters status then 1 else 0) ∧
      ∀ f, sendable (dispatch before r).outcome = .error f →
        (∀ response, outcome = .ok response →
          response.id = none ∧ response.status = if f.isConfiguration then 400 else 500) ∧
        after.1.metrics.requests = before.metrics.requests := by
  intro before after
  have grown : after = ((handle before fresh r).workspace,
      (serve w earlier).2 ++ [(handle before fresh r).outcome]) := serve_append w earlier _
  have given : r.idOr fresh = if r.id = [] then fresh else r.id := by
    simp only [Request.idOr, List.isEmpty_iff]
  refine ⟨(handle before fresh r).outcome, congrArg Prod.snd grown, ?_, ?_⟩
  · intro status body answered
    obtain ⟨sent, counted⟩ := handle_answered before fresh r answered
    refine ⟨⟨_, sent, rfl, congrArg some given⟩, Metrics.requestCounters_nodup _ _ _, ?_⟩
    intro name
    rw [grown]
    exact counted name
  · intro f failed
    obtain ⟨sent, uncounted⟩ := handle_failed before fresh r failed
    refine ⟨fun response reported => failureResponse_unmarked (sent.symm.trans reported), ?_⟩
    rw [grown]
    exact uncounted

def askLive : Request := ⟨"GET".toList, "/api/v1/health/live".toList, [], []⟩

def askMissing : Request :=
  ⟨"POST".toList, "/api/v1/generate".toList,
    "\x7b\"template\":\"x\",\"project_relative_path\":\"a\",\"profile\":\"missing\"\x7d".toList,
    "rid-7".toList⟩

theorem askLive_answered : ∃ body,
    sendable (dispatch (serve .empty [([], askMissing)]).1 askLive).outcome = .ok (200, body) := by
  have status : ((sendable (dispatch (serve .empty [([], askMissing)]).1 askLive).outcome).map
      Prod.fst).toOption = some 200 := by decide +kernel
  cases sent : sendable (dispatch (serve .empty [([], askMissing)]).1 askLive).outcome with
  | error f =>
    rw [sent] at status
    cases status
  | ok answer =>
    rw [sent] at status
    exact ⟨answer.2, congrArg Except.ok (Prod.ext (Option.some.inj status) rfl)⟩

/-- The failed request before it leaves no trace in the counters. -/
theorem serve_accounts_afterFailure :
    let before := (serve .empty [([], askMissing)]).1
    let after := serve .empty ([([], askMissing)] ++ [("fresh".toList, askLive)])
    (∃ body, sendable (dispatch before askLive).outcome = .ok (200, body)) ∧
    ∃ outcome, after.2 = (serve .empty [([], askMissing)]).2 ++ [outcome] ∧
      (∃ response, outcome = .ok response ∧ response.status = 200 ∧
        response.id = some "fresh".toList) ∧
      after.1.metrics.requests.get Metrics.requestsTotal =
        before.metrics.requests.get Metrics.requestsTotal + 1 := by
  intro before after
  obtain ⟨body, answered⟩ := askLive_answered
  obtain ⟨outcome, grown, marked, -⟩ :=
    serve_accounts .empty [([], askMissing)] "fresh".toList askLive
  obtain ⟨response, -, counted⟩ := marked 200 _ answered
  exact ⟨⟨body, answered⟩, outcome, grown, response, counted Metrics.requestsTotal⟩

/-- The response to a request for an unknown profile carries no identifier though the request came
with one, and the request is not counted. -/
theorem serve_missing_unmarked :
    askMissing.id = "rid-7".toList ∧
    (∃ response, (serve .empty [([], askMissing)]).2 = [.ok response] ∧
      response.status = 400 ∧ response.id = none) ∧
    (serve .empty [([], askMissing)]).1.metrics.requests = [] := by
  have uncounted : (serve .empty [([], askMissing)]).1.metrics.requests = [] := by decide +kernel
  have unmarked : (handle .empty [] askMissing).outcome.toOption.map
      (fun response => (response.status, response.id)) = some (400, none) := by decide +kernel
  refine ⟨rfl, ?_, uncounted⟩
  cases sent : (handle .empty [] askMissing).outcome with
  | error f =>
    rw [sent] at unmarked
    cases unmarked
  | ok response =>
    rw [sent] at unmarked
    obtain ⟨status, id⟩ := Prod.mk.inj (Option.some.inj unmarked)
    exact ⟨response, congrArg (fun outcome => [outcome]) sent, status, id⟩

end Http

end TemplateCompiler
