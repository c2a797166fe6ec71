import Mathlib.Algebra.BigOperators.Fin
import TemplateCompiler.Ensemble
import TemplateCompiler.Proofs.Metrics.Counters

/-! The counters of passes are the sum of what the calls that have ended added to them. -/

namespace TemplateCompiler

namespace Metrics

theorem passCounter_ne_nil (succeeded : Bool) : passCounter succeeded ≠ [] := by
  cases succeeded <;> decide

theorem diagnosticCounter_ne_nil (fatal : Bool) : diagnosticCounter fatal ≠ [] := by
  cases fatal <;> decide

end Metrics

open Metrics (passCounter diagnosticCounter)

variable {σ : Type} {n r : Nat}

def single (counter : Text) (amount : Int) : Text → Int := fun name =>
  if name = counter then amount else 0

theorem single_zero (counter : Text) : single counter 0 = 0 := funext fun _ => ite_self 0

theorem single_add (counter : Text) (a b : Int) :
    single counter (a + b) = single counter a + single counter b := by
  funext name
  simp only [single, Pi.add_apply]
  split <;> rfl

namespace PassResult

/-- What a pass with the result adds to the counters besides that of passes and those of what was
found: the diagnostic of its failure. -/
def fatalAmount (result : PassResult) : Text → Int :=
  if result.isSuccess then 0 else single (diagnosticCounter true) 1

end PassResult

namespace Ended

def generator : Ended n → Fin n
  | raised i _ => i
  | returned i _ _ => i

def outcome : Ended n → Except Failure PassResult
  | raised _ cause => .error cause
  | returned _ _ result => .ok result

def found : Ended n → List Diagnostic
  | raised .. => []
  | returned _ found _ => found.getD []

/-- What the call added to the counters itself: nothing, if it raised its failure. -/
def amount : Ended n → Text → Int
  | raised .. => 0
  | returned _ found result =>
    single (diagnosticCounter false) (found.getD []).length + result.fatalAmount +
      single (passCounter result.isSuccess) 1

end Ended

/-- What the parser of a member reports in a call of it: nothing, if it is not asked or fails. -/
def Member.reported (m : Member σ n r) (call : Caller σ n r) (i : Fin n) (e : Ensemble σ n r) :
    List Diagnostic :=
  let a := (m.prepare m.generator.context).perform call (e.put i .idle)
  let parsed := a.2.toOption.bind fun context =>
    (m.parseSource call (Pass.unitNames m.generator.request.sourcePath context)
      (a.1.put i .parsing)).2.toOption
  (parsed.map Prod.snd).getD []

namespace Ensemble

def gap (e : Ensemble σ n r) (name : Text) : Int :=
  e.metrics.named.get name - (e.ended.map (·.amount name)).sum

def recorded (e : Ensemble σ n r) : Nat := ∑ j : Fin r, (e.recorders.get j).diagnostics.length

def surplus (e : Ensemble σ n r) : Int :=
  e.recorded - (e.metrics.named.get (diagnosticCounter true) +
    e.metrics.named.get (diagnosticCounter false))

/-- Every diagnostic is told to a recorder. -/
def Heard (crew : Fin n → Member σ n r) : Prop :=
  ∀ i d, ∃ j, (crew i).hear (.diagnostic d) = .recorded j

/-- From one state to a later one, the calls that ended and some more account for the counters, and
what was counted was recorded. -/
structure Follows (heard : Prop) (more : Text → Int) (e later : Ensemble σ n r) : Prop where
  ended : e.ended <+: later.ended
  requests : later.metrics.requests = e.metrics.requests
  counted : ∀ name, later.gap name = e.gap name + more name
  recorded : heard → later.surplus = e.surplus

namespace Follows

variable {heard : Prop} {a b : Text → Int} {e later last : Ensemble σ n r}

theorem refl (e : Ensemble σ n r) : Follows heard 0 e e where
  ended := List.prefix_rfl
  requests := rfl
  counted _ := (Int.add_zero _).symm
  recorded _ := rfl

theorem trans (first : Follows heard a e later) (second : Follows heard b later last) :
    Follows heard (a + b) e last where
  ended := first.ended.trans second.ended
  requests := second.requests.trans first.requests
  counted name := by rw [second.counted, first.counted, Pi.add_apply, Int.add_assoc]
  recorded given := (second.recorded given).trans (first.recorded given)

theorem follow (first : Follows heard a e later) (second : Follows heard 0 later last) :
    Follows heard a e last := by
  simpa using first.trans second

theorem after (second : Follows heard a later last) (first : Follows heard 0 e later) :
    Follows heard a e last := by
  simpa using first.trans second

theorem put (i : Fin n) (s : PassState) : Follows heard 0 e (e.put i s) := { refl e with }

theorem hold (held : σ) : Follows heard 0 e { e with held := held } := { refl e with }

theorem countPass (succeeded : Bool) :
    Follows heard (single (passCounter succeeded) 1) e (e.count (·.countPass succeeded)) where
  ended := List.prefix_rfl
  requests := e.metrics.addNamed_requests _ 1
  counted name := by
    have added := e.metrics.get_addNamed (Metrics.passCounter_ne_nil succeeded) 1 name
    simp only [gap, count, Metrics.countPass, added, single]
    omega
  recorded _ := by
    have apart (fatal : Bool) : diagnosticCounter fatal ≠ passCounter succeeded := by
      cases fatal <;> cases succeeded <;> decide
    have same (fatal : Bool) : (e.count (·.countPass succeeded)).metrics.named.get
        (diagnosticCounter fatal) = e.metrics.named.get (diagnosticCounter fatal) := by
      have added := e.metrics.get_addNamed (Metrics.passCounter_ne_nil succeeded) 1
        (diagnosticCounter fatal)
      rw [if_neg (apart fatal), Int.add_zero] at added
      exact added
    rw [surplus, same, same]
    rfl

theorem close (c : Ended n) : Follows heard (-c.amount) e (e.close c) where
  ended := List.prefix_append _ _
  requests := rfl
  counted name := by
    simp only [gap, Ensemble.close, List.map_append, List.sum_append, List.map_singleton,
      List.sum_singleton, Pi.neg_apply]
    omega
  recorded _ := rfl

end Follows

theorem get_record (e : Ensemble σ n r) (j k : Fin r) (note : Notification) :
    (e.record j note).recorders.get k =
      if j = k then (e.recorders.get j).note note else e.recorders.get k := by
  change (e.recorders.set j ((e.recorders.get j).note note) j.isLt)[k.val] = _
  rw [Vector.getElem_set]
  simp only [Fin.ext_iff]
  rfl

theorem recorded_record (e : Ensemble σ n r) (j : Fin r) (note : Notification) :
    (e.record j note).recorded = e.recorded +
      match note with
      | .diagnostic _ => 1
      | .progress .. => 0 := by
  have each (k : Fin r) : ((e.record j note).recorders.get k).diagnostics.length =
      (e.recorders.get k).diagnostics.length + if j = k then
        match note with
        | .diagnostic _ => 1
        | .progress .. => 0
      else 0 := by
    rw [get_record]
    split
    · next same =>
      subst same
      cases note <;> simp [Recorder.note]
    · rfl
  simp only [recorded, each, Finset.sum_add_distrib, Finset.sum_ite_eq, Finset.mem_univ, if_true]

end Ensemble

open Ensemble

section Steps

variable {heard : Prop} {call : Caller σ n r}
  (calls : ∀ i e, Follows heard 0 e (call i e).1)

include calls

theorem Routine.perform_follows {ε α : Type} (routine : Routine σ n r ε α)
    (e : Ensemble σ n r) : Follows heard 0 e (routine.perform call e).1 := by
  induction routine generalizing e with
  | finish outcome => exact .refl e
  | change hold next ih => exact (ih e _).after (.hold _)
  | call i next ih => exact (ih _ _).after (calls i e)

namespace Member

variable (m : Member σ n r)

theorem tell_progress_follows (completed total : Nat) (e : Ensemble σ n r) :
    Follows heard 0 e (m.tell call (.progress completed total) e) := by
  unfold tell
  split
  · next j _ =>
    have nothing : (e.record j (.progress completed total)).surplus = e.surplus := by
      rw [surplus, recorded_record]
      rfl
    exact { (Follows.refl e : Follows heard 0 e e) with recorded := fun _ => nothing }
  · exact Routine.perform_follows calls _ e

theorem announce_follows (hears : heard → ∀ d, ∃ j, m.hear (.diagnostic d) = .recorded j)
    (d : Diagnostic) (fatal : Bool) (e : Ensemble σ n r) :
    Follows heard (single (diagnosticCounter fatal) 1) e (m.announce call d fatal e) := by
  have added (name : Text) :=
    e.metrics.get_addNamed (Metrics.diagnosticCounter_ne_nil fatal) 1 name
  have requests := e.metrics.addNamed_requests (diagnosticCounter fatal) 1
  have counted (name : Text) : (e.count (·.countDiagnostic fatal)).gap name =
      e.gap name + single (diagnosticCounter fatal) 1 name := by
    simp only [gap, count, Metrics.countDiagnostic, added, single]
    omega
  unfold announce tell
  split
  · next j _ =>
    refine ⟨List.prefix_rfl, requests, counted, fun _ => ?_⟩
    have apart : diagnosticCounter true ≠ diagnosticCounter false := by decide
    rw [surplus, recorded_record]
    simp only [surplus, record, count, Metrics.countDiagnostic, added, recorded]
    cases fatal <;> simp [apart, apart.symm] <;> omega
  · next reply unheard =>
    have first : Follows heard (single (diagnosticCounter fatal) 1) e
        (e.count (·.countDiagnostic fatal)) := by
      refine ⟨List.prefix_rfl, requests, counted, fun given => ?_⟩
      obtain ⟨j, recorded⟩ := hears given d
      cases recorded.symm.trans unheard
    exact first.follow (Routine.perform_follows calls reply _)

variable (hears : heard → ∀ d, ∃ j, m.hear (.diagnostic d) = .recorded j)

include hears

theorem announceAll_follows (ds : List Diagnostic) (e : Ensemble σ n r) :
    Follows heard (single (diagnosticCounter false) ds.length) e (m.announceAll call ds e) := by
  induction ds generalizing e with
  | nil => exact single_zero (diagnosticCounter false) ▸ .refl e
  | cons d ds ih =>
    have length : ((d :: ds).length : Int) = 1 + ds.length := by
      rw [List.length_cons, Int.natCast_succ, Int.add_comm]
    rw [length, single_add]
    exact (m.announce_follows calls hears d false e).trans (ih _)

variable (i : Fin n)

theorem fail_follows (stage : Stage) (cause : Failure) (e : Ensemble σ n r) :
    Follows heard (m.fail call i stage cause e).2.fatalAmount e
      (m.fail call i stage cause e).1 :=
  (m.announce_follows calls hears _ true _).after (.put i stage.failedState)

theorem finish_follows (code : Text) (e : Ensemble σ n r) :
    Follows heard (m.finish call i code e).2.fatalAmount e (m.finish call i code e).1 := by
  have customized := Routine.perform_follows calls (m.mutateText code) e
  unfold finish
  dsimp only
  split
  · exact (m.fail_follows calls hears i _ _ _).after customized
  · exact (Follows.put i .outputReady).after customized

theorem renderUnit_follows (u : CompileUnit) (e : Ensemble σ n r) :
    Follows heard (m.renderUnit call i u e).2.fatalAmount e (m.renderUnit call i u e).1 := by
  have started : Follows heard 0 e (e.put i .mutating) := .put i .mutating
  have customized := (Routine.perform_follows calls (m.mutateModel u) _).after started
  unfold renderUnit
  dsimp only
  split
  · exact (m.fail_follows calls hears i _ _ _).after customized
  · next u' _ =>
    have rendered := (Routine.perform_follows calls (m.render u') _).after
      ((Follows.put i .rendering).after customized)
    split
    · exact (m.fail_follows calls hears i _ _ _).after rendered
    · exact (m.finish_follows calls hears i _ _).after
        ((m.tell_progress_follows calls 100 100 _).after rendered)

omit hears in
theorem parseSource_follows (names : UnitNames) (e : Ensemble σ n r) :
    Follows heard 0 e (m.parseSource call names e).1 := by
  have read := Routine.perform_follows calls m.read e
  unfold parseSource
  dsimp only
  split
  · exact read
  · exact (Routine.perform_follows calls _ _).after read

theorem produce_follows (names : UnitNames) (e : Ensemble σ n r) :
    Follows heard (single (diagnosticCounter false)
        ((m.produce call i names e).2.1.getD []).length +
      (m.produce call i names e).2.2.fatalAmount) e (m.produce call i names e).1 := by
  have started : Follows heard 0 e (e.put i .parsing) := .put i .parsing
  have parsed := (m.parseSource_follows calls names _).after started
  unfold produce
  dsimp only
  split
  · next f _ =>
    have failed := (m.fail_follows calls hears i .parse f _).after parsed
    rw [Option.getD_none, List.length_nil, Int.natCast_zero, single_zero, zero_add]
    exact failed
  · next u found _ =>
    have told := ((m.announceAll_follows calls hears found _).follow
      (m.tell_progress_follows calls 50 100 _)).after ((Follows.put i .parsed).after parsed)
    exact told.trans (m.renderUnit_follows calls hears i u _)

omit calls hears in
theorem produce_found (names : UnitNames) (e : Ensemble σ n r) :
    (m.produce call i names e).2.1 =
      (m.parseSource call names (e.put i .parsing)).2.toOption.map Prod.snd := by
  unfold produce
  dsimp only
  split
  · next failed => rw [failed]; rfl
  · next parsed => rw [parsed]; rfl

theorem pass_ends (e : Ensemble σ n r) :
    ∃ later c, m.pass call i e = (later.close c, c.outcome) ∧ c.generator = i ∧
      c.found = m.reported call i e ∧ Follows heard c.amount e later := by
  have started : Follows heard 0 e (e.put i .idle) := .put i .idle
  have prepared := (Routine.perform_follows calls (m.prepare m.generator.context) _).after started
  unfold pass reported
  dsimp only
  split
  · next f failed => exact ⟨_, .raised i f, rfl, rfl, by rw [failed]; rfl, prepared⟩
  · next context ready =>
    have found := @Member.produce_found _ _ _ call m i
      (Pass.unitNames m.generator.request.sourcePath context)
      ((m.prepare m.generator.context).perform call (e.put i .idle)).1
    have produced := (m.produce_follows calls hears i
      (Pass.unitNames m.generator.request.sourcePath context) _).after prepared
    rw [ready]
    generalize m.produce call i _ _ = produce at produced found ⊢
    obtain ⟨later, _, result⟩ := produce
    cases found
    exact ⟨_, .returned i _ result, rfl, rfl, rfl, produced.trans (.countPass result.isSuccess)⟩

end Member

end Steps

namespace Ensemble

variable (crew : Fin n → Member σ n r)

theorem enter_of_not_mem {busy : List (Fin n)} {i : Fin n} (idle : i ∉ busy) :
    Pass.enter (busy.contains i) = .ok () := by
  have free : busy.contains i = false := by simpa using idle
  rw [free]
  rfl

theorem generate_raised {busy : List (Fin n)} {i : Fin n} (running : i ∈ busy)
    (e : Ensemble σ n r) :
    generate crew busy i e =
      (e.close (.raised i .notReentrant), .error .notReentrant) := by
  have refused : Pass.enter (busy.contains i) = .error .notReentrant := by
    rw [List.contains_iff_mem.2 running]
    rfl
  rw [generate]
  split
  · next failed =>
    cases refused.symm.trans failed
    rfl
  · next entered => cases refused.symm.trans entered

theorem generate_entered {busy : List (Fin n)} {i : Fin n} (idle : i ∉ busy)
    (e : Ensemble σ n r) :
    generate crew busy i e = (crew i).pass (generate crew (i :: busy)) i e := by
  rw [generate]
  split
  · next failed => cases (enter_of_not_mem idle).symm.trans failed
  · rfl

theorem generate_follows (busy : List (Fin n)) (i : Fin n) (e : Ensemble σ n r) :
    Follows (Heard crew) 0 e (generate crew busy i e).1 := by
  -- On the number of generators that can still be called: in a call there is one fewer.
  induction left : (idle busy).length using Nat.strong_induction_on generalizing busy i e with
  | h left ih =>
    subst left
    by_cases running : i ∈ busy
    · rw [generate_raised crew running]
      have closed : Follows (Heard crew) _ e _ := .close (.raised i .notReentrant)
      simpa [Ended.amount] using closed
    · have fewer : (Ensemble.idle (i :: busy)).length < (Ensemble.idle busy).length :=
        idle_cons (enter_of_not_mem running)
      obtain ⟨later, c, passed, -, -, follows⟩ := (crew i).pass_ends
        (fun j e => ih _ fewer (i :: busy) j e rfl) (fun heard d => heard i d) i e
      have closed := follows.trans (.close c)
      rwa [generate_entered crew running, passed, ← add_neg_cancel c.amount]

end Ensemble

end TemplateCompiler
