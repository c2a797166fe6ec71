import Mathlib.Tactic.Simps.Basic
import TemplateCompiler.Proofs.Ensemble.Balance
import TemplateCompiler.Proofs.Session.Basic

/-! Where no collaborator asks for passes, generators that share an ensemble run the passes of a
session. -/

namespace TemplateCompiler

variable {τ ν : Type} {m r n : Nat}

namespace HookRun

def answer {α : Type} (r : HookRun τ ν α) : Except Failure α :=
  match r.failure with
  | some f => .error f
  | none => .ok r.reached

end HookRun

def Routine.hook {α : Type} (a : Fin m) (run : τ → HookRun τ ν α) :
    Routine (Vector τ m × List ν) n r Failure α :=
  .change
    (fun e => (e.held.1.set a (run (e.held.1.get a)).after a.isLt,
      e.held.2 ++ (run (e.held.1.get a)).notes))
    fun e => .finish (run (e.held.1.get a)).answer

def Routine.inTurn {σ : Type} (is : List (Fin n)) : Routine σ n r Failure Unit :=
  is.foldr (fun i rest => .call i fun _ => rest) (.finish (.ok ()))

@[simps]
def Station.member (h : Hooks τ ν) (x : Station m r) (k : Collaborators) :
    Member (Vector τ m × List ν) n r where
  generator := x.generator
  prepare context := .hook x.customization (h.prepare · context)
  read := .finish k.read
  parse names t := .finish (k.parse names t)
  mutateModel u := .hook x.customization (h.mutateModel · u)
  render u := .finish (k.render u)
  mutateText code := .hook x.customization (h.mutateText · code)
  hear _ := x.recorder.elim .none .recorded

namespace Session

def crew (h : Hooks τ ν) (s : Session τ m r n) (k : Fin n → Collaborators) :
    Fin n → Member (Vector τ m × List ν) n r :=
  fun i => (s.station i).member h (k i)

def ensemble (s : Session τ m r n) (notes : List ν) (ended : List (Ended n)) :
    Ensemble (Vector τ m × List ν) n r :=
  ⟨s.workspace.metrics, s.recorders, s.stations.map (·.state), (s.customizations, notes), ended⟩

end Session

theorem Session.reported_append (rs : Vector Recorder r) (hearer : Option (Fin r))
    (ns : List Notification) (note : Notification) :
    reported rs hearer (ns ++ [note]) =
      match hearer with
      | some j => (reported rs hearer ns).set j (((reported rs hearer ns).get j).note note) j.isLt
      | none => rs := by
  cases hearer with
  | none => rfl
  | some j =>
    have before : (reported rs (some j) ns).get j = rs[j].noteAll ns :=
      Vector.getElem_set_self j.isLt
    simp only [before]
    simp [reported, Recorder.noteAll]

theorem Session.reported_nil (rs : Vector Recorder r) (hearer : Option (Fin r)) :
    reported rs hearer [] = rs := by
  cases hearer with
  | none => rfl
  | some j => exact Vector.set_getElem_self j.isLt

namespace Ensemble

def amid (e : Ensemble (Vector τ m × List ν) n r) (x : Station m r) (i : Fin n)
    (counted : Metrics) (t : τ) (state : PassState) (ns : List Notification) (notes : List ν) :
    Ensemble (Vector τ m × List ν) n r where
  metrics := counted
  recorders := Session.reported e.recorders x.recorder ns
  states := e.states.set i state i.isLt
  held := (e.held.1.set x.customization t x.customization.isLt, e.held.2 ++ notes)
  ended := e.ended

variable {e : Ensemble (Vector τ m × List ν) n r} {x : Station m r} {i : Fin n}
  {counted : Metrics} {t : τ} {state : PassState} {ns : List Notification} {notes : List ν}

theorem put_eq_amid : e.put i state =
    e.amid x i e.metrics (e.held.1.get x.customization) state [] [] := by
  have held : e.held.1.set x.customization (e.held.1.get x.customization)
      x.customization.isLt = e.held.1 := Vector.set_getElem_self x.customization.isLt
  simp [put, amid, Session.reported_nil, held]

@[simp] theorem amid_put (next : PassState) :
    (e.amid x i counted t state ns notes).put i next = e.amid x i counted t next ns notes := by
  simp [put, amid]

@[simp] theorem amid_count (f : Metrics → Metrics) :
    (e.amid x i counted t state ns notes).count f = e.amid x i (f counted) t state ns notes :=
  rfl

variable {call : Caller (Vector τ m × List ν) n r}

theorem perform_hook {α : Type} (run : τ → HookRun τ ν α) :
    (Routine.hook x.customization run).perform call (e.amid x i counted t state ns notes) =
      (e.amid x i counted (run t).after state ns (notes ++ (run t).notes), (run t).answer) := by
  have held : (e.held.1.set x.customization t x.customization.isLt).get x.customization = t :=
    Vector.getElem_set_self x.customization.isLt
  simp [Routine.hook, Routine.perform, amid, held]

end Ensemble

namespace Station

open Ensemble

variable {h : Hooks τ ν} {k : Collaborators} {e : Ensemble (Vector τ m × List ν) n r}
  {x : Station m r} {i : Fin n} {counted : Metrics} {t : τ} {state : PassState}
  {ns : List Notification} {notes : List ν} {call : Caller (Vector τ m × List ν) n r}

@[simp] theorem member_tell (note : Notification) :
    (x.member h k).tell call note (e.amid x i counted t state ns notes) =
      e.amid x i counted t state (ns ++ [note]) notes := by
  unfold Member.tell amid
  rw [Session.reported_append]
  cases hearer : x.recorder with
  | none => simp [member, hearer, Hearing.none, Routine.perform, Session.reported]
  | some j => simp [member, hearer, record]

theorem member_announceAll (ds : List Diagnostic) :
    (x.member h k).announceAll call ds (e.amid x i counted t state ns notes) =
      e.amid x i (counted.countFound ds.length) t state (ns ++ ds.map .diagnostic) notes := by
  induction ds generalizing counted ns with
  | nil => simp [Member.announceAll, Metrics.countFound]
  | cons d ds ih =>
    have first : (x.member h k).announce call d false (e.amid x i counted t state ns notes) =
        e.amid x i (counted.countDiagnostic false) t state (ns ++ [.diagnostic d]) notes := by
      simp [Member.announce]
    have rest : (x.member h k).announceAll call ds
        (e.amid x i (counted.countDiagnostic false) t state (ns ++ [.diagnostic d]) notes) = _ := ih
    rw [← first, List.append_assoc] at rest
    exact rest

/-- A pass with a result got where the pass `p` of a session ends, but was not counted. -/
structure Reaches (e : Ensemble (Vector τ m × List ν) n r) (x : Station m r) (i : Fin n)
    (p : PassRun τ ν) (out : Ensemble (Vector τ m × List ν) n r × PassResult) : Prop where
  result : p.result = .ok out.2
  ensemble : out.1.count (·.countPass out.2.isSuccess) =
    e.amid x i (Pass.count e.metrics p) p.after p.state p.notifications p.notes

def sofar (e : Ensemble (Vector τ m × List ν) n r) (ns : List Notification) : Metrics :=
  e.metrics.countFound (Notification.diagnostics ns).length

theorem fail_reaches (stage : Stage) (cause : Failure) :
    Reaches e x i (Pass.fail t stage cause ns notes)
      ((x.member h k).fail call i stage cause (e.amid x i (sofar e ns) t state ns notes)) where
  result := rfl
  ensemble := by
    have found : (Notification.diagnostics (ns ++ [.fatal cause])).dropLast =
        Notification.diagnostics ns := by
      simp [Notification.diagnostics, Notification.fatal]
    simp only [Member.fail, Member.announce, amid_put, amid_count, member_tell, Pass.fail,
      Pass.count, found, PassResult.isSuccess, sofar]
    rfl

theorem finish_reaches (code : Text) :
    Reaches e x i (Pass.finish h t code ns notes)
      ((x.member h k).finish call i code (e.amid x i (sofar e ns) t state ns notes)) := by
  simp only [Member.finish, member_mutateText, perform_hook, HookRun.answer, Pass.finish]
  cases (h.mutateText t code).failure with
  | some f => exact fail_reaches .render f
  | none => exact ⟨rfl, by simp only [amid_put, amid_count]; rfl⟩

theorem sofar_progress (completed total : Nat) :
    sofar e (ns ++ [.progress completed total]) = sofar e ns := by
  simp [sofar, Notification.diagnostics]

theorem renderUnit_reaches (u : CompileUnit) :
    Reaches e x i (Pass.renderUnit h k x.generator.language t u ns notes)
      ((x.member h k).renderUnit call i u (e.amid x i (sofar e ns) t state ns notes)) := by
  simp only [Member.renderUnit, member_mutateModel, member_render, amid_put, perform_hook,
    HookRun.answer, Pass.renderUnit]
  cases (h.mutateModel t u).failure with
  | some f => exact fail_reaches .render f
  | none =>
    simp only [Routine.perform]
    cases k.render (h.mutateModel t u).reached with
    | error f => exact fail_reaches .render f
    | ok code =>
      simp only [member_tell]
      rw [← sofar_progress 100 100]
      exact finish_reaches _

theorem sofar_midpoint (found : List Diagnostic) :
    sofar e (found.map .diagnostic ++ [.midpoint]) = e.metrics.countFound found.length := by
  simp [sofar, Notification.midpoint, Notification.diagnostics, List.filterMap_map]

theorem produce_reaches (call : Caller (Vector τ m × List ν) n r) (i : Fin n) (state : PassState)
    {names : UnitNames} {p : PassRun τ ν}
    (prepared : p = match Pass.parseSource k names with
      | .error f => Pass.fail t .parse f [] notes
      | .ok (u, found) =>
        Pass.renderUnit h k x.generator.language t u (found.map .diagnostic ++ [.midpoint])
          notes) :
    Reaches e x i p
      (let produced := (x.member h k).produce call i names
        (e.amid x i e.metrics t state [] notes)
      (produced.1, produced.2.2)) := by
  have parsed : (x.member h k).parseSource call names (e.amid x i e.metrics t .parsing [] notes) =
      (e.amid x i e.metrics t .parsing [] notes, Pass.parseSource k names) := by
    simp only [Member.parseSource, member_read, member_parse, Routine.perform, Pass.parseSource]
    cases k.read <;> rfl
  subst prepared
  simp only [Member.produce, amid_put, parsed]
  cases Pass.parseSource k names with
  | error f => exact fail_reaches .parse f
  | ok model =>
    simp only [member_announceAll, member_tell, List.nil_append]
    rw [← sofar_midpoint]
    exact renderUnit_reaches model.1

theorem member_pass (call : Caller (Vector τ m × List ν) n r) (i : Fin n)
    (e : Ensemble (Vector τ m × List ν) n r) :
    let p := x.generator.runWith h k (e.held.1.get x.customization)
    ∃ c, c.generator = i ∧ c.outcome = p.result ∧
      (x.member h k).pass call i e =
        ((e.amid x i (Pass.count e.metrics p) p.after p.state p.notifications p.notes).close c,
          p.result) := by
  intro p
  have started : p = Pass.run h k x.generator.request.sourcePath x.generator.context
    (e.held.1.get x.customization) := rfl
  simp only [Member.pass, member_prepare, member_generator, put_eq_amid (x := x), perform_hook,
    HookRun.answer]
  rw [Pass.run] at started
  cases failed : (h.prepare (e.held.1.get x.customization) x.generator.context).failure with
  | some f =>
    simp only [failed] at started
    simp only [started]
    exact ⟨.raised i f, rfl, rfl, rfl⟩
  | none =>
    simp only [failed] at started
    have reaches := produce_reaches (e := e) call i .idle started
    simp only [List.nil_append]
    generalize (x.member h k).produce call i _ _ = produced at reaches ⊢
    obtain ⟨later, found, result⟩ := produced
    refine ⟨.returned i found result, rfl, reaches.result.symm, ?_⟩
    rw [← reaches.ensemble, reaches.result]

end Station

namespace Session

variable (h : Hooks τ ν) (s : Session τ m r n)

theorem ensemble_amid (notes : List ν) (ended : List (Ended n)) (i : Fin n) (p : PassRun τ ν) :
    (s.ensemble notes ended).amid (s.station i) i (Pass.count s.workspace.metrics p) p.after
        p.state p.notifications p.notes =
      (s.settle i p).ensemble (notes ++ p.notes) ended := by
  simp [ensemble, Ensemble.amid, settle]

@[simp] theorem crew_settle (k : Fin n → Collaborators) (i : Fin n) (p : PassRun τ ν) :
    (s.settle i p).crew h k = s.crew h k := by
  funext j
  simp [crew, settle_station, Station.member]

/-- A call of one of the generators is the pass of its station, and is noted with the result of
that pass. -/
theorem generate_crew (k : Fin n → Collaborators) (i : Fin n) (notes : List ν)
    (ended : List (Ended n)) :
    let p := s.pass h ⟨i, k i⟩
    ∃ c, c.generator = i ∧ c.outcome = p.result ∧
      Ensemble.generate (s.crew h k) [] i (s.ensemble notes ended) =
        ((s.settle i p).ensemble (notes ++ p.notes) (ended ++ [c]), p.result) := by
  intro p
  obtain ⟨c, generator, outcome, passed⟩ := Station.member_pass (h := h) (k := k i)
    (x := s.station i) (Ensemble.generate (s.crew h k) [i]) i (s.ensemble notes ended)
  have settled := congrArg (·.close c) (s.ensemble_amid notes ended i p)
  refine ⟨c, generator, outcome, ?_⟩
  rw [Ensemble.generate_entered _ List.not_mem_nil]
  exact passed.trans (Prod.ext settled rfl)

/-- Generators that are called in turn run the passes of their stations: the session is the same
afterwards, and the calls are noted with the results of these passes. -/
theorem perform_inTurn (k : Fin n → Collaborators) (is : List (Fin n)) (notes : List ν)
    (ended : List (Ended n)) :
    let passes := s.run h (is.map fun i => ⟨i, k i⟩)
    ∃ later, (later.map fun c => (c.generator, c.outcome)) =
        (passes.2.map fun x => (x.1, x.2.result)) ∧
      ((Routine.inTurn is).perform (Ensemble.generate (s.crew h k) []) (s.ensemble notes ended)).1 =
        passes.1.ensemble (notes ++ passes.2.flatMap (·.2.notes)) (ended ++ later) := by
  induction is generalizing s notes ended with
  | nil => exact ⟨[], rfl, by simp [Routine.inTurn, Routine.perform, run]⟩
  | cons i is ih =>
    obtain ⟨c, generator, outcome, called⟩ := s.generate_crew h k i notes ended
    obtain ⟨later, same, rest⟩ := ih (s.settle i (s.pass h ⟨i, k i⟩))
      (notes ++ (s.pass h ⟨i, k i⟩).notes) (ended ++ [c])
    rw [crew_settle] at rest
    refine ⟨c :: later, ?_, ?_⟩
    · simp only [List.map_cons, run, generator, outcome, same]
    · simp only [Routine.inTurn, List.foldr_cons, Routine.perform, called, List.map_cons, run,
        List.flatMap_cons]
      simpa only [Routine.inTurn, List.append_assoc, List.singleton_append] using rest

end Session

end TemplateCompiler
