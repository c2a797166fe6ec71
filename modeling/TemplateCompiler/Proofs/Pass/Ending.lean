import TemplateCompiler.Generator
import TemplateCompiler.Proofs.Customization.Steps

/-! How a pass ends. What takes part in it is asked in turn, and the first that fails decides the
ending; the ending decides the state, the result and everything that is reported. -/

namespace TemplateCompiler

namespace PassResult

def code? : PassResult → Option Text
  | .code text => some text
  | .failure .. => none

def failure? : PassResult → Option (Stage × Failure)
  | .code _ => none
  | .failure stage cause => some (stage, cause)

theorem code?_isSome (r : PassResult) : r.code?.isSome = !r.failure?.isSome := by
  cases r <;> rfl

end PassResult

/-- A failed pass is reported as a diagnostic with code 4 at the start of the template. -/
def Diagnostic.isFatal (d : Diagnostic) : Bool := d.code == 4 && d.line == 1 && d.column == 1

def Notification.isFatal : Notification → Bool
  | .diagnostic d => d.isFatal
  | .progress .. => false

theorem countP_isFatal_diagnostics (ds : List Diagnostic) :
    (ds.map Notification.diagnostic).countP Notification.isFatal =
      ds.countP Diagnostic.isFatal := by
  rw [List.countP_map]
  rfl

namespace Pass

variable {τ ν : Type}

/-- The endings of a pass whose customization was prepared. -/
inductive Ending where
  | unparsed (cause : Failure)
  | unrendered (cause : Failure)
  | unfinished (cause : Failure)
  | finished (code : Text)

namespace Ending

def state : Ending → PassState
  | .unparsed _ => .parseFailed
  | .unrendered _ => .renderFailed
  | .unfinished _ => .renderFailed
  | .finished _ => .outputReady

def result : Ending → PassResult
  | .unparsed f => .failure .parse f
  | .unrendered f => .failure .render f
  | .unfinished f => .failure .render f
  | .finished code => .code code

/-- What a pass with this ending reports, where `found` is what its parser found wrong. -/
def reports (found : List Diagnostic) : Ending → List Notification
  | .unparsed f => [.diagnostic ⟨.failed f, 1, 1⟩]
  | .unrendered f =>
    found.map .diagnostic ++ [.progress 50 100, .diagnostic ⟨.failed f, 1, 1⟩]
  | .unfinished f =>
    found.map .diagnostic ++
      [.progress 50 100, .progress 100 100, .diagnostic ⟨.failed f, 1, 1⟩]
  | .finished _ => found.map .diagnostic ++ [.progress 50 100, .progress 100 100]

theorem eq_of_reports {found : List Diagnostic} {a b : Ending} (results : a.result = b.result)
    (reports : a.reports found = b.reports found) : a = b := by
  cases a <;> cases b <;> simp_all [Ending.result, Ending.reports]

theorem countP_reports (found : List Diagnostic) (e : Ending)
    (unfound : e.state = .parseFailed → found = []) :
    (e.reports found).countP Notification.isFatal =
      found.countP Diagnostic.isFatal + if e.result.isSuccess then 0 else 1 := by
  cases e with
  | unparsed f => rw [unfound rfl]; rfl
  | unrendered f | unfinished f | finished code =>
    rw [reports, List.countP_append, countP_isFatal_diagnostics]
    rfl

end Ending

/-- The course of a prepared pass: what its parser found wrong, and its ending. `t` is the
customization after its preparation. -/
inductive Course (h : Hooks τ ν) (k : Collaborators) (l : Language) (names : UnitNames) (t : τ) :
    List Diagnostic → Ending → Prop where
  | unread {f : Failure} (read : k.read = .error f) : Course h k l names t [] (.unparsed f)
  | unparsed {text : Text} {f : Failure} (read : k.read = .ok text)
      (parse : k.parse names text = .error f) : Course h k l names t [] (.unparsed f)
  | unmutated {text : Text} {u : CompileUnit} {found : List Diagnostic} {f : Failure}
      (read : k.read = .ok text) (parse : k.parse names text = .ok (u, found))
      (model : (h.mutateModel t u).failure = some f) :
      Course h k l names t found (.unrendered f)
  | unrendered {text : Text} {u : CompileUnit} {found : List Diagnostic} {f : Failure}
      (read : k.read = .ok text) (parse : k.parse names text = .ok (u, found))
      (model : (h.mutateModel t u).failure = none)
      (render : k.render (h.mutateModel t u).reached = .error f) :
      Course h k l names t found (.unrendered f)
  | unfinished {text code : Text} {u : CompileUnit} {found : List Diagnostic} {f : Failure}
      (read : k.read = .ok text) (parse : k.parse names text = .ok (u, found))
      (model : (h.mutateModel t u).failure = none)
      (render : k.render (h.mutateModel t u).reached = .ok code)
      (finish : (h.mutateText (h.mutateModel t u).after (l.wrap code)).failure = some f) :
      Course h k l names t found (.unfinished f)
  | finished {text code : Text} {u : CompileUnit} {found : List Diagnostic}
      (read : k.read = .ok text) (parse : k.parse names text = .ok (u, found))
      (model : (h.mutateModel t u).failure = none)
      (render : k.render (h.mutateModel t u).reached = .ok code)
      (finish : (h.mutateText (h.mutateModel t u).after (l.wrap code)).failure = none) :
      Course h k l names t found
        (.finished (h.mutateText (h.mutateModel t u).after (l.wrap code)).reached)

structure Ended (found : List Diagnostic) (e : Ending) (p : PassRun τ ν) : Prop where
  result : p.result = .ok e.result
  state : p.state = e.state
  notifications : p.notifications = e.reports found

theorem Ended.unique {found : List Diagnostic} {e e' : Ending} {p : PassRun τ ν}
    (ended : Ended found e p) (ended' : Ended found e' p) : e = e' :=
  Ending.eq_of_reports (Except.ok.inj (ended.result.symm.trans ended'.result))
    (ended.notifications.symm.trans ended'.notifications)

section

variable {h : Hooks τ ν} {k : Collaborators} {l : Language} {names : UnitNames} {t : τ}

theorem Course.found_eq_nil {found : List Diagnostic} {e : Ending}
    (course : Course h k l names t found e) (failed : e.state = .parseFailed) : found = [] := by
  cases course with
  | unread | unparsed => rfl
  | unmutated | unrendered | unfinished | finished => cases failed

end

theorem fail_ended {e : Ending} {stage : Stage} {f : Failure} {found : List Diagnostic}
    {ns : List Notification} (after : τ) (notes : List ν) (result : e.result = .failure stage f)
    (state : e.state = stage.failedState) (reports : ns ++ [.fatal f] = e.reports found) :
    Ended found e (fail after stage f ns notes) :=
  ⟨congrArg Except.ok result.symm, state.symm, reports⟩

theorem renderUnit_course (h : Hooks τ ν) (k : Collaborators) (l : Language) (names : UnitNames)
    (t : τ) (notes : List ν) {text : Text} {u : CompileUnit} {found : List Diagnostic}
    (read : k.read = .ok text) (parse : k.parse names text = .ok (u, found)) :
    ∃ e, Course h k l names t found e ∧
      Ended found e (renderUnit h k l t u (found.map .diagnostic ++ [.midpoint]) notes) := by
  cases model : (h.mutateModel t u).failure with
  | some f =>
    refine ⟨_, .unmutated read parse model, ?_⟩
    simp only [renderUnit, model]
    exact fail_ended _ _ rfl rfl (List.append_assoc ..)
  | none =>
    cases render : k.render (h.mutateModel t u).reached with
    | error f =>
      refine ⟨_, .unrendered read parse model render, ?_⟩
      simp only [renderUnit, model, render]
      exact fail_ended _ _ rfl rfl (List.append_assoc ..)
    | ok code =>
      cases done : (h.mutateText (h.mutateModel t u).after (l.wrap code)).failure with
      | some f =>
        refine ⟨_, .unfinished read parse model render done, ?_⟩
        simp only [renderUnit, model, render, finish, done]
        exact fail_ended _ _ rfl rfl (by simp only [List.append_assoc]; rfl)
      | none =>
        refine ⟨_, .finished read parse model render done, ?_⟩
        simp only [renderUnit, model, render, finish, done]
        exact ⟨rfl, rfl, by rw [List.append_assoc]; rfl⟩

theorem run_course (h : Hooks τ ν) (k : Collaborators) (sourceFile : Text) (context : Context)
    (t : τ) (prepared : (h.prepare t context).failure = none) :
    ∃ found e, Course h k context.language (unitNames sourceFile (h.prepare t context).reached)
        (h.prepare t context).after found e ∧ Ended found e (run h k sourceFile context t) := by
  cases read : k.read with
  | error f =>
    refine ⟨[], _, .unread read, ?_⟩
    simp only [run, prepared, parseSource, read, Except.bind]
    exact fail_ended _ _ rfl rfl rfl
  | ok text =>
    cases parse : k.parse (unitNames sourceFile (h.prepare t context).reached) text with
    | error f =>
      refine ⟨[], _, .unparsed read parse, ?_⟩
      simp only [run, prepared, parseSource, read, Except.bind, parse]
      exact fail_ended _ _ rfl rfl rfl
    | ok parsed =>
      obtain ⟨e, course, ended⟩ := renderUnit_course h k context.language _
        (h.prepare t context).after (h.prepare t context).notes read parse
      refine ⟨parsed.2, e, course, ?_⟩
      simpa only [run, prepared, parseSource, read, Except.bind, parse] using ended

def settle {α : Type} (stage : Stage) (x : Except Failure α) (next : α → PassResult) : PassResult :=
  match x with
  | .error f => .failure stage f
  | .ok a => next a

theorem run_result (h : Hooks τ ν) (k : Collaborators) (sourceFile : Text) (context : Context)
    (t : τ) (prepared : (h.prepare t context).failure = none) :
    (run h k sourceFile context t).result = .ok
      (settle .parse (parseSource k (unitNames sourceFile (h.prepare t context).reached)) fun x =>
        let model := h.mutateModel (h.prepare t context).after x.1
        settle .render model.value fun u =>
          settle .render (k.render u) fun code =>
            settle .render (h.mutateText model.after (context.language.wrap code)).value .code) := by
  obtain ⟨found, e, course, ended⟩ := run_course h k sourceFile context t prepared
  rw [ended.result]
  cases course with
  | unread read => simp only [parseSource, read, Except.bind, settle, Ending.result]
  | unparsed read parse => simp only [parseSource, read, parse, Except.bind, settle, Ending.result]
  | unmutated read parse model =>
    simp only [parseSource, read, parse, Except.bind, settle, HookRun.value, model, Ending.result]
  | unrendered read parse model render =>
    simp only [parseSource, read, parse, Except.bind, settle, HookRun.value, model, render,
      Ending.result]
  | unfinished read parse model render finish | finished read parse model render finish =>
    simp only [parseSource, read, parse, Except.bind, settle, HookRun.value, model, render, finish,
      Ending.result]

theorem run_unprepared (h : Hooks τ ν) (k : Collaborators) (sourceFile : Text)
    (context : Context) (t : τ) {f : Failure} (failed : (h.prepare t context).failure = some f) :
    (run h k sourceFile context t).result = .error f ∧
      (run h k sourceFile context t).notifications = [] ∧
      (run h k sourceFile context t).state = .idle := by
  simp only [run, failed, and_self]

end Pass

end TemplateCompiler
