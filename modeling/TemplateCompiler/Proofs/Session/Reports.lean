import TemplateCompiler.Proofs.Pass.Ending
import TemplateCompiler.Proofs.Session.Basic

/-! What passes report. A pass has one of four endings, each with its own sequence of reports, and
a recorder holds the sequences of the passes that it heard, one after the other. -/

namespace TemplateCompiler

theorem Template.diagnosticsFrom_not_fatal (position : Position) (parts : List Segment) :
    (diagnosticsFrom position parts).countP Diagnostic.isFatal = 0 := by
  induction parts generalizing position with
  | nil => rfl
  | cons part rest ih =>
    have here : (diagnosticOf position part).countP Diagnostic.isFatal = 0 := by
      unfold diagnosticOf
      split <;> rfl
    rw [diagnosticsFrom, List.countP_append, here, ih]

theorem Generator.parse_not_fatal (g : Generator) {names : UnitNames} {t : Text}
    {u : CompileUnit} {found : List Diagnostic} (parsed : g.parse names t = .ok (u, found)) :
    found.countP Diagnostic.isFatal = 0 := by
  obtain ⟨-, rfl⟩ := Prod.mk.inj (Except.ok.inj parsed)
  exact Template.diagnosticsFrom_not_fatal ..

namespace Pass

variable {τ ν : Type}

theorem Course.found_not_fatal {h : Hooks τ ν} {k : Collaborators} {l : Language}
    {names : UnitNames} {t : τ} {found : List Diagnostic} {e : Ending} {g : Generator}
    (own : k.parse = g.parse) (course : Course h k l names t found e) :
    found.countP Diagnostic.isFatal = 0 := by
  cases course with
  | unread | unparsed => rfl
  | unmutated _ parse | unrendered _ parse | unfinished _ parse | finished _ parse =>
    exact g.parse_not_fatal (own ▸ parse)

/-- What a pass of a generator reports and where it ends, if the generator's customization is `t`
before it. -/
structure Reported (h : Hooks τ ν) (g : Generator) (k : Collaborators) (t : τ)
    (p : PassRun τ ν) : Prop where
  unprepared : ∀ f, (h.prepare t g.context).failure = some f →
    p.result = .error f ∧ p.notifications = [] ∧ p.state = .idle
  prepared : (h.prepare t g.context).failure = none →
    ∃ found e,
      Course h k g.language (unitNames g.request.sourcePath (h.prepare t g.context).reached)
        (h.prepare t g.context).after found e ∧
      Ended found e p ∧ (∀ e', Ended found e' p → e' = e) ∧
      p.notifications.countP Notification.isFatal =
        found.countP Diagnostic.isFatal + if e.result.isSuccess then 0 else 1
  single : ∀ result, p.result = .ok result → result.code?.isSome = !result.failure?.isSome
  /-- With the generator's own parser, a failure is reported once and nothing else looks like it. -/
  fatal : ∀ result, p.result = .ok result → k.parse = g.parse →
    p.notifications.countP Notification.isFatal = if result.isSuccess then 0 else 1

theorem reported (h : Hooks τ ν) (g : Generator) (k : Collaborators) (t : τ) :
    Reported h g k t (g.runWith h k t) := by
  have counted {found : List Diagnostic} {e : Ending}
      (course : Course h k g.language (unitNames g.request.sourcePath
        (h.prepare t g.context).reached) (h.prepare t g.context).after found e)
      (ended : Ended found e (g.runWith h k t)) :
      (g.runWith h k t).notifications.countP Notification.isFatal =
        found.countP Diagnostic.isFatal + if e.result.isSuccess then 0 else 1 := by
    rw [ended.notifications]
    exact e.countP_reports found course.found_eq_nil
  refine ⟨fun f failed => run_unprepared h k _ _ t failed, fun prepared => ?_,
    fun result _ => result.code?_isSome, fun result returned own => ?_⟩
  · obtain ⟨found, e, course, ended⟩ := run_course h k g.request.sourcePath g.context t prepared
    exact ⟨found, e, course, ended, fun e' other => other.unique ended, counted course ended⟩
  · cases prepared : (h.prepare t g.context).failure with
    | some f =>
      have failed := (run_unprepared h k g.request.sourcePath g.context t prepared).1
      rw [Generator.runWith, failed] at returned
      cases returned
    | none =>
      obtain ⟨found, e, course, ended⟩ := run_course h k g.request.sourcePath g.context t prepared
      have same : e.result = result := Except.ok.inj (ended.result.symm.trans returned)
      rw [counted course ended, course.found_not_fatal own, same, Nat.zero_add]

end Pass

namespace Session

variable {τ ν : Type} {m r n : Nat}

/-- After any passes, whatever takes part in them, the next pass ends in one of the four ways and
leaves its station in the state of that ending; the recorders hold what they held before, and
after it what the passes they heard reported. -/
theorem run_reports (h : Hooks τ ν) (s : Session τ m r n) (calls : List (Call n)) (c : Call n) :
    let before := (s.run h calls).1
    let p := before.pass h c
    let after := s.run h (calls ++ [c])
    after.2 = (s.run h calls).2 ++ [(c.station, p)] ∧
    Pass.Reported h (s.station c.station).generator c.collaborators
      (before.customizationAt c.station) p ∧
    (after.1.station c.station).state = p.state ∧
    ∀ j : Fin r,
      (after.1.recorder j).timeline = (s.recorder j).timeline ++ s.heard j after.2 ∧
      (after.1.recorder j).diagnostics =
        (s.recorder j).diagnostics ++ Notification.diagnostics (s.heard j after.2) ∧
      (after.1.recorder j).progress =
        (s.recorder j).progress ++ Notification.progressSteps (s.heard j after.2) := by
  intro before p after
  have grown : after = (before.settle c.station p, (s.run h calls).2 ++ [(c.station, p)]) :=
    run_append h s calls [c]
  refine ⟨congrArg Prod.snd grown, ?_, ?_, fun j => ?_⟩
  · rw [← run_generator h s calls c.station]
    exact Pass.reported ..
  · rw [grown]
    exact settle_state ..
  · have held : after.1.recorder j = (s.recorder j).noteAll (s.heard j after.2) :=
      run_recorders h s (calls ++ [c]) j
    rw [held, Recorder.noteAll_eq]
    exact ⟨rfl, rfl, rfl⟩

end Session

end TemplateCompiler
