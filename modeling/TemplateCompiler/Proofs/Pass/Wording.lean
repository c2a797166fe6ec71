import TemplateCompiler.Proofs.Customization.Declared
import TemplateCompiler.Proofs.Pass.Ending
import TemplateCompiler.Proofs.Text.Whole

/-! The failures that end a pass over a template that was read. Whatever names and values a profile
and a request hold, the report of such a failure is a whole text: what it shows of them is
quoted. -/

namespace TemplateCompiler

open Text (isWhole_append isWhole_quoted isWhole_ofNat)

theorem Value.isWhole_kindName : (v : Value) → v.kindName.isWhole = true
  | .loop _ body => isWhole_kindName body
  | .back _ isList => by cases isList <;> rfl
  | .moment m => by
    unfold kindName Moment.kindName
    split <;> rfl
  | .null | .bool _ | .int _ | .float _ | .nan _ | .text _ | .bytes _ | .list _ | .pair .. | .set _
  | .map _ => rfl

namespace Failure

def Told (f : Failure) : Prop := f.report.isWhole = true

theorem told_of_message {f : Failure} (kind : f.kind.isWhole = true)
    (message : f.message.isWhole = true) : f.Told := by
  have colon : Text.isWhole ": ".toList = true := rfl
  rw [Told, report, isWhole_append, isWhole_append, kind, colon]
  split
  · exact isWhole_quoted _
  · exact message

theorem told_noOperation (v : Value) : (noOperation v.kindName "strip".toList).Told := by
  have shown : (noOperation v.kindName "strip".toList).message =
      v.kindName.quoted ++ " object has no attribute ".toList ++ Text.quoted "strip".toList := rfl
  refine told_of_message rfl ?_
  rw [shown, isWhole_append, isWhole_append, isWhole_quoted, isWhole_quoted]
  rfl

theorem told_badVisibility (value : Text) : (badVisibility (some value)).Told := by
  have shown : (badVisibility (some value)).message =
      "TypeVisibility must be 'public' or 'internal', got ".toList ++ value.quoted := rfl
  refine told_of_message rfl ?_
  rw [shown, isWhole_append, isWhole_quoted]
  rfl

theorem told_notIterable (v : Value) : (notIterable v.kindName).Told := by
  have shown : (notIterable v.kindName).message =
      v.kindName.quoted ++ " object is not iterable".toList := rfl
  refine told_of_message rfl ?_
  rw [shown, isWhole_append, isWhole_quoted]
  rfl

theorem told_notKey (v : Value) : (notKey v.kindName).Told := by
  have shown : (notKey v.kindName).message =
      "unhashable type: ".toList ++ v.kindName.quoted := rfl
  refine told_of_message rfl ?_
  rw [shown, isWhole_append, isWhole_quoted]
  rfl

theorem told_notTextItem (index : Nat) (v : Value) : (notTextItem index v.kindName).Told := by
  have shown : (notTextItem index v.kindName).message =
      "sequence item ".toList ++ Text.ofNat index ++ ": expected str instance, ".toList ++
        v.kindName ++ " found".toList := rfl
  refine told_of_message rfl ?_
  rw [shown]
  simp only [isWhole_append, isWhole_ofNat, v.isWhole_kindName]
  rfl

theorem told_notTextArgument (index : Nat) (v : Value) :
    (notTextArgument index v.kindName).Told := by
  have shown : (notTextArgument index v.kindName).message =
      "replace() argument ".toList ++ Text.ofNat index ++ " must be str, not ".toList ++
        (if v.kindName = "NoneType".toList then "None".toList else v.kindName) := rfl
  refine told_of_message rfl ?_
  rw [shown]
  simp only [isWhole_append, isWhole_ofNat]
  split
  · rfl
  · rw [v.isWhole_kindName]
    rfl

theorem told_unwritableInteger : unwritableInteger.Told := by
  have shown : unwritableInteger.message =
      "Exceeds the limit (".toList ++ Text.ofNat Text.digitLimit ++
        " digits) for integer string conversion".toList ++ "; ".toList ++ raiseLimitText := rfl
  refine told_of_message rfl ?_
  rw [shown]
  simp only [isWhole_append, isWhole_ofNat]
  rfl

end Failure

open Failure

theorem ImportSet.insertValues_told {s : ImportSet} {vs : List Value} {f : Failure}
    (failed : (s.insertValues vs).2 = some f) : f.Told := by
  induction vs generalizing s with
  | nil => cases failed
  | cons v vs ih =>
    rw [insertValues] at failed
    cases named : nameOf v with
    | ok name =>
      rw [named] at failed
      exact ih failed
    | error g =>
      rw [named] at failed
      cases failed
      unfold nameOf at named
      split at named
      · cases named
      · cases named
      · split at named
        · cases named
          exact told_noOperation _
        · cases named

namespace Customization

theorem mutateModel_told {c : Customization} {u : CompileUnit} {f : Failure}
    (failed : (c.mutateModel u).failure = some f) : f.Told := by
  cases c with
  | setImports imports replaceExisting =>
    cases replaceExisting <;> exact ImportSet.insertValues_told failed
  | directiveDispatch held =>
    have refused := (StandardDirective.applyAll_failure _ u).symm.trans failed
    obtain ⟨e, -, refused⟩ := List.exists_of_findSome?_eq_some refused
    obtain ⟨-, rfl⟩ := StandardDirective.refusal?_eq_some refused
    exact told_badVisibility _
  | _ => cases failed

theorem mutateText_told {c : Customization} {t : Text} {f : Failure}
    (failed : (c.mutateText t).failure = some f) : f.Told := by
  cases c with
  | replaceText old new =>
    simp only [mutateText] at failed
    split at failed
    · cases failed
    · next refused =>
      cases failed
      unfold replaceIn at refused
      split at refused <;> cases refused
      · exact told_notTextArgument ..
      · exact told_notTextArgument ..
  | _ => cases failed

end Customization

namespace Spelling

theorem itemTexts_told {index : Nat} {items : List Value} {f : Failure}
    (failed : itemTexts index items = .error f) : f.Told := by
  induction items generalizing index with
  | nil => cases failed
  | cons v items ih =>
    cases v with
    | text t => exact ih (map_eq_error_iff.1 failed)
    | _ =>
      cases failed
      exact told_notTextItem ..

theorem argument_told {s : Spelling} {v : Value} {f : Failure} (failed : s.argument v = .error f) :
    f.Told := by
  unfold argument at failed
  split at failed
  · cases failed
  · split at failed
    · cases failed
      exact told_notIterable _
    · split at failed
      · cases failed
        exact told_notKey _
      · exact itemTexts_told (map_eq_error_iff.1 failed)

end Spelling

theorem Language.render_told {l : Language} {u : CompileUnit} {f : Failure}
    (failed : l.render u = .error f) : f.Told := by
  rcases do_eq_error_iff.1 (map_eq_error_iff.1 failed) with refused | ⟨forms, -, failed⟩
  · obtain ⟨a, -, refused⟩ := mem_of_mapM_error refused
    obtain ⟨v, -, refused⟩ := mem_of_mapM_error (map_eq_error_iff.1 refused)
    exact Spelling.argument_told refused
  · rcases do_eq_error_iff.1 failed with base | ⟨_, -, failed⟩
    · unfold checkBaseType at base
      split at base <;> cases base
      exact told_unwritableInteger
    · cases failed

/-- A problem of the template, or a failure that is put in whole texts. -/
def Problem.Told : Problem → Prop
  | .failed f => f.Told
  | .other .. => False
  | _ => True

theorem Problem.Told.code_le {p : Problem} (told : p.Told) : p.code.natAbs ≤ 104 := by
  cases p with
  | other code message => exact told.elim
  | _ => exact Nat.le_of_ble_eq_true rfl

theorem Problem.Told.isWhole_message {p : Problem} (told : p.Told) :
    p.message.isWhole = true := by
  cases p with
  | failed f => exact told
  | other code message => exact told.elim
  | strayAt next =>
    cases next with
    | none => rfl
    | some c =>
      have shown : (strayAt (some c)).message = "Unexpected ".toList ++ Text.quoted [c] ++
          " after '@'. Use '@@' for a literal '@'.".toList := rfl
      rw [shown, isWhole_append, isWhole_append, isWhole_quoted]
      rfl
  | _ => rfl

theorem Template.told_of_mem {position : Position} {parts : List Segment} {d : Diagnostic}
    (inside : d ∈ diagnosticsFrom position parts) : d.problem.Told := by
  induction parts generalizing position with
  | nil => cases inside
  | cons part parts ih =>
    rcases List.mem_append.1 inside with here | later
    · unfold diagnosticOf at here
      split at here
      case h_5 => cases here
      all_goals
        cases List.mem_singleton.1 here
        trivial
    · exact ih later

namespace Generator

open Pass

variable {g : Generator} {files : FileTree} {text : Text}

/-- What a pass reports: its result, what it found wrong, and how far it came. -/
structure Reports (found : List Diagnostic) (result : PassResult)
    (run : PassRun (Chain Customization) Notice) : Prop where
  result : run.result = .ok result
  diagnostics : Notification.diagnostics run.notifications = found
  progress : Notification.progressSteps run.notifications ⊆ [(50, 100), (100, 100)]

theorem diagnostics_append (found : List Diagnostic) (ns : List Notification) :
    Notification.diagnostics (found.map .diagnostic ++ ns) =
      found ++ Notification.diagnostics ns := by
  induction found with
  | nil => rfl
  | cons d found ih => exact congrArg (d :: ·) ih

theorem progressSteps_append (found : List Diagnostic) (ns : List Notification) :
    Notification.progressSteps (found.map .diagnostic ++ ns) = Notification.progressSteps ns := by
  induction found with
  | nil => rfl
  | cons d found ih => exact ih

theorem reports_of_ended {found : List Diagnostic} {e : Ending} {ns : List Notification}
    {run : PassRun (Chain Customization) Notice} (ended : Ended found e run)
    (reports : e.reports found = found.map .diagnostic ++ ns)
    (progress : Notification.progressSteps ns ⊆ [(50, 100), (100, 100)]) :
    Reports (found ++ Notification.diagnostics ns) e.result run where
  result := ended.result
  diagnostics := by rw [ended.notifications, reports, diagnostics_append]
  progress := by rwa [ended.notifications, reports, progressSteps_append]

theorem reports_of_run (read : g.source.read files g.request.sourcePath = .ok text)
    (chain : Chain Customization) :
    let run := g.run (Chain.hooks Customization.hooks) files chain
    (∃ code, Reports (Template.diagnostics text) (.code code) run) ∨
      ∃ f, f.Told ∧
        Reports (Template.diagnostics text ++ [.at (.failed f) .start]) (.failure .render f) run := by
  intro run
  have prepared := (Customization.prepare_leaves (c := chain) g.context).1
  obtain ⟨found, e, course, ended⟩ := run_course (Chain.hooks Customization.hooks)
    (g.collaborators files) g.request.sourcePath g.context chain prepared
  have given {t : Text} {names : UnitNames} {u : CompileUnit} {found : List Diagnostic}
      (same : (g.collaborators files).read = .ok t)
      (parse : (g.collaborators files).parse names t = .ok (u, found)) :
      found = Template.diagnostics text := by
    cases same.symm.trans read
    cases parse
    rfl
  cases course with
  | unread failed => cases failed.symm.trans read
  | unparsed _ failed => cases failed
  | unmutated same parse failed =>
    obtain ⟨c, -, u, failed⟩ := Chain.mem_of_run_failure failed
    rw [← given same parse]
    refine .inr ⟨_, Customization.mutateModel_told failed, reports_of_ended ended rfl ?_⟩
    simp [Notification.progressSteps]
  | unrendered same parse _ failed =>
    rw [← given same parse]
    refine .inr ⟨_, Language.render_told failed, reports_of_ended ended rfl ?_⟩
    simp [Notification.progressSteps]
  | unfinished same parse _ _ failed =>
    obtain ⟨c, -, t, failed⟩ := Chain.mem_of_run_failure failed
    rw [← given same parse]
    refine .inr ⟨_, Customization.mutateText_told failed, reports_of_ended ended rfl ?_⟩
    simp [Notification.progressSteps]
  | finished same parse =>
    rw [← given same parse]
    have reports := reports_of_ended ended rfl (by decide)
    have nothing : found ++
        Notification.diagnostics [.progress 50 100, .progress 100 100] = found :=
      List.append_nil found
    rw [nothing] at reports
    exact .inl ⟨_, reports⟩

end Generator

end TemplateCompiler
