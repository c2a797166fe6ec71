import TemplateCompiler.Customization.Hooks
import TemplateCompiler.Diagnostic
import TemplateCompiler.Language.Render
import TemplateCompiler.Metrics
import TemplateCompiler.Template.Unit

/-! One pass over a template: the template is read and turned into a model, the model is
customized and rendered, and the code is customized. What takes part in a pass may fail, and a
pass that fails says in which half it did. -/

namespace TemplateCompiler

/-- Where a pass stands, or stood when it ended. -/
inductive PassState where
  | idle
  | parsing
  | parseFailed
  | parsed
  | mutating
  | rendering
  | renderFailed
  | outputReady
deriving DecidableEq, Repr

namespace PassState

def name : PassState → Text
  | .idle => "idle".toList
  | .parsing => "parsing".toList
  | .parseFailed => "parse_failed".toList
  | .parsed => "parsed".toList
  | .mutating => "mutating".toList
  | .rendering => "rendering".toList
  | .renderFailed => "render_failed".toList
  | .outputReady => "output_ready".toList

end PassState

inductive Stage where
  | parse
  | render
deriving DecidableEq, Repr

namespace Stage

def name : Stage → Text
  | .parse => "parse".toList
  | .render => "render".toList

def failedState : Stage → PassState
  | .parse => .parseFailed
  | .render => .renderFailed

end Stage

inductive PassResult where
  | code (text : Text)
  | failure (stage : Stage) (cause : Failure)
deriving DecidableEq

namespace PassResult

def isSuccess : PassResult → Bool
  | .code _ => true
  | .failure .. => false

end PassResult

inductive Notification where
  | diagnostic (d : Diagnostic)
  | progress (completed total : Nat)
deriving DecidableEq

namespace Notification

def midpoint : Notification := .progress 50 100

def complete : Notification := .progress 100 100

def fatal (cause : Failure) : Notification := .diagnostic (.at (.failed cause) .start)

def diagnostics (ns : List Notification) : List Diagnostic :=
  ns.filterMap fun
    | .diagnostic d => some d
    | .progress .. => none

def progressSteps (ns : List Notification) : List (Nat × Nat) :=
  ns.filterMap fun
    | .diagnostic _ => none
    | .progress completed total => some (completed, total)

end Notification

/-- What takes part in a pass besides its customization. -/
structure Collaborators where
  read : Except Failure Text
  parse : UnitNames → Text → Except Failure (CompileUnit × List Diagnostic)
  render : CompileUnit → Except Failure Text

/-- What a pass did. It has no result where the customization failed before the template was
read. -/
structure PassRun (τ ν : Type) where
  after : τ
  result : Except Failure PassResult
  state : PassState
  notifications : List Notification
  notes : List ν

namespace Pass

variable {τ ν : Type}

def fail (after : τ) (stage : Stage) (cause : Failure) (notifications : List Notification)
    (notes : List ν) : PassRun τ ν :=
  ⟨after, .ok (.failure stage cause), stage.failedState, notifications ++ [.fatal cause], notes⟩

def finish (h : Hooks τ ν) (t : τ) (code : Text) (notifications : List Notification)
    (notes : List ν) : PassRun τ ν :=
  let r := h.mutateText t code
  match r.failure with
  | some f => fail r.after .render f notifications (notes ++ r.notes)
  | none => ⟨r.after, .ok (.code r.reached), .outputReady, notifications, notes ++ r.notes⟩

def renderUnit (h : Hooks τ ν) (k : Collaborators) (l : Language) (t : τ) (u : CompileUnit)
    (notifications : List Notification) (notes : List ν) : PassRun τ ν :=
  let r := h.mutateModel t u
  match r.failure with
  | some f => fail r.after .render f notifications (notes ++ r.notes)
  | none =>
    match k.render r.reached with
    | .error f => fail r.after .render f notifications (notes ++ r.notes)
    | .ok code => finish h r.after (l.wrap code) (notifications ++ [.complete]) (notes ++ r.notes)

def parseSource (k : Collaborators) (names : UnitNames) :
    Except Failure (CompileUnit × List Diagnostic) :=
  k.read.bind (k.parse names)

def unitNames (sourceFile : Text) (context : Context) : UnitNames :=
  ⟨context.className, context.namespaceName, sourceFile, context.linePragmas⟩

def run (h : Hooks τ ν) (k : Collaborators) (sourceFile : Text) (context : Context) (t : τ) :
    PassRun τ ν :=
  let r := h.prepare t context
  match r.failure with
  | some f => ⟨r.after, .error f, .idle, [], r.notes⟩
  | none =>
    match parseSource k (unitNames sourceFile r.reached) with
    | .error f => fail r.after .parse f [] r.notes
    | .ok (u, diagnostics) =>
      renderUnit h k context.language r.after u
        (diagnostics.map .diagnostic ++ [.midpoint]) r.notes

def count (m : Metrics) (r : PassRun τ ν) : Metrics :=
  let reported := Notification.diagnostics r.notifications
  match r.result with
  | .ok (.code _) => (m.countFound reported.length).countPass true
  | .ok (.failure ..) =>
    ((m.countFound reported.dropLast.length).countDiagnostic true).countPass false
  | .error _ => m

def enter (running : Bool) : Except Failure Unit :=
  if running then .error .notReentrant else .ok ()

end Pass

end TemplateCompiler
