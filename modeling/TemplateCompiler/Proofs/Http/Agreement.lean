import TemplateCompiler.Proofs.Http.Accounting
import TemplateCompiler.Proofs.Http.Answers
import TemplateCompiler.Proofs.Http.Bodies
import TemplateCompiler.Proofs.Registry.Soundness

/-! The command line and the service agree. A job comes to the same pass whichever way it is asked
for, whether its template is read from a file or comes with the request; what differs is only that
an answer over HTTP has to have a form in JSON. -/

namespace TemplateCompiler

theorem Language.choose_configuration {asked : Option Text} {path : Text} {f : Failure}
    (failed : choose asked path = .error f) : f.isConfiguration = true := by
  unfold choose at failed
  split at failed
  · rw [find] at failed
    split at failed <;> cases failed
    rfl
  · split at failed <;> cases failed
    rfl

theorem Registry.Sound.resolve_configuration {r : Registry} (sound : r.Sound) {name : Text}
    {f : Failure} (failed : r.resolve name = .error f) : f.isConfiguration = true := by
  cases known : r.get? name with
  | some p =>
    obtain ⟨chain, -, resolved⟩ := sound.resolve known
    cases failed.symm.trans resolved
  | none =>
    rw [Registry.resolve, known] at failed
    cases failed
    rfl

namespace Generator

theorem run_file {request : Request} {settings : Settings} {language : Language}
    {codecs : Encoding.Codecs} {encoding template : Text} {files : FileTree} (others : FileTree)
    (read : Source.readFile codecs files encoding request.sourcePath = .ok template)
    (chain : Chain Customization) :
    run ⟨request, settings, language, .file codecs encoding⟩ (Chain.hooks Customization.hooks)
        files chain =
      run ⟨request, settings, language, .inline template⟩ (Chain.hooks Customization.hooks) others
        chain := by
  have same : collaborators ⟨request, settings, language, .file codecs encoding⟩ files =
      collaborators ⟨request, settings, language, .inline template⟩ others := by
    rw [collaborators, collaborators, Source.read, Source.read, read]
    rfl
  rw [run, run, same]
  rfl

end Generator

namespace Workspace

variable {w v : Workspace} {r : Registry} {request : Request} {profile template : Text}
  {inline : Option Text}

theorem registryOf_files (w : Workspace) (file : Option Text) :
    (w.registryOf file).workspace.files = w.files := by
  unfold registryOf
  repeat' split
  all_goals rfl

theorem run_outcome (known : w.registry.outcome = .ok r) :
    (w.run request profile inline).outcome = (do
      let chain ← r.resolve profile
      let g ← Generator.create w.codecs w.settings request inline
      return g.run (Chain.hooks Customization.hooks) w.files chain) := by
  have registry : (w.registryOf w.settings.profilesFile).outcome = .ok r := known
  simp only [run, registry, registryOf_files, bind, Except.bind]
  cases r.resolve profile with
  | error f => rfl
  | ok chain =>
    cases Generator.create w.codecs w.settings request inline with
    | error f => rfl
    | ok g => rfl

theorem run_agrees (sound : r.Sound) (known : w.registry.outcome = .ok r)
    (served : v.registry.outcome = .ok r) (environment : v.environment = w.environment)
    (encoding : Encoding.checkName w.codecs w.settings.defaultEncoding = .ok ())
    (read : Source.readFile w.codecs w.files w.settings.defaultEncoding request.sourcePath =
      .ok template) :
    (∃ f, f.isConfiguration = true ∧ (w.run request profile none).outcome = .error f ∧
      (v.run request profile (some template)).outcome = .error f) ∨
    ∃ chain language,
      let g : Generator := ⟨request, w.settings, language, .inline template⟩
      let pass := g.run (Chain.hooks Customization.hooks) v.files chain
      (w.run request profile none).outcome = .ok pass ∧
        (v.run request profile (some template)).outcome = .ok pass := by
  have settings : v.settings = w.settings := congrArg Settings.ofEnvironment environment
  rw [run_outcome known, run_outcome served, settings]
  cases resolved : r.resolve profile with
  | error f => exact .inl ⟨f, sound.resolve_configuration resolved, rfl, rfl⟩
  | ok chain =>
    simp only [Generator.create, Source.file?, encoding]
    cases chosen : Language.choose request.language request.sourcePath with
    | error f => exact .inl ⟨f, Language.choose_configuration chosen, rfl, rfl⟩
    | ok language =>
      exact .inr ⟨chain, language, congrArg Except.ok (Generator.run_file v.files read chain), rfl⟩

end Workspace

namespace Http

def post (body id : Text) : Request := ⟨"POST".toList, "/api/v1/generate".toList, body, id⟩

theorem post_destination (body id : Text) : (post body id).destination = .endpoint .generate := by
  have routed : route "POST".toList (pathOf "/api/v1/generate".toList) = .endpoint .generate := by
    decide +kernel
  exact routed

def internalError (id : Text) : Response :=
  ⟨500, object [("detail", .text "Internal Server Error".toList), ("request_id", .text id)],
    none, none⟩

end Http

/-- A job is asked for on the command line, in a workspace where its file holds the template, and
of the service, in one with the same environment and the same profiles. -/
structure Job.IsPosed (j : Job) (w v : Workspace) (r : Registry) (template body : Text) : Prop where
  deliverable : j.IsDeliverable
  environment : v.environment = w.environment
  level : w.settings.checkLogLevel = .ok ()
  encoding : Encoding.checkName w.codecs w.settings.defaultEncoding = .ok ()
  loaded : ∃ files file notices, Registry.load files file = .ok (r, notices)
  known : w.registry.outcome = .ok r
  served : v.registry.outcome = .ok r
  file : Source.readFile w.codecs w.files w.settings.defaultEncoding j.path = .ok template
  stated : Http.checkBody body = .ok (j.body template)

open CommandLine (Console ending refused)
open Http (hasForm internalError passValue refusal)

/-- The two ways end alike: in the same refusal, unless it has no form, or in the result of one
pass with what it found, unless the answer about it has no form. -/
inductive Agree (console : Console) (path id : Text) :
    Except Failure CommandLine.Outcome → Except Failure Http.Response → Prop where
  | refused {f : Failure} (asked : f.isConfiguration = true) (whole : f.message.isWhole = true) :
      Agree console path id (.ok (refused f)) (.ok (refusal id f))
  | refusedUnsent {f g : Failure} (asked : f.isConfiguration = true)
      (broken : f.message.isWhole = false) :
      Agree console path id (.ok (refused f)) (.error g)
  | passed {result : PassResult} {ns : List Notification} (form : hasForm result ns = true) :
      Agree console path id (ending console path ns result)
        (.ok ⟨200, passValue result ns, some id, none⟩)
  | passedUnsent {result : PassResult} {ns : List Notification}
      (formless : hasForm result ns = false) :
      Agree console path id (ending console path ns result) (.ok (internalError id))

theorem Agree.of_refused {console : Console} {path id : Text} {f : Failure}
    (asked : f.isConfiguration = true) :
    Agree console path id (.ok (CommandLine.refused f)) (Http.failureResponse id f) := by
  cases whole : f.message.isWhole with
  | true =>
    rw [Http.failureResponse_whole asked whole]
    exact .refused asked whole
  | false =>
    obtain ⟨g, unsent⟩ := @Http.failureResponse_broken id f asked whole
    rw [unsent]
    exact .refusedUnsent asked whole

namespace Job.IsPosed

variable {j : Job} {w v : Workspace} {r : Registry} {template body : Text}

theorem dispatch_outcome (posed : j.IsPosed w v r template body) (id : Text) :
    (Http.dispatch v (Http.post body id)).outcome =
      (v.run j.request j.profile (some template)).outcome.bind fun pass =>
        pass.result.map fun result => (200, passValue result pass.notifications) := by
  have request : Http.requestOf (j.body template) = j.request := rfl
  have profile : (j.body template).profile = j.profile := rfl
  have inline : (j.body template).template = template := rfl
  have read : (Http.post body id).body = body := rfl
  simp only [Http.dispatch, Http.post_destination, Http.answer, Http.generate, read, posed.stated,
    request, profile, inline]
  cases (v.run j.request j.profile (some template)).outcome with
  | error f => rfl
  | ok pass => cases pass.result <;> rfl

def naming (name : Text) : Job :=
  ⟨"a.cshtml".toList, none, "webpage".toList, [("ClassName".toList, name)]⟩

def besideTemplate : Workspace :=
  { Workspace.empty with files := ⟨[(["a.cshtml".toList], .file [0x78])], []⟩ }

theorem naming_isPosed {name body : Text} (deliverable : (naming name).IsDeliverable)
    (stated : Http.checkBody body = .ok ((naming name).body ['x'])) :
    (naming name).IsPosed besideTemplate .empty .builtIn ['x'] body := by
  have encoding : (Encoding.checkName besideTemplate.codecs
      besideTemplate.settings.defaultEncoding).toOption = some () := by decide +kernel
  have file : (Source.readFile besideTemplate.codecs besideTemplate.files
      besideTemplate.settings.defaultEncoding "a.cshtml".toList).toOption = some ['x'] := by
    decide +kernel
  exact ⟨deliverable, rfl, rfl, toOption_eq_some_iff.1 encoding, ⟨.empty, none, [], rfl⟩, rfl, rfl,
    toOption_eq_some_iff.1 file, stated⟩

/-- A console that takes every code. -/
def lenient : Console := ⟨Failure.report, fun _ => .ok ()⟩

def printed? : CommandLine.Outcome → Option Text
  | .finished 0 code [] => some code
  | _ => none

def brokenBody : Text :=
  "\x7b\"template\":\"x\",\"project_relative_path\":\"a.cshtml\",".toList ++
    "\"directives\":\x7b\"ClassName\":\"\\udc80\"\x7d\x7d".toList

end Job.IsPosed

end TemplateCompiler
