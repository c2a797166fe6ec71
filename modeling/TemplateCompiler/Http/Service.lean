import TemplateCompiler.Http.Body
import TemplateCompiler.Http.Route
import TemplateCompiler.Json.Plain
import TemplateCompiler.Json.Printer
import TemplateCompiler.Workspace

/-! The service over HTTP: code, profiles, languages and counters. Every request that gets an
answer from an endpoint, or none because there is no such endpoint, is counted. -/

namespace TemplateCompiler.Http

structure Request where
  method : Text
  target : Text
  body : Text
  id : Text
deriving DecidableEq, Repr

def Request.check (r : Request) : Except Failure Unit := do
  checkTarget r.target
  Failure.checkEncodable .notAscii (fun _ => false) r.id
  Failure.checkEncodable .loneSurrogate (fun _ => false) r.body

structure Response where
  status : Nat
  body : Value
  id : Option Text
  location : Option Text

def object (fields : List (String × Value)) : Value :=
  .map (fields.map fun f => (.text f.1.toList, f.2))

def texts (ts : List Text) : Value := .list (ts.map .text)

def textOrNull : Option Text → Value
  | some t => .text t
  | none => .null

namespace Response

def detail (status : Nat) (message : Text) : Nat × Value :=
  (status, object [("detail", .text message)])

end Response

def profileSummary (p : Profile) : Value :=
  object [("name", .text p.name), ("description", textOrNull p.description),
    ("transformers", texts (p.customizations.map (·.name)))]

def profileValue (p : Profile) : Value :=
  object [("name", .text p.name), ("description", textOrNull p.description),
    ("transformers", .list (p.customizations.map fun spec =>
      object [("name", .text spec.name),
        ("args", .map (spec.args.map fun a => (.text a.1, a.2)))]))]

def languageValue (l : Language) : Value :=
  object [("language", .text l.id), ("pre_block", .text l.preBlock),
    ("post_block", .text l.postBlock), ("file_extension", .text l.fileExtension)]

def countersValue (cs : Counters) : List (Value × Value) :=
  cs.map fun c => (.text c.1, .int c.2)

def snapshot (m : Metrics) : Value :=
  let total := match m.requests.lookup Metrics.requestsTotal with
    | some n => [(Value.text Metrics.requestsTotal, Value.int n)]
    | none => []
  .map ((countersValue m.named ++ total).foldl (fun es e => Value.putEntry e.1 e.2 es)
    [(.text "requests".toList, .map (countersValue m.requests))])

def diagnosticValue (d : Diagnostic) : Value :=
  object [("code", .int d.code), ("message", .text d.message), ("line", .int d.line),
    ("column", .int d.column)]

def progressValue (p : Nat × Nat) : Value :=
  object [("completed", .int p.1), ("total", .int p.2)]

def resultFields : PassResult → List (String × Value)
  | .code code => [("ok", .bool true), ("code", .text code), ("failure", .null)]
  | .failure stage cause =>
    [("ok", .bool false), ("code", .null),
      ("failure", object [("stage", .text stage.name), ("message", .text cause.report)])]

def passValue (result : PassResult) (notifications : List Notification) : Value :=
  object (resultFields result ++
    [("diagnostics", .list ((Notification.diagnostics notifications).map diagnosticValue)),
      ("progress", .list ((Notification.progressSteps notifications).map progressValue))])

def errorValue (e : BodyError) : Value :=
  object [("loc", texts e.place), ("type", .text e.problem.name), ("input", e.input)]

def requestOf (b : GenerateBody) : TemplateCompiler.Request where
  sourcePath := b.relativePath
  relativePath := b.relativePath
  language := b.language
  directives := b.directives

def generate (w : Workspace) (body : Text) : Answer (Nat × Value) :=
  match checkBody body with
  | .error (.unfit errors) =>
    ⟨w, [], .ok (422, object [("detail", .list (errors.map errorValue))])⟩
  | .error .unreadable =>
    ⟨w, [], .ok (Response.detail 400 "There was an error parsing the body".toList)⟩
  | .ok b =>
    let a := w.run (requestOf b) b.profile (some b.template)
    let outcome := do
      let pass ← a.outcome
      let result ← pass.result
      return (200, passValue result pass.notifications)
    ⟨a.workspace, a.notices, outcome⟩

def withRegistry (w : Workspace) (display : Registry → Nat × Value) : Answer (Nat × Value) :=
  let a := w.registry
  ⟨a.workspace, a.notices, a.outcome.map display⟩

def profileList (r : Registry) : Nat × Value :=
  (200, object [("profiles", .list (r.names.filterMap fun name =>
    (r.get? name).map profileSummary))])

def profileDetail (name : Text) (r : Registry) : Nat × Value :=
  match r.get? name with
  | some p => (200, profileValue p)
  | none => Response.detail 404 "Transformer profile not found".toList

def answer (w : Workspace) (body : Text) : Endpoint → Answer (Nat × Value)
  | .generate => generate w body
  | .profiles => withRegistry w profileList
  | .profile name => withRegistry w (profileDetail name)
  | .languages =>
    ⟨w, [], .ok (200, object [("languages", .list (Language.all.map languageValue))])⟩
  | .live =>
    ⟨{ w with metrics := w.metrics.addNamed "health_live".toList 1 }, [],
      .ok (200, object [("status", .text "alive".toList)])⟩
  | .snapshot => ⟨w, [], .ok (200, snapshot w.metrics)⟩
  | .documentation => ⟨w, [], .ok (200, .null)⟩

def configurationCode : Failure → Text
  | .unknownProfile _ => "unknown_profile".toList
  | .unknownEncoding _ => "unknown_encoding".toList
  | _ => "unknown_language".toList

def detailStart (message : Text) : Text :=
  "\x7b\"detail\":\"".toList ++ message.flatMap Json.escapeControl

/-- The response to a request that failed, unless the message cannot be encoded. -/
def failureResponse (id : Text) (f : Failure) : Except Failure Response :=
  if f.isConfiguration then
    (Failure.checkEncodable .loneSurrogate (fun _ => false) (detailStart f.message)).map fun _ =>
      ⟨400, object [("detail", .text f.message), ("error", .text (configurationCode f)),
        ("request_id", .text id)], none, none⟩
  else
    .ok ⟨500, object [("detail", .text "Internal Server Error".toList), ("request_id", .text id)],
      none, none⟩

def writable (body : Value) : Except Failure Value :=
  match body.plain? with
  | some v => .ok v
  | none => .error .unwritableResponse

/-- The body that is sent: a request for the head of a response gets none. -/
def shown (method : Text) (body : Value) : Value :=
  if method = "HEAD".toList then .null else body

def Request.idOr (r : Request) (fresh : Text) : Text := if r.id.isEmpty then fresh else r.id

def Request.path (r : Request) : Text := pathOf r.target

def Request.destination (r : Request) : Route := route r.method r.path

def dispatch (w : Workspace) (r : Request) : Answer (Nat × Value) :=
  match r.destination with
  | .endpoint e => answer w r.body e
  | .redirect _ => ⟨w, [], .ok (307, .null)⟩
  | .nowhere e => ⟨w, [], .ok (Response.detail e.status e.detail)⟩

def sendable (outcome : Except Failure (Nat × Value)) : Except Failure (Nat × Value) :=
  outcome.bind fun (status, body) => (writable body).map fun body => (status, body)

/-- Answers a request. `fresh` is the identifier of a request that came without one. -/
def handle (w : Workspace) (fresh : Text) (r : Request) : Answer Response :=
  let a := dispatch w r
  match sendable a.outcome with
  | .error f => ⟨a.workspace, a.notices, failureResponse (r.idOr fresh) f⟩
  | .ok (status, body) =>
    ⟨{ a.workspace with
        metrics := a.workspace.metrics.countAnswer r.method (countedPath r.path)
          (Text.ofNat status) },
      a.notices, .ok ⟨status, shown r.method body, some (r.idOr fresh), r.destination.location?⟩⟩

def serve (w : Workspace) : List (Text × Request) → Workspace × List (Except Failure Response)
  | [] => (w, [])
  | (fresh, r) :: rest =>
    let a := handle w fresh r
    let later := serve a.workspace rest
    (later.1, a.outcome :: later.2)

end TemplateCompiler.Http
