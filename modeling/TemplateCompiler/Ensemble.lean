import TemplateCompiler.Session

/-! Generators whose collaborators may ask for passes themselves, while a pass is under way: of
other generators, or of the one that is running, which is refused. -/

namespace TemplateCompiler

/-- A call of a generator that has ended. It raised a failure where there was no pass, or none that
got as far as its template; else there is a result, and what the parser found, if it was asked. -/
inductive Ended (n : Nat) where
  | raised (generator : Fin n) (cause : Failure)
  | returned (generator : Fin n) (found : Option (List Diagnostic)) (result : PassResult)

/-- What `n` generators share: the counters, `r` recorders, where the last pass of each generator
stands, and whatever their collaborators hold. -/
structure Ensemble (σ : Type) (n r : Nat) where
  metrics : Metrics
  recorders : Vector Recorder r
  states : Vector PassState n
  held : σ
  ended : List (Ended n)

/-- What a collaborator does when it is asked: it may look at everything, change what is held, and
call generators. Then it has an outcome; its failures are of the type `ε`. -/
inductive Routine (σ : Type) (n r : Nat) (ε α : Type) where
  | finish (outcome : Except ε α)
  | change (hold : Ensemble σ n r → σ) (next : Ensemble σ n r → Routine σ n r ε α)
  | call (i : Fin n) (next : Except Failure PassResult → Routine σ n r ε α)

inductive Hearing (σ : Type) (n r : Nat) where
  | recorded (j : Fin r)
  | answered (reply : Routine σ n r Empty Unit)

namespace Hearing

def none {σ : Type} {n r : Nat} : Hearing σ n r := .answered (.finish (.ok ()))

end Hearing

/-- A generator with its collaborators. -/
structure Member (σ : Type) (n r : Nat) where
  generator : Generator
  prepare : Context → Routine σ n r Failure Context
  read : Routine σ n r Failure Text
  parse : UnitNames → Text → Routine σ n r Failure (CompileUnit × List Diagnostic)
  mutateModel : CompileUnit → Routine σ n r Failure CompileUnit
  render : CompileUnit → Routine σ n r Failure Text
  mutateText : Text → Routine σ n r Failure Text
  hear : Notification → Hearing σ n r

abbrev Caller (σ : Type) (n r : Nat) :=
  Fin n → Ensemble σ n r → Ensemble σ n r × Except Failure PassResult

variable {σ : Type} {n r : Nat}

namespace Ensemble

def put (e : Ensemble σ n r) (i : Fin n) (s : PassState) : Ensemble σ n r :=
  { e with states := e.states.set i s i.isLt }

def count (e : Ensemble σ n r) (f : Metrics → Metrics) : Ensemble σ n r :=
  { e with metrics := f e.metrics }

def record (e : Ensemble σ n r) (j : Fin r) (note : Notification) : Ensemble σ n r :=
  { e with recorders := e.recorders.set j ((e.recorders.get j).note note) j.isLt }

def close (e : Ensemble σ n r) (c : Ended n) : Ensemble σ n r :=
  { e with ended := e.ended ++ [c] }

def reset (e : Ensemble σ n r) : Ensemble σ n r :=
  { e with metrics := .zero, recorders := Vector.replicate r .empty, ended := [] }

end Ensemble

def Routine.perform (call : Caller σ n r) {ε α : Type} :
    Routine σ n r ε α → Ensemble σ n r → Ensemble σ n r × Except ε α
  | .finish outcome, e => (e, outcome)
  | .change hold next, e => perform call (next e) { e with held := hold e }
  | .call i next, e => perform call (next (call i e).2) (call i e).1

namespace Member

variable (m : Member σ n r) (call : Caller σ n r)

def tell (note : Notification) (e : Ensemble σ n r) : Ensemble σ n r :=
  match m.hear note with
  | .recorded j => e.record j note
  | .answered reply => (reply.perform call e).1

def announce (d : Diagnostic) (fatal : Bool) (e : Ensemble σ n r) : Ensemble σ n r :=
  m.tell call (.diagnostic d) (e.count (·.countDiagnostic fatal))

def announceAll (ds : List Diagnostic) (e : Ensemble σ n r) : Ensemble σ n r :=
  ds.foldl (fun e d => m.announce call d false e) e

variable (i : Fin n)

def fail (stage : Stage) (cause : Failure) (e : Ensemble σ n r) : Ensemble σ n r × PassResult :=
  (m.announce call (.at (.failed cause) .start) true (e.put i stage.failedState),
    .failure stage cause)

def finish (code : Text) (e : Ensemble σ n r) : Ensemble σ n r × PassResult :=
  let a := (m.mutateText code).perform call e
  match a.2 with
  | .error f => m.fail call i .render f a.1
  | .ok code => (a.1.put i .outputReady, .code code)

def renderUnit (u : CompileUnit) (e : Ensemble σ n r) : Ensemble σ n r × PassResult :=
  let a := (m.mutateModel u).perform call (e.put i .mutating)
  match a.2 with
  | .error f => m.fail call i .render f a.1
  | .ok u =>
    let b := (m.render u).perform call (a.1.put i .rendering)
    match b.2 with
    | .error f => m.fail call i .render f b.1
    | .ok body => m.finish call i (m.generator.language.wrap body) (m.tell call .complete b.1)

def parseSource (names : UnitNames) (e : Ensemble σ n r) :
    Ensemble σ n r × Except Failure (CompileUnit × List Diagnostic) :=
  let a := m.read.perform call e
  match a.2 with
  | .error f => (a.1, .error f)
  | .ok t => (m.parse names t).perform call a.1

def produce (names : UnitNames) (e : Ensemble σ n r) :
    Ensemble σ n r × Option (List Diagnostic) × PassResult :=
  let a := m.parseSource call names (e.put i .parsing)
  match a.2 with
  | .error f =>
    let failed := m.fail call i .parse f a.1
    (failed.1, none, failed.2)
  | .ok (u, found) =>
    let told := m.tell call .midpoint (m.announceAll call found (a.1.put i .parsed))
    let rendered := m.renderUnit call i u told
    (rendered.1, some found, rendered.2)

def pass (e : Ensemble σ n r) : Ensemble σ n r × Except Failure PassResult :=
  let a := (m.prepare m.generator.context).perform call (e.put i .idle)
  match a.2 with
  | .error f => (a.1.close (.raised i f), .error f)
  | .ok context =>
    let b := m.produce call i (Pass.unitNames m.generator.request.sourcePath context) a.1
    ((b.1.count (·.countPass b.2.2.isSuccess)).close (.returned i b.2.1 b.2.2), .ok b.2.2)

end Member

namespace Ensemble

def idle (busy : List (Fin n)) : List (Fin n) :=
  (List.finRange n).filter fun j => !busy.contains j

theorem idle_cons {busy : List (Fin n)} {i : Fin n}
    (entered : Pass.enter (busy.contains i) = .ok ()) :
    (idle (i :: busy)).length < (idle busy).length := by
  have free : busy.contains i = false := by
    cases given : busy.contains i with
    | false => rfl
    | true =>
      rw [given] at entered
      cases entered
  have fewer : idle (i :: busy) = (idle busy).filter fun j => !(j == i) := by
    simp only [idle, List.filter_filter, List.contains_cons, Bool.not_or]
  rw [fewer, List.length_filter_lt_length_iff_exists]
  exact ⟨i, List.mem_filter.2 ⟨List.mem_finRange i, by rw [free]; rfl⟩, by simp⟩

/-- A call of a generator while `busy` ones are running: those with calls that have not ended. -/
def generate (crew : Fin n → Member σ n r) (busy : List (Fin n)) : Caller σ n r :=
  fun i e =>
    match _entered : Pass.enter (busy.contains i) with
    | .error f => (e.close (.raised i f), .error f)
    | .ok () => (crew i).pass (generate crew (i :: busy)) i e
termination_by (idle busy).length
decreasing_by exact idle_cons _entered

end Ensemble

end TemplateCompiler
