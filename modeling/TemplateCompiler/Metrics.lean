import TemplateCompiler.Text.Case
import TemplateCompiler.Text.Integer
import TemplateCompiler.Failure

/-! Counters: of what passes did, by name, and of requests, by method and by path and status. -/

namespace TemplateCompiler

/-- Counters by name; one that was never counted is absent. -/
abbrev Counters := List (Text × Int)

namespace Counters

def get (cs : Counters) (name : Text) : Int := (cs.lookup name).getD 0

def add (cs : Counters) (name : Text) (amount : Int) : Counters :=
  match cs with
  | [] => [(name, amount)]
  | (n, v) :: rest =>
    if n = name then (n, v + amount) :: rest else (n, v) :: add rest name amount

end Counters

structure Metrics where
  requests : Counters
  named : Counters
deriving DecidableEq, Repr

namespace Metrics

def zero : Metrics := ⟨[], []⟩

def requestsTotal : Text := "requests_total".toList

def methodCounter (method : Text) : Text :=
  "requests_".toList ++ Text.upper (if method.isEmpty then "UNKNOWN".toList else method)

/-- What a request was answered with: none, a whole number or a truth value, which is a number too
but is written as a word. -/
inductive Status where
  | unknown
  | number (n : Int)
  | truth (b : Bool)
deriving DecidableEq, Repr

def Status.word : Status → Except Failure Text
  | unknown => .ok "unknown".toList
  | number n => Failure.writeInteger n
  | truth b => .ok (if b then "True".toList else "False".toList)

def pathCounter (path word : Text) : Text :=
  "path_".toList ++ (if path.isEmpty then ['/'] else path) ++ '|' :: word

def countMethod (m : Metrics) (method : Text) : Metrics :=
  { m with requests := (m.requests.add requestsTotal 1).add (methodCounter method) 1 }

def countAnswer (m : Metrics) (method path word : Text) : Metrics :=
  { m.countMethod method with
    requests := (m.countMethod method).requests.add (pathCounter path word) 1 }

def countRequest (m : Metrics) (method path : Text) (status : Status) :
    Metrics × Except Failure Unit :=
  match status.word with
  | .ok word => (m.countAnswer method path word, .ok ())
  -- The first two counters have been raised when the name of the third cannot be written.
  | .error e => (m.countMethod method, .error e)

def addNamed (m : Metrics) (name : Text) (amount : Int) : Metrics :=
  if name.isEmpty then m else { m with named := m.named.add name amount }

def passCounter (succeeded : Bool) : Text :=
  if succeeded then "generation_success".toList else "generation_failure".toList

def diagnosticCounter (fatal : Bool) : Text :=
  if fatal then "diagnostics_fatal".toList else "diagnostics_recoverable".toList

def countPass (m : Metrics) (succeeded : Bool) : Metrics := m.addNamed (passCounter succeeded) 1

def countDiagnostic (m : Metrics) (fatal : Bool) : Metrics :=
  m.addNamed (diagnosticCounter fatal) 1

def countFound (m : Metrics) : Nat → Metrics
  | 0 => m
  | found + 1 => (m.countDiagnostic false).countFound found

def amountOf : Value → Except Failure Int
  | .bool b => .ok (if b then 1 else 0)
  | .int n => .ok n
  | .text t => Failure.readInteger 10 t
  | .float x =>
    match (Value.float x).number? with
    | some (m, e) => .ok (if 0 ≤ e then m * Nat.pow 2 e.toNat else m.tdiv (Nat.pow 2 (-e).toNat))
    | none => .error .infiniteAmount
  | .nan _ => .error .undefinedAmount
  | _ => .error .misfitArguments

end Metrics

end TemplateCompiler
