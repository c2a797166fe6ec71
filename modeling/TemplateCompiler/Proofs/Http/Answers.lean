import TemplateCompiler.Http.Service
import TemplateCompiler.Proofs.Json.Writing
import TemplateCompiler.Proofs.Pass.Wording

/-! Which answers to a request for code can be sent. JSON has no form for half a character or for a
number of too many digits; every other answer is sent as it is. -/

namespace TemplateCompiler

namespace Value

/-- A value that is sent as it is if it fits, and else has no form in JSON. -/
def SentIf (v : Value) (fits : Bool) : Prop := v.plain? = if fits then some v else none

theorem sentIf_text (t : Text) : (text t).SentIf t.isWhole := by
  rw [SentIf, plain?, plainText?]

theorem sentIf_int (n : Int) : (int n).SentIf (!isLongInteger n) := by
  rw [SentIf, plain?]
  cases isLongInteger n <;> rfl

theorem sentIf_bool (b : Bool) : (bool b).SentIf true := rfl

theorem sentIf_null : null.SentIf true := rfl

theorem sentIf_list {α : Type} {item : α → Value} {fits : α → Bool} {xs : List α}
    (each : ∀ x ∈ xs, (item x).SentIf (fits x)) : (list (xs.map item)).SentIf (xs.all fits) := by
  have items : plainItems? (xs.map item) = if xs.all fits then some (xs.map item) else none := by
    induction xs with
    | nil => rfl
    | cons x xs ih =>
      obtain ⟨first, others⟩ := List.forall_mem_cons.1 each
      rw [List.map_cons, plainItems?, first, ih others, List.all_cons]
      cases fits x <;> cases xs.all fits <;> rfl
  rw [SentIf, plain?, items]
  cases xs.all fits <;> rfl

end Value

namespace Http

open Value

def NamesFit (names : List String) : Prop :=
  (names.map String.toList).Nodup ∧
    ∀ name ∈ names, Text.isWhole name.toList = true ∧
      Value.isHidden (.text name.toList) = false

instance (names : List String) : Decidable (NamesFit names) :=
  inferInstanceAs (Decidable (_ ∧ _))

inductive FieldsSentIf : List (String × Value) → Bool → Prop where
  | nil : FieldsSentIf [] true
  | cons (name : String) {v : Value} {fits rest : Bool} {fields : List (String × Value)}
      (first : v.SentIf fits) (others : FieldsSentIf fields rest) :
      FieldsSentIf ((name, v) :: fields) (fits && rest)

theorem FieldsSentIf.plainFields {fields : List (String × Value)} {fits : Bool}
    (each : FieldsSentIf fields fits)
    (names : ∀ name ∈ fields.map Prod.fst, Text.isWhole name.toList = true ∧
      Value.isHidden (.text name.toList) = false) :
    plainFields? (fields.map fun f => (.text f.1.toList, f.2)) =
      if fits then some (fields.map fun f => (.text f.1.toList, f.2)) else none := by
  induction each with
  | nil => rfl
  | @cons name v fits rest fields first others ih =>
    obtain ⟨⟨whole, shown⟩, later⟩ := List.forall_mem_cons.1 names
    have key : plain? (.text name.toList) = some (.text name.toList) := by
      rw [plain?, plainText?, if_pos whole]
    rw [List.map_cons, plainFields?, if_neg (by simp [shown]), plainField?, key, first, ih later]
    cases fits <;> cases rest <;> rfl

theorem FieldsSentIf.append {fields more : List (String × Value)} {fits rest : Bool}
    (each : FieldsSentIf fields fits) (others : FieldsSentIf more rest) :
    FieldsSentIf (fields ++ more) (fits && rest) := by
  induction each with
  | nil => exact others
  | cons name first _ ih =>
    rw [Bool.and_assoc]
    exact .cons name first ih

theorem entries_eq_fields (fields : List (String × Value)) :
    (fields.map fun f => (Value.text f.1.toList, f.2)) =
      Json.fields (fields.map fun f => (f.1.toList, f.2)) := by
  rw [Json.fields, List.map_map]
  rfl

theorem field?_object (key : Text) (fields : List (String × Value)) :
    (object fields).field? key = (fields.map fun f => (f.1.toList, f.2)).lookup key := by
  rw [object, entries_eq_fields, Json.field?_fields]

theorem sentIf_object {fields : List (String × Value)} {fits : Bool}
    (each : FieldsSentIf fields fits) (names : NamesFit (fields.map Prod.fst)) :
    (object fields).SentIf fits := by
  have distinct : ((fields.map fun f => (f.1.toList, f.2)).map Prod.fst).Nodup := by
    have apart := names.1
    rwa [List.map_map] at apart ⊢
  rw [Value.SentIf, object, plain?, each.plainFields names.2, entries_eq_fields]
  cases fits with
  | false => rfl
  | true => exact congrArg (fun es => some (Value.map es)) (Json.foldl_fields distinct)

/-- Whether the place of a diagnostic can be written: neither number has too many digits. -/
def isPlaced (d : Diagnostic) : Bool := !isLongInteger d.line && !isLongInteger d.column

theorem isLongInteger_of_small {n : Int} (small : n.natAbs ≤ 14000) : isLongInteger n = false := by
  have log : ¬ 14000 < n.natAbs.log2 := by
    have := Nat.log2_le_self n.natAbs
    omega
  simp [isLongInteger, log]

theorem sentIf_diagnostic {d : Diagnostic} (told : d.problem.Told) :
    (diagnosticValue d).SentIf (isPlaced d) := by
  have names : NamesFit ["code", "message", "line", "column"] := by decide
  have whole : d.message.isWhole = true := told.isWhole_message
  have code : isLongInteger d.code = false :=
    isLongInteger_of_small (told.code_le.trans (by decide))
  have fields : (diagnosticValue d).SentIf _ := sentIf_object (.cons "code" (sentIf_int d.code)
    (.cons "message" (sentIf_text d.message) (.cons "line" (sentIf_int d.line)
      (.cons "column" (sentIf_int d.column) .nil)))) names
  rw [code, whole] at fields
  simpa only [Bool.not_false, Bool.true_and, Bool.and_true, isPlaced] using fields

theorem sentIf_progress {p : Nat × Nat} (known : p ∈ [(50, 100), (100, 100)]) :
    (progressValue p).SentIf true := by
  have names : NamesFit ["completed", "total"] := by decide
  have small : p.1 ≤ 100 ∧ p.2 ≤ 100 := by
    revert p
    decide
  have fields : (progressValue p).SentIf _ := sentIf_object (.cons "completed" (sentIf_int p.1)
    (.cons "total" (sentIf_int p.2) .nil)) names
  rwa [isLongInteger_of_small (by omega), isLongInteger_of_small (by omega)] at fields

def codeFits : PassResult → Bool
  | .code code => code.isWhole
  | .failure .. => true

theorem sentIf_result {result : PassResult}
    (told : ∀ stage f, result = .failure stage f → f.Told) :
    FieldsSentIf (resultFields result) (codeFits result) := by
  cases result with
  | code code =>
    have fields := FieldsSentIf.cons "ok" (sentIf_bool true)
      (.cons "code" (sentIf_text code) (.cons "failure" sentIf_null .nil))
    rwa [Bool.true_and, Bool.and_true, Bool.and_true] at fields
  | failure stage cause =>
    have names : NamesFit ["stage", "message"] := by decide
    have stated : stage.name.isWhole = true := by cases stage <;> rfl
    have whole : cause.report.isWhole = true := told stage cause rfl
    have failure := sentIf_object (.cons "stage" (sentIf_text stage.name)
      (.cons "message" (sentIf_text cause.report) .nil)) names
    rw [stated, whole] at failure
    exact .cons "ok" (sentIf_bool false) (.cons "code" sentIf_null (.cons "failure" failure .nil))

/-- Whether the answer about a pass has a form in JSON: there is no half character in the code, and
no place of too many digits. -/
def hasForm (result : PassResult) (ns : List Notification) : Bool :=
  codeFits result && (Notification.diagnostics ns).all isPlaced

theorem sentIf_pass {result : PassResult} {ns : List Notification}
    (told : ∀ stage f, result = .failure stage f → f.Told)
    (worded : ∀ d ∈ Notification.diagnostics ns, d.problem.Told)
    (known : Notification.progressSteps ns ⊆ [(50, 100), (100, 100)]) :
    (passValue result ns).SentIf (hasForm result ns) := by
  have diagnostics : (Value.list ((Notification.diagnostics ns).map diagnosticValue)).SentIf
      ((Notification.diagnostics ns).all isPlaced) :=
    sentIf_list fun d inside => sentIf_diagnostic (worded d inside)
  have progress : (Value.list ((Notification.progressSteps ns).map progressValue)).SentIf true := by
    have each := sentIf_list fun p inside => sentIf_progress (known inside)
    rwa [List.all_eq_true.2 fun _ _ => rfl] at each
  have names : NamesFit ((resultFields result ++
      [("diagnostics", Value.list ((Notification.diagnostics ns).map diagnosticValue)),
        ("progress", Value.list ((Notification.progressSteps ns).map
          progressValue))]).map Prod.fst) := by
    have listed : NamesFit ["ok", "code", "failure", "diagnostics", "progress"] := by decide
    cases result <;> exact listed
  have fields := sentIf_object ((sentIf_result told).append
    (.cons "diagnostics" diagnostics (.cons "progress" progress .nil))) names
  rwa [Bool.and_true, Bool.and_true] at fields

theorem sentIf_run {g : Generator} {files : FileTree} {template : Text}
    (read : g.source.read files g.request.sourcePath = .ok template)
    (chain : Chain Customization) :
    let run := g.run (Chain.hooks Customization.hooks) files chain
    ∃ result, run.result = .ok result ∧
      (passValue result run.notifications).SentIf (hasForm result run.notifications) := by
  rcases Generator.reports_of_run read chain with ⟨code, reports⟩ | ⟨f, told, reports⟩
  · refine ⟨_, reports.result, sentIf_pass (fun _ _ failed => nomatch failed) ?_ reports.progress⟩
    rw [reports.diagnostics]
    exact fun d inside => Template.told_of_mem inside
  · refine ⟨_, reports.result, sentIf_pass ?_ ?_ reports.progress⟩
    · rintro _ _ ⟨⟩
      exact told
    · rw [reports.diagnostics]
      intro d inside
      rcases List.mem_append.1 inside with found | fatal
      · exact Template.told_of_mem found
      · cases List.mem_singleton.1 fatal
        exact told

theorem sendable_of_sentIf {status : Nat} {v : Value} {fits : Bool} (form : v.SentIf fits) :
    sendable (.ok (status, v)) = if fits then .ok (status, v) else .error .unwritableResponse := by
  rw [Value.SentIf] at form
  simp only [sendable, Except.bind, writable, form]
  cases fits <;> rfl

section Refused

theorem covers_codeOf (c : Char) :
    EncodeReason.loneSurrogate.covers (Text.codeOf c) = (Text.surrogate? c).isSome := by
  rw [EncodeReason.covers, Text.codeOf]
  cases half : Text.surrogate? c with
  | none =>
    have valid := c.valid
    have number : c.toNat = c.val.toNat := rfl
    simp only [UInt32.isValidChar, Nat.isValidChar] at valid
    simp only [Text.isSurrogateCode, Option.getD_none, Option.isSome_none, Bool.and_eq_false_iff,
      decide_eq_false_iff_not]
    omega
  | some n =>
    unfold Text.surrogate? Text.surrogateBase at half
    split at half <;> cases half
    simp only [Text.isSurrogateCode, Option.getD_some, Option.isSome_some, Bool.and_eq_true,
      decide_eq_true_eq]
    simp_all
    omega

theorem checkEncodable_eq_ok_iff {t : Text} :
    Failure.checkEncodable .loneSurrogate (fun _ => false) t = .ok () ↔ t.isWhole = true := by
  have behind (numbers : List Nat) (p : Nat → Bool) :
      numbers.drop (numbers.takeWhile p).length = numbers.dropWhile p := by
    have both := List.takeWhile_append_dropWhile (p := p) (l := numbers)
    calc numbers.drop (numbers.takeWhile p).length
        = (numbers.takeWhile p ++ numbers.dropWhile p).drop (numbers.takeWhile p).length := by
          rw [both]
      _ = numbers.dropWhile p := List.drop_left
  simp only [Failure.checkEncodable, Bool.or_false, behind]
  have stops := List.head?_dropWhile_not (fun n => !EncodeReason.loneSurrogate.covers n)
    (t.map Text.codeOf)
  have apart := List.dropWhile_sublist (fun n => !EncodeReason.loneSurrogate.covers n)
    (l := t.map Text.codeOf)
  cases rest : (t.map Text.codeOf).dropWhile fun n => !EncodeReason.loneSurrogate.covers n with
  | nil =>
    rw [List.dropWhile_eq_nil_iff, List.forall_mem_map] at rest
    refine iff_of_true rfl (List.all_eq_true.2 fun c inside => ?_)
    simpa [covers_codeOf] using rest c inside
  | cons n ns =>
    rw [rest] at stops apart
    obtain ⟨c, inside, rfl⟩ := List.mem_map.1 (apart.mem List.mem_cons_self)
    have half : (Text.surrogate? c).isSome = true := by
      simpa [covers_codeOf] using stops
    rw [List.takeWhile_cons, (covers_codeOf c).trans half, if_pos rfl]
    refine iff_of_false (fun sent => nomatch sent) fun whole => ?_
    have not_half := List.all_eq_true.1 whole c inside
    rw [Option.isNone_iff_eq_none.1 not_half] at half
    cases half

theorem isWhole_escapeControl (c : Char) :
    (Json.escapeControl c).isWhole = (Text.surrogate? c).isNone := by
  have letters : Json.controlLetters.all (fun e =>
      Text.isWhole ['\\', e.2] == (Text.surrogate? e.1).isNone) = true := by decide
  unfold Json.escapeControl
  split
  · next special => rcases special with rfl | rfl <;> rfl
  split
  · next letter found =>
    obtain ⟨front, back, split, -⟩ := List.lookup_eq_some_iff.1 found
    exact beq_iff_eq.1 (List.all_eq_true.1 letters (c, letter) (by simp [split]))
  split
  · next low =>
    have number : Text.isWhole ("\\u".toList ++ Text.hex 4 c.toNat) = true := by
      rw [Text.isWhole_append, Text.isWhole_hex]
      rfl
    rw [number, Text.surrogate?_eq_none (by rw [Text.surrogateBase]; omega)]
    rfl
  · rw [Text.isWhole_cons]
    exact Bool.and_true _

theorem isWhole_detailStart (message : Text) :
    (detailStart message).isWhole = message.isWhole := by
  have start : Text.isWhole "\x7b\"detail\":\"".toList = true := by decide
  have escaped : Text.isWhole (message.flatMap Json.escapeControl) = message.isWhole := by
    induction message with
    | nil => rfl
    | cons c message ih =>
      rw [List.flatMap_cons, Text.isWhole_append, ih, isWhole_escapeControl, Text.isWhole_cons]
  calc (detailStart message).isWhole
      = (Text.isWhole "\x7b\"detail\":\"".toList &&
          Text.isWhole (message.flatMap Json.escapeControl)) := Text.isWhole_append _ _
    _ = message.isWhole := (congrArg (· && _) start).trans escaped

def refusal (id : Text) (f : Failure) : Response :=
  ⟨400, object [("detail", .text f.message), ("error", .text (configurationCode f)),
    ("request_id", .text id)], none, none⟩

theorem failureResponse_whole {id : Text} {f : Failure} (asked : f.isConfiguration = true)
    (whole : f.message.isWhole = true) : failureResponse id f = .ok (refusal id f) := by
  rw [← isWhole_detailStart] at whole
  rw [failureResponse, if_pos asked, checkEncodable_eq_ok_iff.2 whole]
  rfl

theorem failureResponse_broken {id : Text} {f : Failure} (asked : f.isConfiguration = true)
    (broken : f.message.isWhole = false) : ∃ g, failureResponse id f = .error g := by
  have checked : Failure.checkEncodable .loneSurrogate (fun _ => false) (detailStart f.message) ≠
      .ok () := by
    rw [Ne, checkEncodable_eq_ok_iff, isWhole_detailStart, broken]
    exact Bool.false_ne_true
  rw [failureResponse, if_pos asked]
  cases sent : Failure.checkEncodable .loneSurrogate (fun _ => false) (detailStart f.message) with
  | ok u => exact absurd sent checked
  | error g => exact ⟨g, rfl⟩

end Refused

end Http

end TemplateCompiler
