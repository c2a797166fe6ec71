import TemplateCompiler.Proofs.Language.Quoting
import TemplateCompiler.Proofs.Metrics.Counters
import TemplateCompiler.Proofs.Text.Trim

/-! The counters of requests after any calls. The counters of methods come to the number of calls,
those of paths and statuses to the number of calls whose status can be written. Each of them is the
number of calls that share its method, or its path and its status: the names of counters tell these
apart, whatever characters they have. -/

namespace TemplateCompiler

theorem lt_log2_of_pow_le {k n : Nat} (reaches : Nat.pow 2 (k + 1) ≤ n) : k < n.log2 := by
  have filled : n ≠ 0 := (Nat.lt_of_lt_of_le (Nat.two_pow_pos (k + 1)) reaches).ne'
  exact (Nat.le_log2 filled).2 reaches

theorem Value.isLongInteger_iff (n : Int) :
    isLongInteger n = true ↔ Nat.pow 10 Text.digitLimit ≤ n.natAbs := by
  have guard : Nat.pow 2 (14000 + 1) ≤ Nat.pow 10 Text.digitLimit := by decide +kernel
  rw [isLongInteger, Bool.and_eq_true, decide_eq_true_eq, decide_eq_true_eq]
  exact and_iff_right_of_imp fun long => @lt_log2_of_pow_le 14000 n.natAbs (guard.trans long)

namespace Metrics

section Words

/-- Whether a status can be written, in the name of a counter as elsewhere. -/
def Status.isWritable (status : Status) : Bool := status.word.isOk

/-- The whole number that a status is equal to: a truth value is one, too. -/
def Status.value? : Status → Option Int
  | unknown => none
  | number n => some n
  | truth b => some (if b then 1 else 0)

def Status.ofWord (word : Text) : Status :=
  match Text.integer? word with
  | some n => number n
  | none =>
    if word = "True".toList then truth true
    else if word = "False".toList then truth false
    else unknown

theorem Status.word_number {n : Int} {word : Text} (written : (number n).word = .ok word) :
    word = Text.ofInt n := by
  rw [Status.word, Failure.writeInteger] at written
  split at written
  · cases written
  · exact (Except.ok.inj written).symm

theorem Status.word_long {n : Int} (long : Value.isLongInteger n = true) :
    (number n).word = .error .unwritableInteger := if_pos long

theorem Status.isWritable_number (n : Int) :
    (number n).isWritable = true ↔ n.natAbs < Nat.pow 10 Text.digitLimit := by
  have long := Value.isLongInteger_iff n
  rw [Status.isWritable, Status.word, Failure.writeInteger]
  split
  · next reached => exact iff_of_false Bool.false_ne_true (Nat.not_lt.2 (long.1 reached))
  · next short => exact iff_of_true rfl (Nat.not_le.1 fun reached => short (long.2 reached))

theorem Status.word_free {status : Status} {word : Text} (written : status.word = .ok word) :
    '|' ∉ word := by
  cases status with
  | unknown => exact Except.ok.inj written ▸ (by decide)
  | number n =>
    rw [Status.word_number written]
    exact fun inside => bne_iff_ne.1 (Text.ofInt_apart n (by decide) (by decide) _ inside) rfl
  | truth b => exact Except.ok.inj written ▸ (by cases b <;> decide)

theorem Status.ofWord_word {status : Status} {word : Text} (written : status.word = .ok word) :
    ofWord word = status := by
  cases status with
  | unknown => exact Except.ok.inj written ▸ rfl
  | number n => rw [Status.word_number written, ofWord, Text.integer?_ofInt]
  | truth b => exact Except.ok.inj written ▸ (by cases b <;> rfl)

end Words

section Names

def methodName (method : Text) : Text :=
  Text.upper (if method.isEmpty then "UNKNOWN".toList else method)

def pathName (path : Text) : Text := if path.isEmpty then ['/'] else path

def isOfMethod (name : Text) : Bool :=
  "requests_".toList.isPrefixOf name && name != requestsTotal

def isOfPath (name : Text) : Bool := "path_".toList.isPrefixOf name

theorem methodCounter_eq (method : Text) :
    methodCounter method = "requests_".toList ++ methodName method := rfl

theorem pathCounter_eq (path word : Text) :
    pathCounter path word = "path_".toList ++ (pathName path ++ '|' :: word) :=
  List.append_assoc ..

theorem methodCounter_inj {method other : Text} :
    methodCounter method = methodCounter other ↔ methodName method = methodName other := by
  rw [methodCounter_eq, methodCounter_eq, List.append_cancel_left_eq]

theorem pathCounter_inj {path other : Text} {status status' : Status} {word word' : Text}
    (written : status.word = .ok word) (written' : status'.word = .ok word') :
    pathCounter path word = pathCounter other word' ↔
      pathName path = pathName other ∧ status = status' := by
  rw [pathCounter_eq, pathCounter_eq, List.append_cancel_left_eq,
    Text.append_separator_inj (Status.word_free written) (Status.word_free written')]
  refine and_congr_right fun _ => ⟨fun same => ?_, fun same => ?_⟩
  · rw [← Status.ofWord_word written, same, Status.ofWord_word written']
  · rw [same, written'] at written
    exact (Except.ok.inj written).symm

theorem isOfMethod_method (method : Text) : isOfMethod (methodCounter method) = true := by
  have starts : "requests_".toList.isPrefixOf (methodCounter method) = true :=
    List.isPrefixOf_iff_prefix.2 (List.prefix_append _ _)
  rw [isOfMethod, starts, Bool.true_and]
  exact bne_iff_ne.2 (methodCounter_ne_total method)

theorem isOfMethod_path (path word : Text) : isOfMethod (pathCounter path word) = false := rfl

theorem isOfPath_path (path word : Text) : isOfPath (pathCounter path word) = true :=
  List.isPrefixOf_iff_prefix.2 (pathCounter_eq path word ▸ List.prefix_append _ _)

theorem isOfPath_method (method : Text) : isOfPath (methodCounter method) = false := rfl

end Names

/-- A request that is counted. -/
structure Hit where
  method : Text
  path : Text
  status : Status
deriving DecidableEq, Repr

/-- The counter of a request's path and status, if the status can be written. -/
def Hit.pathCounter? (h : Hit) : Option Text :=
  h.status.word.toOption.map (pathCounter h.path)

def Hit.counters (h : Hit) : List Text :=
  requestsTotal :: methodCounter h.method :: h.pathCounter?.toList

def count (m : Metrics) (h : Hit) : Metrics := (m.countRequest h.method h.path h.status).1

def countAll (m : Metrics) (hits : List Hit) : Metrics := hits.foldl count m

section Runs

variable (m : Metrics) (hits : List Hit) (h : Hit)

theorem countRequest_failed (method path : Text) {status : Status} {e : Failure}
    (unwritable : status.word = .error e) :
    m.countRequest method path status = (m.countMethod method, .error e) := by
  rw [countRequest, unwritable]

theorem countRequest_outcome :
    (m.countRequest h.method h.path h.status).2 = .ok () ↔ h.status.isWritable = true := by
  unfold countRequest Status.isWritable
  cases h.status.word with
  | ok word => exact iff_of_true rfl rfl
  | error e =>
    refine iff_of_false (fun same => ?_) Bool.false_ne_true
    cases same

theorem count_requests : (m.count h).requests = m.requests.raise h.counters := by
  unfold count countRequest Hit.counters Hit.pathCounter?
  cases h.status.word <;> rfl

theorem countAll_requests :
    (m.countAll hits).requests = m.requests.raise (hits.flatMap Hit.counters) := by
  induction hits generalizing m with
  | nil => rfl
  | cons h hits ih =>
    rw [countAll, List.foldl_cons, ← countAll, ih, count_requests, List.flatMap_cons,
      Counters.raise_append]

theorem Hit.mem_counters {name : Text} :
    name ∈ h.counters ↔
      name = requestsTotal ∨ name = methodCounter h.method ∨ h.pathCounter? = some name := by
  simp only [counters, List.mem_cons, Option.mem_toList]

theorem Hit.counters_nodup : h.counters.Nodup := by
  unfold counters pathCounter?
  cases h.status.word with
  | ok word => exact requestCounters_nodup h.method h.path word
  | error e =>
    exact (requestCounters_nodup h.method h.path []).sublist (List.prefix_append _ [_]).sublist

theorem countP_counters {kind : Text → Bool} {raises : Hit → Bool}
    (each : ∀ h : Hit, h.counters.countP kind = if raises h then 1 else 0) :
    (hits.flatMap Hit.counters).countP kind = hits.countP raises := by
  induction hits with
  | nil => rfl
  | cons h hits ih =>
    rw [List.flatMap_cons, List.countP_append, List.countP_cons, each, ih, Nat.add_comm]

theorem countP_isOfMethod : h.counters.countP isOfMethod = 1 := by
  have total : isOfMethod requestsTotal = false := by decide
  unfold Hit.counters Hit.pathCounter?
  cases h.status.word <;>
    simp [Except.toOption, total, isOfMethod_method, isOfMethod_path]

theorem countP_isOfPath :
    h.counters.countP isOfPath = if h.status.isWritable then 1 else 0 := by
  have total : isOfPath requestsTotal = false := by decide
  unfold Hit.counters Hit.pathCounter? Status.isWritable
  cases h.status.word <;>
    simp [Except.toOption, Except.isOk, Except.toBool, total, isOfPath_method, isOfPath_path]

theorem get_countAll (name : Text) :
    (m.countAll hits).requests.get name =
      m.requests.get name + hits.countP fun h => name ∈ h.counters := by
  rw [countAll_requests, Counters.get_raise, List.count, countP_counters]
  intro h
  rw [← List.count, h.counters_nodup.count]
  simp only [decide_eq_true_eq]

theorem Hit.pathCounter?_ne_method (method : Text) :
    h.pathCounter? ≠ some (methodCounter method) := by
  unfold pathCounter?
  intro same
  obtain ⟨word, -, named⟩ := Option.map_eq_some_iff.1 same
  exact pathCounter_ne_method h.path word method named

theorem Hit.pathCounter?_eq_some {path word : Text} {status : Status}
    (written : status.word = .ok word) :
    h.pathCounter? = some (pathCounter path word) ↔
      pathName h.path = pathName path ∧ h.status = status := by
  unfold Hit.pathCounter?
  cases own : h.status.word with
  | ok word' => exact (Option.some_inj).trans (pathCounter_inj own written)
  | error e =>
    refine iff_of_false (Option.some_ne_none _).symm ?_
    rintro ⟨-, same⟩
    rw [same, written] at own
    cases own

end Runs

/-- The counters of requests that were all at zero, after any calls. Their total and what the
counters of methods come to are the number of calls, and what those of paths come to is the number
of calls whose status can be written: the others fail. A number can be written if it has no more
digits than the limit. Each counter belongs to a call and counts the calls with the
same method, or the same path and the same status: different ones never share a counter. -/
theorem requests_counted (hits : List Hit) :
    let cs := (zero.countAll hits).requests
    cs.get requestsTotal = hits.length ∧
      cs.sumOver isOfMethod = hits.length ∧
      cs.sumOver isOfPath = hits.countP (fun h => h.status.isWritable) ∧
      (∀ (m : Metrics) (h : Hit),
        (m.countRequest h.method h.path h.status).2 = .ok () ↔ h.status.isWritable = true) ∧
      (∀ n, (Status.number n).isWritable = true ↔ n.natAbs < Nat.pow 10 Text.digitLimit) ∧
      (∀ method, cs.get (methodCounter method) =
        hits.countP fun h => methodName h.method = methodName method) ∧
      (∀ path status word, Status.word status = .ok word →
        cs.get (pathCounter path word) =
          hits.countP fun h => pathName h.path = pathName path ∧ h.status = status) ∧
      (∀ method other,
        methodCounter method = methodCounter other ↔ methodName method = methodName other) ∧
      (∀ path other status status' word word',
        Status.word status = .ok word → Status.word status' = .ok word' →
          (pathCounter path word = pathCounter other word' ↔
            pathName path = pathName other ∧ status = status')) ∧
      cs.keys.Nodup ∧
      ∀ entry ∈ cs, entry.2 = cs.get entry.1 ∧ ∃ h ∈ hits, entry.1 ∈ h.counters := by
  intro cs
  have raised : cs = Counters.raise [] (hits.flatMap Hit.counters) := zero.countAll_requests hits
  have counted (name : Text) : cs.get name = hits.countP fun h => name ∈ h.counters :=
    (get_countAll zero hits name).trans (Int.zero_add _)
  have summed (kind : Text → Bool) :
      cs.sumOver kind = (hits.flatMap Hit.counters).countP kind := by
    rw [raised, Counters.sumOver_raise]
    exact Int.zero_add _
  have distinct : cs.keys.Nodup := by
    have none : Counters.keys [] = [] := rfl
    rw [raised]
    exact Counters.nodup_keys_raise (none ▸ List.nodup_nil) _
  refine ⟨?_, ?_, ?_, countRequest_outcome, Status.isWritable_number, fun method => ?_,
    fun path status word written => ?_, fun _ _ => methodCounter_inj,
    fun _ _ _ _ _ _ => pathCounter_inj, distinct,
    fun entry inside => ⟨(Counters.get_of_mem distinct inside).symm, ?_⟩⟩
  · rw [counted]
    simp [Hit.mem_counters]
  · have one (h : Hit) : h.counters.countP isOfMethod = if true then 1 else 0 :=
      countP_isOfMethod h
    rw [summed, countP_counters hits one, List.countP_true]
  · rw [summed, countP_counters hits countP_isOfPath]
  · rw [counted]
    refine congrArg Nat.cast (List.countP_congr fun h _ => ?_)
    simp only [decide_eq_true_eq]
    rw [h.mem_counters, or_iff_right (methodCounter_ne_total method),
      or_iff_left (h.pathCounter?_ne_method method), methodCounter_inj, eq_comm]
  · rw [counted]
    refine congrArg Nat.cast (List.countP_congr fun h _ => ?_)
    simp only [decide_eq_true_eq]
    rw [h.mem_counters, or_iff_right (pathCounter_ne_total path word),
      or_iff_right (pathCounter_ne_method path word _), h.pathCounter?_eq_some written]
  · have key : entry.1 ∈ cs.keys := List.mem_map_of_mem inside
    rw [raised, Counters.mem_keys_raise] at key
    exact List.mem_flatMap.1 (key.resolve_left List.not_mem_nil)

/-- A status with too many digits is counted in all and under its method, and its path is not: the
call fails. Two calls with the same number for a status, one of them a truth value, are counted
apart. -/
theorem requests_counted_unevenly :
    let long := zero.countRequest "GET".toList ['/'] (.number (Nat.pow 10 4300))
    let same : List Hit := [⟨"GET".toList, ['/'], .truth true⟩, ⟨"GET".toList, ['/'], .number 1⟩]
    (long.2 = .error .unwritableInteger ∧ long.1.requests.get requestsTotal = 1 ∧
        long.1.requests.sumOver isOfMethod = 1 ∧ long.1.requests.sumOver isOfPath = 0) ∧
      same.countP (fun h => h.status.value? = some 1) = 2 ∧
        (zero.countAll same).requests.get (pathCounter ['/'] ['1']) = 1 := by
  have long : Value.isLongInteger (Nat.pow 10 4300 : Nat) = true := by decide +kernel
  have failed := zero.countRequest_failed "GET".toList ['/'] (Status.word_long long)
  refine ⟨?_, by decide, by decide +kernel⟩
  rw [failed]
  decide +kernel

end Metrics

end TemplateCompiler
