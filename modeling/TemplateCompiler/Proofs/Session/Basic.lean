import TemplateCompiler.Session

/-! What a pass leaves alone in a session, and what a run of passes adds to the recorders. -/

namespace TemplateCompiler.Session

variable {τ ν : Type} {m r n : Nat}

/-- What passes reported to a recorder of the session, in the order of the passes. -/
def heard (s : Session τ m r n) (j : Fin r) (log : List (Fin n × PassRun τ ν)) :
    List Notification :=
  (log.filter fun e => (s.station e.1).recorder = some j).flatMap fun e => e.2.notifications

theorem heard_singleton (s : Session τ m r n) (j : Fin r) (i : Fin n) (p : PassRun τ ν) :
    s.heard j [(i, p)] = if (s.station i).recorder = some j then p.notifications else [] := by
  simp only [heard, List.filter_cons, List.filter_nil, decide_eq_true_eq]
  split
  · exact List.append_nil _
  · rfl

theorem get_reported (rs : Vector Recorder r) (hearer : Option (Fin r))
    (ns : List Notification) (j : Fin r) :
    (reported rs hearer ns).get j =
      if hearer = some j then (rs.get j).noteAll ns else rs.get j := by
  cases hearer with
  | none => rfl
  | some a =>
    change (rs.set a (rs[a].noteAll ns))[j] = if some a = some j then rs[j].noteAll ns else rs[j]
    by_cases same : a = j
    · subst same
      simp
    · have apart : a.val ≠ j.val := fun h => same (Fin.ext h)
      simp [same, apart]

section settle

variable (s : Session τ m r n) (i j : Fin n) (p : PassRun τ ν)

theorem settle_station :
    (s.settle i p).station j =
      { s.station j with state := if i = j then p.state else (s.station j).state } := by
  by_cases same : i = j
  · subst same
    simp [settle, station]
  · have apart : i.val ≠ j.val := fun h => same (Fin.ext h)
    simp [settle, station, same, apart]

@[simp] theorem settle_generator :
    ((s.settle i p).station j).generator = (s.station j).generator := by
  rw [settle_station]

@[simp] theorem settle_customization :
    ((s.settle i p).station j).customization = (s.station j).customization := by
  rw [settle_station]

@[simp] theorem settle_recorder :
    ((s.settle i p).station j).recorder = (s.station j).recorder := by
  rw [settle_station]

@[simp] theorem settle_state : ((s.settle i p).station i).state = p.state := by
  rw [settle_station, if_pos rfl]

theorem settle_customizations (a : Fin m) :
    (s.settle i p).customization a =
      if (s.station i).customization = a then p.after else s.customization a := by
  simp [settle, customization, Vector.getElem_set, Fin.ext_iff]

theorem settle_recorders (a : Fin r) :
    (s.settle i p).recorder a = (s.recorder a).noteAll (s.heard a [(i, p)]) := by
  change (reported s.recorders (s.station i).recorder p.notifications).get a = _
  rw [get_reported, heard_singleton]
  split <;> rfl

end settle

section run

variable (h : Hooks τ ν) (s : Session τ m r n) (calls : List (Call n))

theorem run_append (more : List (Call n)) :
    s.run h (calls ++ more) =
      (((s.run h calls).1.run h more).1, (s.run h calls).2 ++ ((s.run h calls).1.run h more).2) := by
  induction calls generalizing s with
  | nil => rfl
  | cons c calls ih => simp only [List.cons_append, run, ih]

@[simp] theorem run_generator (j : Fin n) :
    ((s.run h calls).1.station j).generator = (s.station j).generator := by
  induction calls generalizing s with
  | nil => rfl
  | cons c calls ih => rw [run, ih, settle_generator]

@[simp] theorem run_customization (j : Fin n) :
    ((s.run h calls).1.station j).customization = (s.station j).customization := by
  induction calls generalizing s with
  | nil => rfl
  | cons c calls ih => rw [run, ih, settle_customization]

theorem heard_append (a : Fin r) (first second : List (Fin n × PassRun τ ν)) :
    s.heard a (first ++ second) = s.heard a first ++ s.heard a second := by
  simp only [heard, List.filter_append, List.flatMap_append]

theorem settle_heard (i : Fin n) (p : PassRun τ ν) (a : Fin r)
    (log : List (Fin n × PassRun τ ν)) : (s.settle i p).heard a log = s.heard a log := by
  simp only [heard, settle_recorder]

theorem run_recorders (a : Fin r) :
    (s.run h calls).1.recorder a = (s.recorder a).noteAll (s.heard a (s.run h calls).2) := by
  induction calls generalizing s with
  | nil => rfl
  | cons c calls ih =>
    rw [run, ih, settle_recorders, settle_heard, Recorder.noteAll_append, ← heard_append]
    rfl

end run

end TemplateCompiler.Session
