import TemplateCompiler.Workspace

/-! Generators at work side by side. Each runs any number of passes, one at a time; several may
share a customization, and several may report to one recorder. -/

namespace TemplateCompiler

/-- What passes reported: each channel by itself, and both in the order in which they came. -/
structure Recorder where
  diagnostics : List Diagnostic
  progress : List (Nat × Nat)
  timeline : List Notification

namespace Recorder

def empty : Recorder := ⟨[], [], []⟩

def note (r : Recorder) (n : Notification) : Recorder :=
  match n with
  | .diagnostic d =>
    { r with diagnostics := r.diagnostics ++ [d], timeline := r.timeline ++ [n] }
  | .progress completed total =>
    { r with progress := r.progress ++ [(completed, total)], timeline := r.timeline ++ [n] }

def noteAll (r : Recorder) (ns : List Notification) : Recorder := ns.foldl note r

theorem noteAll_append (r : Recorder) (ns more : List Notification) :
    (r.noteAll ns).noteAll more = r.noteAll (ns ++ more) :=
  (List.foldl_append ..).symm

theorem noteAll_eq (r : Recorder) (ns : List Notification) :
    r.noteAll ns = ⟨r.diagnostics ++ Notification.diagnostics ns,
      r.progress ++ Notification.progressSteps ns, r.timeline ++ ns⟩ := by
  induction ns generalizing r with
  | nil => simp [noteAll, Notification.diagnostics, Notification.progressSteps]
  | cons n ns ih =>
    have h : r.noteAll (n :: ns) = (r.note n).noteAll ns := rfl
    rw [h, ih]
    cases n <;> simp [note, Notification.diagnostics, Notification.progressSteps]

end Recorder

/-- A generator with the customization it uses and the recorder it reports to, if to any, and
where its last pass ended. -/
structure Station (m r : Nat) where
  generator : Generator
  customization : Fin m
  recorder : Option (Fin r)
  state : PassState

/-- `m` customizations, `r` recorders and `n` generators that use them. -/
structure Session (τ : Type) (m r n : Nat) where
  workspace : Workspace
  customizations : Vector τ m
  recorders : Vector Recorder r
  stations : Vector (Station m r) n

/-- One pass that is asked for: of which station, and what takes part in it besides the
customization. -/
structure Call (n : Nat) where
  station : Fin n
  collaborators : Collaborators

namespace Session

variable {τ ν : Type} {m r n : Nat}

def empty : Session τ 0 0 0 := ⟨.empty, #v[], #v[], #v[]⟩

def addCustomization (s : Session τ m r n) (t : τ) : Session τ (m + 1) r n :=
  { s with
    customizations := s.customizations.push t
    stations := s.stations.map fun x => { x with customization := x.customization.castSucc } }

def addRecorder (s : Session τ m r n) : Session τ m (r + 1) n :=
  { s with
    recorders := s.recorders.push .empty
    stations := s.stations.map fun x => { x with recorder := x.recorder.map Fin.castSucc } }

def addStation (s : Session τ m r n) (g : Generator) (customization : Fin m)
    (recorder : Option (Fin r)) : Session τ m r (n + 1) :=
  { s with stations := s.stations.push ⟨g, customization, recorder, .idle⟩ }

def station (s : Session τ m r n) (i : Fin n) : Station m r := s.stations[i]

def customization (s : Session τ m r n) (a : Fin m) : τ := s.customizations[a]

def recorder (s : Session τ m r n) (j : Fin r) : Recorder := s.recorders[j]

def customizationAt (s : Session τ m r n) (i : Fin n) : τ :=
  s.customization (s.station i).customization

def pass (h : Hooks τ ν) (s : Session τ m r n) (c : Call n) : PassRun τ ν :=
  (s.station c.station).generator.runWith h c.collaborators (s.customizationAt c.station)

def reported (rs : Vector Recorder r) (hearer : Option (Fin r)) (ns : List Notification) :
    Vector Recorder r :=
  match hearer with
  | some j => rs.set j (rs[j].noteAll ns)
  | none => rs

def settle (s : Session τ m r n) (i : Fin n) (p : PassRun τ ν) : Session τ m r n :=
  let station := s.station i
  { workspace := { s.workspace with metrics := Pass.count s.workspace.metrics p }
    customizations := s.customizations.set station.customization p.after
    recorders := reported s.recorders station.recorder p.notifications
    stations := s.stations.set i { station with state := p.state } }

def run (h : Hooks τ ν) (s : Session τ m r n) :
    List (Call n) → Session τ m r n × List (Fin n × PassRun τ ν)
  | [] => (s, [])
  | c :: rest =>
    let p := s.pass h c
    let later := run h (s.settle c.station p) rest
    (later.1, (c.station, p) :: later.2)

end Session

end TemplateCompiler
