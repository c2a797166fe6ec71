import TemplateCompiler.Proofs.Customization.Renewal
import TemplateCompiler.Proofs.Session.Basic

/-! A pass does not depend on the passes before it, of its own station or of another one with the
same customization: it is the pass of a station that was just set up. -/

namespace TemplateCompiler

namespace Pass

variable {τ ν : Type} {h : Hooks τ ν} {renew : τ → τ}

theorem run_renew (renews : h.Renews renew) (k : Collaborators) (sourceFile : Text)
    (context : Context) (t : τ) :
    run h k sourceFile context (renew t) = run h k sourceFile context t := by
  unfold run
  rw [renews.prepare_renew]

theorem renew_finish (renews : h.Renews renew) (t : τ) (code : Text) (ns : List Notification)
    (notes : List ν) : renew (finish h t code ns notes).after = renew t := by
  rw [finish]
  split <;> exact renews.renew_mutateText t code

theorem renew_renderUnit (renews : h.Renews renew) (k : Collaborators) (l : Language) (t : τ)
    (u : CompileUnit) (ns : List Notification) (notes : List ν) :
    renew (renderUnit h k l t u ns notes).after = renew t := by
  have mutated := renews.renew_mutateModel t u
  rw [renderUnit]
  split
  · exact mutated
  · split
    · exact mutated
    · rw [renew_finish renews, mutated]

theorem renew_run (renews : h.Renews renew) (k : Collaborators) (sourceFile : Text)
    (context : Context) (t : τ) : renew (run h k sourceFile context t).after = renew t := by
  have prepared := renews.renew_prepare t context
  rw [run]
  split
  · exact prepared
  · split
    · exact prepared
    · rw [renew_renderUnit renews, prepared]

end Pass

namespace Session

variable {τ ν : Type} {m r n : Nat} {h : Hooks τ ν} {renew : τ → τ}

theorem renew_pass (renews : h.Renews renew) (s : Session τ m r n) (c : Call n) :
    renew (s.pass h c).after = renew (s.customizationAt c.station) :=
  Pass.renew_run renews ..

theorem renew_settle (renews : h.Renews renew) (s : Session τ m r n) (c : Call n) (a : Fin m) :
    renew ((s.settle c.station (s.pass h c)).customization a) = renew (s.customization a) := by
  rw [settle_customizations]
  split
  · next used =>
    subst used
    exact renew_pass renews s c
  · rfl

theorem renew_run (renews : h.Renews renew) (s : Session τ m r n) (calls : List (Call n))
    (a : Fin m) : renew ((s.run h calls).1.customization a) = renew (s.customization a) := by
  induction calls generalizing s with
  | nil => rfl
  | cons c calls ih => rw [run, ih, renew_settle renews]

theorem renew_customizationAt (renews : h.Renews renew) (s : Session τ m r n)
    (calls : List (Call n)) (i : Fin n) :
    renew ((s.run h calls).1.customizationAt i) = renew (s.customizationAt i) := by
  have same : ((s.run h calls).1.station i).customization = (s.station i).customization :=
    run_customization h s calls i
  exact (renew_run renews s calls _).trans
    (congrArg (fun a => renew (s.customization a)) same)

def single (g : Generator) (t : τ) : Session τ 1 1 1 :=
  ⟨.empty, #v[t], #v[.empty], #v[⟨g, 0, some 0, .idle⟩]⟩

theorem single_pass (g : Generator) (t : τ) (k : Collaborators) :
    (single g t).pass h ⟨0, k⟩ = g.runWith h k t := rfl

theorem pass_renew (renews : h.Renews renew) (s : Session τ m r n) (calls : List (Call n))
    (c : Call n) :
    (s.run h calls).1.pass h c =
      (single (s.station c.station).generator (renew (s.customizationAt c.station))).pass h
        ⟨0, c.collaborators⟩ := by
  have same : ((s.run h calls).1.station c.station).generator =
      (s.station c.station).generator := run_generator h s calls c.station
  rw [single_pass, pass, same, ← renew_customizationAt renews s calls c.station]
  exact (Pass.run_renew renews ..).symm

/-- Generators share customizations as they like, and their passes end as they may: the next pass
of any of them is the pass of the same generator alone in a session, with its customization just
built. It has the same result, reports the same and leaves its station in the same state. -/
theorem run_independent (s : Session (Chain Customization) m r n)
    (built : ∀ a : Fin m, (s.customization a).Built) (calls : List (Call n)) (c : Call n) :
    let h := Chain.hooks Customization.hooks
    let before := (s.run h calls).1
    let fresh := single (s.station c.station).generator (s.customizationAt c.station)
    let p := before.pass h c
    let q := fresh.pass h ⟨0, c.collaborators⟩
    p = q ∧
    ((before.settle c.station p).station c.station).state =
      ((fresh.settle 0 q).station 0).state ∧
    p.notifications = ((fresh.settle 0 q).recorder 0).timeline := by
  intro h before fresh p q
  have renews : h.Renews (Chain.map Customization.renewed) :=
    Chain.renews Customization.renews Customization.prepare_failure
  have new : (s.customizationAt c.station).map Customization.renewed =
      s.customizationAt c.station := (built _).map_renewed
  have same : p = q := by
    have moved := pass_renew renews s calls c
    rwa [new] at moved
  refine ⟨same, ?_, ?_⟩
  · rw [settle_state, settle_state, same]
  · have heard : fresh.heard 0 [(0, q)] = q.notifications := by
      rw [heard_singleton]
      exact if_pos rfl
    rw [settle_recorders, heard, Recorder.noteAll_eq, same]
    rfl

/-- Two generators with one customization and one recorder between them. The first asks for another
type name, but there is no file for it to read. -/
def sharing : Session (Chain Customization) 1 1 2 :=
  let tree : Chain Customization := .chain [.chain [.single (.directiveDispatch [])]]
  let first : Generator :=
    ⟨⟨"a.cshtml".toList, "a.cshtml".toList, none, [("ClassName".toList, "Other".toList)]⟩,
      .default, .csharp, .file Encoding.noCodecs "cp1252".toList⟩
  let second : Generator :=
    ⟨⟨"b.cshtml".toList, "b.cshtml".toList, none, []⟩, .default, .csharp, .inline "<p>".toList⟩
  (single first tree).addStation second 0 (some 0)

def sharingCall (i : Fin 2) : Call 2 := ⟨i, (sharing.station i).generator.collaborators .empty⟩

theorem sharing_built (a : Fin 1) : (sharing.customization a).Built := by
  have dispatch : Customization.build [] "directive_dispatch".toList [] =
      .ok (.directiveDispatch []) := rfl
  obtain rfl : a = 0 := Subsingleton.elim ..
  refine .chain fun x inside => ?_
  obtain rfl := List.mem_singleton.1 inside
  refine .chain fun x inside => ?_
  obtain rfl := List.mem_singleton.1 inside
  exact .single dispatch

/-- The first pass fails and leaves its directives behind; the second does not see them. -/
theorem run_independent_sharing :
    (sharing.run (Chain.hooks Customization.hooks) [sharingCall 0]).1.customization 0 =
      .chain [.chain [.single (.directiveDispatch [("ClassName".toList, "Other".toList)])]] ∧
    (∀ a, (sharing.customization a).Built) ∧
    (let h := Chain.hooks Customization.hooks
    let before := (sharing.run h [sharingCall 0]).1
    let fresh := single (sharing.station 1).generator (sharing.customizationAt 1)
    let p := before.pass h (sharingCall 1)
    let q := fresh.pass h ⟨0, (sharingCall 1).collaborators⟩
    p = q ∧
    ((before.settle 1 p).station 1).state = ((fresh.settle 0 q).station 0).state ∧
    p.notifications = ((fresh.settle 0 q).recorder 0).timeline) :=
  ⟨rfl, sharing_built, run_independent sharing sharing_built [sharingCall 0] (sharingCall 1)⟩

end Session

end TemplateCompiler
