import TemplateCompiler.Proofs.Customization.Changes
import TemplateCompiler.Proofs.Customization.Ordering
import TemplateCompiler.Proofs.Registry.Soundness

/-! Directives in another order. As long as no directive overrides another one, a pass has the same
result in whichever order a request lists them: the customizations come to the same unit, or fail
for the same reason. -/

namespace TemplateCompiler

/-- No two names are for the same directive, and not both of those for the type's name have
something to say. -/
structure Directives.Independent (ds : Directives) : Prop where
  distinct : (ds.map fun d => Text.lower d.1.trim).Nodup
  oneName : ¬ ((∃ d ∈ ds, Text.lower d.1.trim = "classname".toList ∧ d.2.isBlank = false) ∧
    ∃ d ∈ ds, Text.lower d.1.trim = "trimleadingunderscores".toList ∧
      Text.flag false (some d.2) = true)

namespace Directives

open StandardDirective

theorem selected_fst (ds : Directives) : (table.selected ds).map Prod.fst =
    (ds.map fun d => Text.lower d.1.trim).filterMap fun key => table.lookup key := by
  rw [DirectiveTable.selected, List.map_filterMap, List.filterMap_map]
  refine List.filterMap_congr fun d _ => ?_
  rw [Option.map_map]
  exact congrFun Option.map_id (table.find? d.1)

theorem Independent.selected {ds : Directives} (independent : ds.Independent) :
    StandardDirective.Independent (table.selected ds) where
  once := by
    rw [selected_fst]
    refine independent.distinct.filterMap fun key key' d found found' => ?_
    rw [lookup_table_iff.1 found, lookup_table_iff.1 found']
  oneName := by
    rintro ⟨named, name⟩ inside ⟨trimmed, flag⟩ inside' rfl rfl
    obtain ⟨d, given, key, rfl⟩ := mem_selected_iff.1 inside
    obtain ⟨d', given', key', rfl⟩ := mem_selected_iff.1 inside'
    cases blank : d.2.isBlank with
    | true => exact .inl (if_pos blank)
    | false =>
      refine .inr (if_neg fun flagged => independent.oneName ?_)
      exact ⟨⟨d, given, key, blank⟩, d', given', key', flagged⟩

end Directives

namespace Customization

theorem mutateModel_holding_perm (c : Customization) {ds ds' : Directives}
    (independent : ds.Independent) (perm : ds.Perm ds') (u : CompileUnit) :
    ((c.holding ds).mutateModel u).value = ((c.holding ds').mutateModel u).value := by
  cases c with
  | directiveDispatch held =>
    exact HookRun.value_eq_iff.2 (independent.selected.applyAll_perm (perm.filterMap _) u)
  | _ => rfl

theorem reach_prepare_directives (cs : List Customization) (context : Context) (ds : Directives) :
    Chain.reach prepare cs { context with directives := ds } =
      { Chain.reach prepare cs context with directives := ds } := by
  induction cs generalizing context with
  | nil => rfl
  | cons c cs ih =>
    have first : (c.prepare { context with directives := ds }).reached =
        { (c.prepare context).reached with directives := ds } := by
      cases c <;> rfl
    rw [Chain.reach, List.foldl_cons, first, ← Chain.reach, ih]
    rfl

end Customization

open Customization

/-- Whatever the customizations are, independent directives can come in any order. -/
theorem Generator.run_result_perm (g : Generator) (files : FileTree)
    (chain : Chain Customization) {ds : Directives}
    (independent : g.request.directives.Independent) (perm : g.request.directives.Perm ds) :
    ∃ result, (g.run (Chain.hooks hooks) files chain).result = .ok result ∧
      (Generator.run { g with request := { g.request with directives := ds } }
        (Chain.hooks hooks) files chain).result = .ok result := by
  let turned : Generator := { g with request := { g.request with directives := ds } }
  have names : ((Chain.hooks hooks).prepare chain turned.context).reached =
      { ((Chain.hooks hooks).prepare chain g.context).reached with directives := ds } := by
    rw [prepare_reached, prepare_reached]
    exact reach_prepare_directives chain.leaves g.context ds
  have model (u : CompileUnit) :
      ((Chain.hooks hooks).mutateModel ((Chain.hooks hooks).prepare chain g.context).after u).value =
        ((Chain.hooks hooks).mutateModel
          ((Chain.hooks hooks).prepare chain turned.context).after u).value := by
    have same (v : CompileUnit) (t : Customization) := t.mutateModel_holding_perm independent perm v
    rw [mutateModel_prepared, mutateModel_prepared]
    exact congrArg (fun step => chain.leaves.foldlM step u) (funext fun v => funext (same v))
  have result := Pass.run_result (Chain.hooks hooks) (g.collaborators files) g.request.sourcePath
    g.context chain (prepare_leaves g.context).1
  have result' := Pass.run_result (Chain.hooks hooks) (turned.collaborators files)
    turned.request.sourcePath turned.context chain (prepare_leaves turned.context).1
  simp only [mutateText_prepared, model] at result
  simp only [mutateText_prepared, names] at result'
  exact ⟨_, result, result'⟩

namespace Registry

/-- A pass with a profile that is built in has the same result in whichever order a request lists
its directives. -/
theorem builtIn_run_perm {p : Profile} (inside : p ∈ Profile.builtIn) :
    ∃ chain, builtIn.resolve p.name = .ok chain ∧
      ∀ (g : Generator) (files : FileTree) (ds : Directives),
        g.request.directives.Independent → g.request.directives.Perm ds →
        ∃ result, (g.run (Chain.hooks hooks) files chain).result = .ok result ∧
          (Generator.run { g with request := { g.request with directives := ds } }
            (Chain.hooks hooks) files chain).result = .ok result := by
  have known : builtIn.get? p.name = some p := by
    rcases List.mem_cons.1 inside with rfl | rest
    · rfl
    · rw [List.mem_singleton.1 rest]
      rfl
  obtain ⟨chain, -, resolved⟩ := builtIn_sound.resolve known
  refine ⟨chain, resolved, fun g files ds independent perm => ?_⟩
  exact g.run_result_perm files chain independent perm

def blankNamed : Generator where
  request := ⟨"_a.vbhtml".toList, "_a.vbhtml".toList, none,
    [("ClassName".toList, " ".toList), (" TRIMleadingUnderscores".toList, "Yes".toList),
      ("imports".toList, "B, A;B".toList), ("Layout".toList, "C".toList)]⟩
  settings := .default
  language := .visualBasic
  source := .inline "<p>@x</p>".toList

theorem builtIn_run_perm_blankNamed :
    Profile.template ∈ Profile.builtIn ∧ blankNamed.request.directives.Independent ∧
    blankNamed.request.directives.Perm blankNamed.request.directives.reverse ∧
    ∃ chain, builtIn.resolve "template".toList = .ok chain ∧
      ∃ result, (blankNamed.run (Chain.hooks hooks) .empty chain).result = .ok result ∧
        (Generator.run { blankNamed with request := { blankNamed.request with
            directives := blankNamed.request.directives.reverse } }
          (Chain.hooks hooks) .empty chain).result = .ok result := by
  have inside : Profile.template ∈ Profile.builtIn := List.mem_cons_of_mem _ List.mem_cons_self
  have independent : blankNamed.request.directives.Independent := by
    refine ⟨by decide +kernel, fun both => ?_⟩
    have blank : ∀ d ∈ blankNamed.request.directives,
        Text.lower d.1.trim = "classname".toList → d.2.isBlank = true := by decide +kernel
    obtain ⟨⟨d, given, named, full⟩, -⟩ := both
    rw [blank d given named] at full
    cases full
  have perm := (List.reverse_perm blankNamed.request.directives).symm
  obtain ⟨chain, resolved, same⟩ := builtIn_run_perm inside
  exact ⟨inside, independent, perm, chain, resolved, same _ .empty _ independent perm⟩

end Registry

end TemplateCompiler
