import TemplateCompiler.Proofs.Customization.Changes
import TemplateCompiler.Proofs.Customization.Integrity
import TemplateCompiler.Proofs.Customization.Ordering
import TemplateCompiler.Proofs.Pass.Rendering
import TemplateCompiler.Registry

/-! Standalone templates: what the built-in profile for them makes of a template. The directives of a
request can only add imports and the coverage marker to what the profile fixes, and only a visibility
that there is not keeps such a template from being rendered. -/

namespace TemplateCompiler

namespace Directives

open StandardDirective (table)

def importNames (ds : Directives) : List Text :=
  (ds.filter fun d => Text.lower d.1.trim = "imports".toList).flatMap fun d =>
    (StandardDirective.importNames d.2).filter fun name => !name.isEmpty

def excludesCoverage (ds : Directives) : Bool :=
  ds.any fun d => Text.lower d.1.trim = "excludefromcodecoverage".toList && Text.flag false (some d.2)

theorem map_trim_importNames (value : Text) :
    (StandardDirective.importNames value).map Text.trim = StandardDirective.importNames value := by
  simp only [StandardDirective.importNames, List.map_map, Function.comp_def, Text.trim_trim]

theorem imported_selected (ds : Directives) :
    ((((table.selected ds).flatMap fun e =>
        (StandardDirective.change e).imported).map Text.trim).filter fun n => !n.isEmpty) =
      ds.importNames := by
  induction ds with
  | nil => rfl
  | cons d ds ih =>
    rw [importNames] at ih ⊢
    rw [DirectiveTable.selected] at ih ⊢
    rw [List.filterMap_cons, List.filter_cons]
    by_cases named : Text.lower d.1.trim = "imports".toList
    · have found : table.find? d.1 = some .imports := StandardDirective.lookup_table_iff.2 named
      have given : (StandardDirective.change (.imports, d.2)).imported =
          StandardDirective.importNames d.2 := rfl
      simp only [found, named, Option.map_some, List.flatMap_cons, List.map_append,
        List.filter_append, given, map_trim_importNames, ih, decide_true, if_true]
    · simp only [named, decide_false, Bool.false_eq_true, if_false, ← ih]
      cases found : table.find? d.1 with
      | none => rfl
      | some a =>
        have other : a ≠ .imports := by
          rintro rfl
          exact named (StandardDirective.lookup_table_iff.1 found)
        have silent : (StandardDirective.change (a, d.2)).imported = [] :=
          StandardDirective.imported_change other
        simp only [Option.map_some, List.flatMap_cons, silent, List.nil_append]

theorem added_selected_isEmpty (ds : Directives) :
    ((table.selected ds).filterMap StandardDirective.added?).isEmpty = !ds.excludesCoverage := by
  rw [Bool.eq_iff_iff, List.isEmpty_iff, List.filterMap_eq_nil_iff, Bool.not_eq_true',
    excludesCoverage, List.any_eq_false]
  constructor
  · intro none d given excluded
    rw [Bool.and_eq_true, decide_eq_true_eq] at excluded
    have inside : (StandardDirective.excludeFromCodeCoverage, d.2) ∈ table.selected ds :=
      StandardDirective.mem_selected_iff.2 ⟨d, given, excluded.1, rfl⟩
    have silent := none _ inside
    rw [StandardDirective.added?, if_pos excluded.2] at silent
    cases silent
  · rintro none ⟨a, value⟩ inside
    obtain ⟨d, given, named, rfl⟩ := StandardDirective.mem_selected_iff.1 inside
    cases a with
    | excludeFromCodeCoverage =>
      refine if_neg fun flagged => none d given ?_
      rw [Bool.and_eq_true, decide_eq_true_eq]
      exact ⟨named, flagged⟩
    | _ => rfl

theorem not_admissible_iff {ds : Directives} :
    ¬ ds.Admissible ↔ ∃ d ∈ ds, Text.lower d.1.trim = "typevisibility".toList ∧
      Text.lower d.2.trim ≠ "public".toList ∧ Text.lower d.2.trim ≠ "internal".toList := by
  simp only [Admissible, not_forall, not_or, exists_prop]

end Directives

namespace Profile

open Customization

def templateNames : List Text :=
  ["System".toList, "System.Collections.Generic".toList, "System.Linq".toList, "System.Text".toList]

def templateMembers (ds : Directives) : List Customization :=
  [.setImports (templateNames.map .text) true, .addGeneratedCode toolName toolVersion,
    .directiveDispatch ds, .setBaseType templateBaseType, .makePartial]

def templateChain : Chain Customization := .chain ((templateMembers []).map .single)

theorem resolve_template : Registry.builtIn.resolve template.name = .ok templateChain := rfl

theorem prepare_templateChain (context : Context) :
    ((Chain.hooks hooks).prepare templateChain context).after.leaves =
      templateMembers context.directives := (prepare_leaves context).2

theorem mutateText_templateChain (t : Text) :
    ((Chain.hooks hooks).mutateText templateChain t).value = .ok t := rfl

theorem declared_templateMembers (ds : Directives) : ∀ c ∈ templateMembers ds, c.Declared := by
  have names : (Customization.setImports (templateNames.map .text) true).Declared :=
    List.forall_mem_map.2 fun name _ => ⟨name, rfl⟩
  have code : (Customization.addGeneratedCode toolName toolVersion).Declared :=
    ⟨⟨_, rfl⟩, _, rfl⟩
  have base : (Customization.setBaseType templateBaseType).Declared := ⟨_, rfl⟩
  simpa [templateMembers] using ⟨names, code, trivial, base, trivial⟩

theorem refusal?_templateMembers (ds : Directives) :
    (templateMembers ds).findSome? refusal? = (directiveDispatch ds).refusal? := by
  cases refused : (directiveDispatch ds).refusal? <;>
    simp only [templateMembers, List.findSome?_cons, refused] <;> rfl

end Profile

/-- The unit of a standalone template as it is rendered, where `text` is the template. -/
structure CompileUnit.Standalone (ds : Directives) (text : Text) (u : CompileUnit) : Prop where
  imports : u.imports.names = (Profile.templateNames ++ ds.importNames).eraseDups
  baseType : u.type.baseType = Profile.templateBaseType
  isPartial : u.type.isPartial = true
  constructors : ∀ c ∈ u.type.constructors, c.isDefault = false
  attributes : u.type.attributes =
    Customization.generatedCode Customization.toolName Customization.toolVersion ::
      if ds.excludesCoverage then [StandardDirective.coverageMarker] else []
  statements : u.type.entryMethod.statements = Template.statements text

open Customization

theorem CompileUnit.Standalone.renderable {ds : Directives} {text : Text} {u : CompileUnit}
    (standalone : u.Standalone ds text) : u.Renderable where
  arguments := by
    rw [standalone.attributes]
    refine List.forall_mem_cons.2 ⟨?_, ?_⟩
    · exact List.forall_mem_cons.2 ⟨Value.printable_text _,
        List.forall_mem_singleton.2 (Value.printable_text _)⟩
    · split
      · exact List.forall_mem_singleton.2 (List.forall_mem_nil _)
      · exact List.forall_mem_nil _
  base _ := by
    rw [standalone.baseType]
    rfl

namespace Profile

section Reached

variable {ds : Directives} (admissible : ds.Admissible) (host : HostDefaults) (names : UnitNames)
  (text : Text)

include admissible in
theorem imports_reach :
    (Chain.reach mutateModel (templateMembers ds)
        (Template.compileUnit host names text)).imports.names =
      (templateNames ++ ds.importNames).eraseDups := by
  have fine : ∀ e ∈ StandardDirective.table.selected ds, StandardDirective.refusal? e = none :=
    List.findSome?_eq_none_iff.1 (StandardDirective.refusal?_selected_iff.2 admissible)
  let start := Chain.reach mutateModel ((templateMembers ds).take 2)
    (Template.compileUnit host names text)
  have replaced : start.imports = ⟨templateNames⟩ := rfl
  have distinct : templateNames.eraseDups = templateNames := by decide +kernel
  change (StandardDirective.applyAll start
    (StandardDirective.table.selected ds)).1.imports.names = _
  rw [StandardDirective.applyAll_imports fine, replaced, ImportSet.names_insertAll,
    Directives.imported_selected, List.eraseDups_append, distinct]

theorem constructors_reach :
    (Chain.reach mutateModel (templateMembers ds)
      (Template.compileUnit host names text)).type.constructors = [] := by
  let before := Chain.reach mutateModel (templateMembers ds).dropLast
    (Template.compileUnit host names text)
  have others : ∀ c ∈ (templateMembers ds).dropLast, c.strips = false := by
    simp [templateMembers, strips]
  have shape := reach_shape_others others (Template.compileUnit host names text)
  have constructors : before.type.constructors = [.parameterless] := congrArg Prod.snd shape
  change before.type.constructors.eraseP Constructor.isDefault = []
  rw [constructors]
  rfl

include admissible in
theorem attributes_reach :
    (Chain.reach mutateModel (templateMembers ds)
        (Template.compileUnit host names text)).type.attributes =
      generatedCode toolName toolVersion ::
        if ds.excludesCoverage then [StandardDirective.coverageMarker] else [] := by
  have fine : ∀ c ∈ templateMembers ds, c.refusal? = none := by
    rw [← List.findSome?_eq_none_iff, refusal?_templateMembers]
    exact StandardDirective.refusal?_selected_iff.2 admissible
  have added : (templateMembers ds).flatMap Customization.added =
      generatedCode toolName toolVersion ::
        (StandardDirective.table.selected ds).filterMap StandardDirective.added? := by
    simp [templateMembers, Customization.added]
  have marked : ∀ a ∈ (StandardDirective.table.selected ds).filterMap StandardDirective.added?,
      a = StandardDirective.coverageMarker := by
    intro a inside
    obtain ⟨e, -, adds⟩ := List.mem_filterMap.1 inside
    exact StandardDirective.added?_eq_some adds
  have new : StandardDirective.coverageMarker ∉ [generatedCode toolName toolVersion] := by
    intro inside
    exact absurd (congrArg CodeAttribute.isMarker (List.mem_singleton.1 inside)) (by decide)
  have bare : (Template.compileUnit host names text).type.attributes = [] := rfl
  have first : CodeAttribute.addDistinct [] (generatedCode toolName toolVersion) =
      [generatedCode toolName toolVersion] := rfl
  rw [reach_attributes fine, added, bare, List.foldl_cons, first,
    StandardDirective.plain_coverageMarker.foldl_addDistinct_of_notMem marked new,
    Directives.added_selected_isEmpty]
  cases ds.excludesCoverage <;> rfl

include admissible in
theorem standalone_reach :
    (Chain.reach mutateModel (templateMembers ds)
      (Template.compileUnit host names text)).Standalone ds text where
  imports := imports_reach admissible host names text
  baseType := rfl
  isPartial := rfl
  constructors := by
    rw [constructors_reach]
    exact List.forall_mem_nil _
  attributes := attributes_reach admissible host names text
  statements := (keptIn_reach _ _).statements

end Reached

def unitOf (g : Generator) (text : Text) : Except Failure CompileUnit :=
  let prepared := (Chain.hooks hooks).prepare templateChain g.context
  let names := Pass.unitNames g.request.sourcePath prepared.reached
  ((Chain.hooks hooks).mutateModel prepared.after
    (Template.compileUnit g.settings.host names text)).value

theorem unitOf_cases (g : Generator) (text : Text) :
    (g.request.directives.Admissible ∧
      ∃ u, unitOf g text = .ok u ∧ u.Standalone g.request.directives text) ∨
    (¬ g.request.directives.Admissible ∧ ∃ f, unitOf g text = .error f) := by
  let prepared := (Chain.hooks hooks).prepare templateChain g.context
  have leaves : prepared.after.leaves = templateMembers g.request.directives :=
    prepare_templateChain g.context
  have fails : ∀ c ∈ prepared.after.leaves, ∀ u, (c.mutateModel u).failure = c.refusal? := by
    rw [leaves]
    exact fun c inside u => mutateModel_failure (declared_templateMembers _ c inside) u
  obtain ⟨failed, reached⟩ := Chain.run_failing fails (Template.compileUnit g.settings.host
    (Pass.unitNames g.request.sourcePath prepared.reached) text)
  rw [leaves, refusal?_templateMembers] at failed
  cases refused : (directiveDispatch g.request.directives).refusal? with
  | none =>
    have admissible := StandardDirective.refusal?_selected_iff.1 refused
    have fine := failed.trans refused
    refine .inl ⟨admissible, _, HookRun.value_eq_ok_iff.2 ⟨fine, rfl⟩, ?_⟩
    change CompileUnit.Standalone _ text (Chain.run mutateModel prepared.after _).reached
    rw [reached fine, leaves]
    exact standalone_reach admissible _ _ text
  | some f =>
    refine .inr ⟨fun admissible => ?_, f, HookRun.value_eq_error_iff.2 (failed.trans refused)⟩
    cases refused.symm.trans (StandardDirective.refusal?_selected_iff.2 admissible)

theorem run_templateChain (g : Generator) {text : Text} (inline : g.source = .inline text)
    (files : FileTree) (render : CompileUnit → Except Failure Text) :
    (g.runWith (Chain.hooks hooks) { g.collaborators files with render := render }
      templateChain).result = .ok (Pass.settle .render (unitOf g text) fun u =>
        Pass.settle .render (render u) fun code => .code (g.language.wrap code)) := by
  have given : g.source.read files g.request.sourcePath = .ok text := by
    rw [inline]
    rfl
  have result := g.run_customized given templateChain render
  simp only [mutateText_templateChain] at result
  exact result

end Profile

namespace Registry

/-- A pass over an inline template with the profile for standalone templates fails exactly if some
directive asks for a visibility that there is not, and then it fails in the second half. Otherwise
there is one unit that is rendered, whatever the renderer makes of it, and it has the form above. -/
theorem template_run :
    ∃ chain, builtIn.resolve "template".toList = .ok chain ∧
      ∀ (g : Generator) (text : Text) (files : FileTree), g.source = .inline text →
        let ds := g.request.directives
        let result := (g.run (Chain.hooks hooks) files chain).result
        ((∃ stage f, result = .ok (.failure stage f)) ↔
          ∃ d ∈ ds, Text.lower d.1.trim = "typevisibility".toList ∧
            Text.lower d.2.trim ≠ "public".toList ∧ Text.lower d.2.trim ≠ "internal".toList) ∧
        (∀ stage f, result = .ok (.failure stage f) → stage = .render) ∧
        (ds.Admissible → ∃ u : CompileUnit, u.Standalone ds text ∧
          (∃ code, g.language.render u = .ok code ∧ result = .ok (.code (g.language.wrap code))) ∧
          ∀ render : CompileUnit → Except Failure Text,
            (g.runWith (Chain.hooks hooks) { g.collaborators files with render := render }
              chain).result = .ok (Pass.settle .render (render u) fun code =>
                .code (g.language.wrap code))) := by
  refine ⟨Profile.templateChain, Profile.resolve_template, fun g text files inline => ?_⟩
  have run := Profile.run_templateChain g inline files
  have usual : (g.run (Chain.hooks hooks) files Profile.templateChain).result = _ :=
    run g.language.render
  simp only [← Directives.not_admissible_iff, usual]
  rcases Profile.unitOf_cases g text with ⟨admissible, u, made, standalone⟩ | ⟨refused, f, made⟩
  · obtain ⟨code, rendered⟩ := (Language.render_ok_iff (l := g.language)).2 standalone.renderable
    simp only [made, Pass.settle, rendered]
    refine ⟨iff_of_false ?_ (not_not_intro admissible), fun stage f failed => ?_, fun _ => ?_⟩
    · rintro ⟨stage, f, failed⟩
      cases failed
    · cases failed
    · refine ⟨u, standalone, ⟨code, rendered, rfl⟩, fun render => ?_⟩
      rw [run render, made]
      rfl
  · simp only [made, Pass.settle]
    refine ⟨iff_of_true ⟨.render, f, rfl⟩ refused, fun stage g failed => ?_, fun fine => ?_⟩
    · cases failed
      rfl
    · exact absurd fine refused

def importedTwice : Generator where
  request := ⟨"a.cshtml".toList, "a.cshtml".toList, none,
    [("Imports".toList, "B; System,".toList), ("typevisibility ".toList, " INTERNAL".toList),
      (" imports".toList, "A,B".toList), ("ExcludeFromCodeCoverage".toList, "on".toList),
      ("EXCLUDEFROMCODECOVERAGE".toList, "1".toList)]⟩
  settings := .default
  language := .csharp
  source := .inline "<p>@x</p>".toList

theorem template_run_importedTwice :
    importedTwice.source = .inline "<p>@x</p>".toList ∧
    importedTwice.request.directives.Admissible ∧
    ∃ chain, builtIn.resolve "template".toList = .ok chain ∧
      ∃ u : CompileUnit, u.Standalone importedTwice.request.directives "<p>@x</p>".toList ∧
        u.imports.names = Profile.templateNames ++ ["B".toList, "A".toList] ∧
        u.type.attributes.length = 2 ∧
        ∃ code, (importedTwice.run (Chain.hooks hooks) .empty chain).result = .ok (.code code) := by
  have admissible : importedTwice.request.directives.Admissible := by
    unfold Directives.Admissible
    decide +kernel
  obtain ⟨chain, resolved, runs⟩ := template_run
  obtain ⟨-, -, renders⟩ := runs importedTwice "<p>@x</p>".toList .empty rfl
  obtain ⟨u, standalone, ⟨code, -, result⟩, -⟩ := renders admissible
  have names : (Profile.templateNames ++ importedTwice.request.directives.importNames).eraseDups =
      Profile.templateNames ++ ["B".toList, "A".toList] := by decide +kernel
  have excluded : importedTwice.request.directives.excludesCoverage = true := by decide +kernel
  refine ⟨rfl, admissible, chain, resolved, u, standalone, standalone.imports.trans names, ?_,
    _, result⟩
  rw [standalone.attributes, excluded]
  rfl

end Registry

end TemplateCompiler
