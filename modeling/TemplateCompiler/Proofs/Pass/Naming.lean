import TemplateCompiler.Proofs.Customization.Changes
import TemplateCompiler.Proofs.Model.TypeName
import TemplateCompiler.Proofs.Pass.Rendering
import TemplateCompiler.Registry

/-! The type's name under which a page is rendered, where no directive names the type. It is the
name of the path, or, where a directive asks for it, that name without its leading underscores. The
underscore that a name has in front of a digit is a leading one, so it is taken away as well. -/

namespace TemplateCompiler

open Text

namespace Directives

def trimsUnderscores (ds : Directives) : Bool :=
  ds.any fun d => lower d.1.trim = "trimleadingunderscores".toList && flag false (some d.2)

end Directives

namespace Change

def renamed : Change → Text → Text
  | .typeName rename => rename
  | _ => id

theorem on_name (c : Change) (u : CompileUnit) : (c.on u).type.name = c.renamed u.type.name := by
  cases c <;> rfl

end Change

namespace StandardDirective

theorem trimUnderscores_idem (name : Text) :
    trimUnderscores (trimUnderscores name) = trimUnderscores name := by
  unfold trimUnderscores
  cases rest : name.dropWhile (· == '_') with
  | nil => simp [rest]
  | cons c t =>
    have stop : (c == '_') = false := head_dropWhile (· == '_') name c (by rw [rest]; rfl)
    simp [stop]

def trims (e : StandardDirective × Text) : Bool :=
  e.1 = .trimLeadingUnderscores && flag false (some e.2)

theorem renamed_change {e : StandardDirective × Text} (unnamed : e.1 ≠ .className) :
    (change e).renamed = if trims e then trimUnderscores else id := by
  obtain ⟨d, value⟩ := e
  cases d with
  | className => exact absurd rfl unnamed
  | trimLeadingUnderscores =>
    simp only [change, trims]
    split <;> simp_all [Change.renamed]
  | imports => rfl
  | typeVisibility =>
    simp only [change, trims]
    cases visibilityOf (some value) <;> rfl
  | namespaceName | excludeFromCodeCoverage | disableLinePragmas =>
    simp only [change, trims]
    split <;> rfl

theorem applyAll_name {es : List (StandardDirective × Text)}
    (fine : ∀ e ∈ es, refusal? e = none) (unnamed : ∀ e ∈ es, e.1 ≠ .className)
    (u : CompileUnit) : (applyAll u es).1.type.name =
      if es.any trims then trimUnderscores u.type.name else u.type.name := by
  rw [applyAll_changes fine]
  induction es generalizing u with
  | nil => rfl
  | cons e es ih =>
    obtain ⟨first, others⟩ := List.forall_mem_cons.1 unnamed
    rw [List.foldl_cons, ih (List.forall_mem_cons.1 fine).2 others, Change.on_name,
      renamed_change first, List.any_cons]
    cases trims e <;> cases es.any trims <;> simp [trimUnderscores_idem]

theorem any_trims_selected (ds : Directives) :
    (table.selected ds).any trims = ds.trimsUnderscores := by
  rw [Bool.eq_iff_iff, Directives.trimsUnderscores, List.any_eq_true, List.any_eq_true]
  constructor
  · rintro ⟨e, inside, trimming⟩
    obtain ⟨d, given, named, same⟩ := mem_selected_iff.1 inside
    simp only [trims, Bool.and_eq_true, decide_eq_true_eq] at trimming ⊢
    rw [trimming.1] at named
    exact ⟨d, given, named, same ▸ trimming.2⟩
  · rintro ⟨d, given, trimming⟩
    rw [Bool.and_eq_true, decide_eq_true_eq] at trimming
    exact ⟨(.trimLeadingUnderscores, d.2), mem_selected_iff.2 ⟨d, given, trimming.1, rfl⟩,
      trimming.2⟩

end StandardDirective

open StandardDirective

section Underscores

theorem nameCharacter_of_isAlphanumeric {c : Char} (word : isAlphanumeric c = true) :
    nameCharacter c = c := if_pos (by rw [isIdentifierPart, word, Bool.or_true])

theorem nameCharacter_eq_underscore (c : Char) :
    (nameCharacter c == '_') = !isAlphanumeric c := by
  cases word : isAlphanumeric c with
  | true =>
    rw [nameCharacter_of_isAlphanumeric word]
    refine beq_eq_false_iff_ne.2 ?_
    rintro rfl
    revert word
    decide +kernel
  | false =>
    unfold nameCharacter
    rw [isIdentifierPart, word, Bool.or_false]
    split
    · assumption
    · rfl

theorem dropWhile_typeName (path : Text) : (typeName path).dropWhile (· == '_') =
    (path.dropWhile fun c => !isAlphanumeric c).map nameCharacter := by
  have word (name : Text) : (name.map nameCharacter).dropWhile (· == '_') =
      (name.dropWhile fun c => !isAlphanumeric c).map nameCharacter := by
    rw [List.dropWhile_map]
    simp only [Function.comp_def, nameCharacter_eq_underscore]
  cases path with
  | nil => rfl
  | cons c rest =>
    cases digit : isDigit c with
    | true =>
      rw [typeName_of_digit digit, List.dropWhile_cons_of_pos rfl]
      exact word (c :: rest)
    | false =>
      rw [typeName_of_not_digit digit]
      exact word (c :: rest)

theorem trimUnderscores_typeName_head (path : Text) :
    ∃ rest, trimUnderscores (typeName path) = (path.find? isAlphanumeric).getD '_' :: rest := by
  rw [trimUnderscores, dropWhile_typeName, List.find?_eq_head?_dropWhile_not]
  cases found : path.dropWhile fun c => !isAlphanumeric c with
  | nil =>
    obtain ⟨c, rest, name, -⟩ := typeName_head path
    have none : (typeName path).dropWhile (· == '_') = [] := by rw [dropWhile_typeName, found]; rfl
    rw [name, List.dropWhile_eq_nil_iff] at none
    have underscore : c = '_' := by simpa using none c List.mem_cons_self
    exact ⟨rest, by rw [name, underscore]; rfl⟩
  | cons c rest =>
    have word : isAlphanumeric c = true := by
      simpa using head_dropWhile (fun c => !isAlphanumeric c) path c (by rw [found]; rfl)
    exact ⟨rest.map nameCharacter, by simp [nameCharacter_of_isAlphanumeric word]⟩

end Underscores

namespace Profile

open Customization

def webpageChain : Chain Customization := .chain [.single (.directiveDispatch [])]

theorem resolve_webpage : Registry.builtIn.resolve webpage.name = .ok webpageChain := rfl

theorem mutateText_webpageChain (t : Text) :
    ((Chain.hooks hooks).mutateText webpageChain t).value = .ok t := rfl

theorem customized_webpageChain (g : Generator) (text : Text)
    (unnamed : ∀ d ∈ g.request.directives, lower d.1.trim ≠ "classname".toList) :
    (g.request.directives.Admissible ∧ ∃ u, g.customized webpageChain text = .ok u ∧
      u.type.name = if g.request.directives.trimsUnderscores
        then trimUnderscores (typeName g.request.relativePath)
        else typeName g.request.relativePath) ∨
    (¬ g.request.directives.Admissible ∧ ∃ f, g.customized webpageChain text = .error f) := by
  let es := table.selected g.request.directives
  let names := Pass.unitNames g.request.sourcePath
    ((Chain.hooks hooks).prepare webpageChain g.context).reached
  let u := Template.compileUnit g.settings.host names text
  have value : g.customized webpageChain text =
      ((directiveDispatch g.request.directives).mutateModel u).value := by
    rw [Generator.customized, mutateModel_prepared]
    exact bind_pure _
  have failure : (applyAll u es).2 = es.findSome? StandardDirective.refusal? :=
    applyAll_failure es u
  rw [value]
  cases refused : es.findSome? StandardDirective.refusal? with
  | none =>
    have fine : ∀ e ∈ es, StandardDirective.refusal? e = none :=
      List.findSome?_eq_none_iff.1 refused
    have others : ∀ e ∈ es, e.1 ≠ .className := by
      intro e inside named
      obtain ⟨d, given, key, -⟩ := mem_selected_iff.1 inside
      rw [named] at key
      exact unnamed d given key
    refine .inl ⟨refusal?_selected_iff.1 refused, (applyAll u es).1, ?_, ?_⟩
    · exact HookRun.value_eq_ok_iff.2 ⟨failure.trans refused, rfl⟩
    · rw [applyAll_name fine others, any_trims_selected]
      rfl
  | some f =>
    refine .inr ⟨fun admissible => ?_, f, HookRun.value_eq_error_iff.2 (failure.trans refused)⟩
    cases refused.symm.trans (refusal?_selected_iff.2 admissible)

theorem run_webpageChain (g : Generator) {files : FileTree} {text : Text}
    (given : g.source.read files g.request.sourcePath = .ok text)
    (render : CompileUnit → Except Failure Text) :
    (g.runWith (Chain.hooks hooks) { g.collaborators files with render := render }
      webpageChain).result = .ok (Pass.settle .render (g.customized webpageChain text) fun u =>
        Pass.settle .render (render u) fun code => .code (g.language.wrap code)) := by
  have result := g.run_customized given webpageChain render
  simp only [mutateText_webpageChain] at result
  exact result

end Profile

namespace Registry

open Customization

/-- A page whose template can be read is rendered, if it is, under a name that is not empty. The
name begins with a digit exactly if leading underscores are taken away and the first letter or
numeral of the path is a digit. -/
theorem webpage_run_name (g : Generator) (files : FileTree) (text : Text)
    (given : g.source.read files g.request.sourcePath = .ok text)
    (unnamed : ∀ d ∈ g.request.directives, lower d.1.trim ≠ "classname".toList) :
    let ds := g.request.directives
    let path := g.request.relativePath
    let name := if ds.trimsUnderscores then trimUnderscores (typeName path) else typeName path
    (∃ c rest, name = c :: rest ∧ (isDigit c = true ↔
      ds.trimsUnderscores = true ∧ (path.find? isAlphanumeric).any isDigit = true)) ∧
    ∃ chain, builtIn.resolve "webpage".toList = .ok chain ∧
      let result := fun render => (g.runWith (Chain.hooks hooks)
        { g.collaborators files with render := render } chain).result
      (ds.Admissible → ∃ u : CompileUnit, u.type.name = name ∧
        ∀ render, result render = .ok (Pass.settle .render (render u) fun code =>
          .code (g.language.wrap code))) ∧
      (¬ ds.Admissible → ∃ f, ∀ render, result render = .ok (.failure .render f)) := by
  intro ds path name
  refine ⟨?_, Profile.webpageChain, Profile.resolve_webpage,
    fun admissible => ?_, fun refused => ?_⟩
  · cases trimmed : ds.trimsUnderscores with
    | false =>
      obtain ⟨c, rest, same, digit⟩ := typeName_head path
      exact ⟨c, rest, by simp only [name, trimmed, same]; rfl, by simp [digit]⟩
    | true =>
      obtain ⟨rest, same⟩ := trimUnderscores_typeName_head path
      refine ⟨_, rest, by simp only [name, trimmed, same]; rfl, ?_⟩
      cases path.find? isAlphanumeric with
      | none => decide
      | some c => simp
  · rcases Profile.customized_webpageChain g text unnamed with ⟨-, u, made, named⟩ | ⟨refused, -⟩
    · refine ⟨u, named, fun render => ?_⟩
      have run := Profile.run_webpageChain g given render
      rwa [made] at run
    · exact absurd admissible refused
  · rcases Profile.customized_webpageChain g text unnamed with ⟨admissible, -⟩ | ⟨-, f, made⟩
    · exact absurd admissible refused
    · refine ⟨f, fun render => ?_⟩
      have run := Profile.run_webpageChain g given render
      rwa [made] at run

def pageAt (path : String) (ds : Directives) : Generator where
  request := ⟨"page.cshtml".toList, path.toList, none, ds⟩
  settings := .default
  language := .csharp
  source := .inline "<p>@x</p>".toList

theorem webpage_run_name_internal :
    let ds : Directives := [("TypeVisibility".toList, "Internal".toList),
      (" TRIMleadingUnderscores".toList, "on".toList)]
    let g := pageAt "_/~b1.cshtml" ds
    g.source.read .empty g.request.sourcePath = .ok "<p>@x</p>".toList ∧
    (∀ d ∈ ds, lower d.1.trim ≠ "classname".toList) ∧ Directives.Admissible ds ∧
    ∃ chain, builtIn.resolve "webpage".toList = .ok chain ∧
      ∃ u : CompileUnit, u.type.name = "b1_cshtml".toList ∧ ∀ render,
        (g.runWith (Chain.hooks hooks) { g.collaborators .empty with render := render }
          chain).result = .ok (Pass.settle .render (render u) fun code =>
            .code (g.language.wrap code)) := by
  intro ds g
  have given : g.source.read .empty g.request.sourcePath = .ok "<p>@x</p>".toList := rfl
  have unnamed : ∀ d ∈ ds, lower d.1.trim ≠ "classname".toList := by decide +kernel
  have admissible : Directives.Admissible ds := by
    unfold Directives.Admissible
    decide +kernel
  obtain ⟨-, chain, resolved, renders, -⟩ := webpage_run_name g .empty _ given unnamed
  obtain ⟨u, named, same⟩ := renders admissible
  have name : u.type.name = "b1_cshtml".toList := named.trans (by decide +kernel)
  exact ⟨given, unnamed, admissible, chain, resolved, u, name, same⟩

/-- The underscore that was put in front of the digit is taken away again. -/
theorem webpage_digitFirst :
    let ds : Directives := [("TrimLeadingUnderscores".toList, "true".toList)]
    let g := pageAt "1Column.cshtml" ds
    (∀ d ∈ ds, lower d.1.trim ≠ "classname".toList) ∧ isDigit '1' = true ∧
    typeName "1Column.cshtml".toList = "_1Column_cshtml".toList ∧
    ∃ chain, builtIn.resolve "webpage".toList = .ok chain ∧
      ∃ u : CompileUnit, u.type.name = "1Column_cshtml".toList ∧ ∀ render,
        (g.runWith (Chain.hooks hooks) { g.collaborators .empty with render := render }
          chain).result = .ok (Pass.settle .render (render u) fun code =>
            .code (g.language.wrap code)) := by
  intro ds g
  have unnamed : ∀ d ∈ ds, lower d.1.trim ≠ "classname".toList := by decide +kernel
  have admissible : Directives.Admissible ds := by
    unfold Directives.Admissible
    decide +kernel
  refine ⟨unnamed, by decide +kernel, by decide +kernel, Profile.webpageChain,
    Profile.resolve_webpage, ?_⟩
  rcases Profile.customized_webpageChain g "<p>@x</p>".toList unnamed with
    ⟨-, u, made, named⟩ | ⟨refused, -⟩
  · refine ⟨u, named.trans (by decide +kernel), fun render => ?_⟩
    rw [Profile.run_webpageChain g rfl render, made]
    rfl
  · exact absurd admissible refused

end Registry

end TemplateCompiler
