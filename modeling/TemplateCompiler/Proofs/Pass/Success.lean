import TemplateCompiler.Proofs.Customization.Workable
import TemplateCompiler.Proofs.Registry.Loading
import TemplateCompiler.Proofs.Registry.Soundness

/-! Which profiles make passes that succeed. Loading a profiles file builds the customizations of
its profiles and looks at their arguments no further than that, so an argument that a hook or the
renderer cannot use is found in a pass. -/

namespace TemplateCompiler

namespace Pass

variable {τ ν : Type} {h : Hooks τ ν} {k : Collaborators} {l : Language} {names : UnitNames} {t : τ}

theorem Course.finished_iff {found : List Diagnostic} {e : Ending}
    (course : Course h k l names t found e) {text : Text} {x : CompileUnit × List Diagnostic}
    (read : k.read = .ok text) (parse : k.parse names text = .ok x) :
    (∃ code, e = .finished code) ↔
      (h.mutateModel t x.1).failure = none ∧
        ∃ code, k.render (h.mutateModel t x.1).reached = .ok code ∧
          (h.mutateText (h.mutateModel t x.1).after (l.wrap code)).failure = none := by
  cases course with
  | unread failed => cases read.symm.trans failed
  | unparsed same failed =>
    cases read.symm.trans same
    cases parse.symm.trans failed
  | unmutated same given failed =>
    cases read.symm.trans same
    cases parse.symm.trans given
    simp [failed]
  | unrendered same given _ failed =>
    cases read.symm.trans same
    cases parse.symm.trans given
    simp [failed]
  | unfinished same given _ rendered failed =>
    cases read.symm.trans same
    cases parse.symm.trans given
    simp [rendered, failed]
  | finished same given fine rendered done =>
    cases read.symm.trans same
    cases parse.symm.trans given
    simp [fine, rendered, done]

end Pass

open Customization

/-- Nothing in the second half of a pass depends on the template: what is read from one has no
attributes and a text for its base type. -/
theorem Customization.finishes_iff {t : Chain Customization} {u : CompileUnit} {base : Text}
    (l : Language) (bare : u.type.attributes = []) (named : u.type.baseType = .text base)
    (admissible : ∀ held, .directiveDispatch held ∈ t.leaves → held.Admissible) :
    (((Chain.hooks hooks).mutateModel t u).failure = none ∧
      ∃ code, l.render ((Chain.hooks hooks).mutateModel t u).reached = .ok code ∧
        ((Chain.hooks hooks).mutateText ((Chain.hooks hooks).mutateModel t u).after
          (l.wrap code)).failure = none) ↔ Workable t.leaves := by
  obtain ⟨model, reached⟩ := mutateModel_chain u admissible
  have render := (Language.render_ok_iff (l := l)).trans
    (reach_renderable_iff t.leaves bare named)
  simp only [mutateText_chain]
  constructor
  · rintro ⟨fine, code, rendered, replacements⟩
    rw [(reached fine).2] at rendered
    rw [(reached fine).1] at replacements
    obtain ⟨marks, last⟩ := render.1 ⟨code, rendered⟩
    exact ⟨model.1 fine, replacements, marks, last⟩
  · intro workable
    have fine := model.2 workable.imports
    obtain ⟨code, rendered⟩ := render.2 ⟨workable.marks, workable.base⟩
    rw [(reached fine).1, (reached fine).2]
    exact ⟨fine, code, rendered, workable.replacements⟩

theorem Generator.run_code_iff {g : Generator} {text : Text} (inline : g.source = .inline text)
    (admissible : g.request.directives.Admissible) (files : FileTree)
    (chain : Chain Customization) :
    (∃ code, (g.run (Chain.hooks hooks) files chain).result = .ok (.code code)) ↔
      Workable chain.leaves := by
  obtain ⟨prepared, leaves⟩ := prepare_leaves (c := chain) g.context
  obtain ⟨found, e, course, ended⟩ := Pass.run_course (Chain.hooks hooks) (g.collaborators files)
    g.request.sourcePath g.context chain prepared
  have succeeds : (∃ code, (g.run (Chain.hooks hooks) files chain).result = .ok (.code code)) ↔
      ∃ code, e = .finished code := by
    change (∃ code, (Pass.run _ _ _ _ _).result = .ok (.code code)) ↔ _
    rw [ended.result]
    cases e <;> simp [Pass.Ending.result]
  have held : ∀ ds, .directiveDispatch ds ∈
      ((Chain.hooks hooks).prepare chain g.context).after.leaves → ds.Admissible := by
    intro ds inside
    rw [leaves] at inside
    obtain ⟨c, -, same⟩ := List.mem_map.1 inside
    cases c with
    | directiveDispatch old =>
      cases same
      exact admissible
    | _ => cases same
  have read : (g.collaborators files).read = .ok text := by
    rw [Generator.collaborators, inline]
    rfl
  -- The members hold the request's directives by now, which makes no difference to their arguments.
  rw [succeeds, course.finished_iff read rfl, ← workable_holding g.request.directives]
  change _ ↔ Workable (chain.leaves.map (holding g.context.directives))
  rw [← leaves]
  exact finishes_iff g.language rfl rfl held

namespace Registry

/-- An accepted profile resolves, and either every pass with it over an inline text succeeds,
whatever the text, the language and the directives, or none does. -/
theorem load_run_iff {files : FileTree} {file name : Text} {r : Registry}
    {notices : List LoadNotice} {p : Profile} (loaded : load files (some file) = .ok (r, notices))
    (accepted : r.get? name = some p) :
    ∃ chain, r.resolve name = .ok chain ∧
      ∀ (g : Generator) (text : Text) (files : FileTree), g.source = .inline text →
        g.request.directives.Admissible →
        ((∃ code, (g.run (Chain.hooks hooks) files chain).result = .ok (.code code)) ↔
          Workable chain.leaves) := by
  obtain ⟨chain, -, resolved⟩ := (load_sound loaded).resolve accepted
  exact ⟨chain, resolved, fun g text files inline admissible =>
    g.run_code_iff inline admissible files chain⟩

/-- A pass with the profile that a file calls `a`, and what was noted when the file was loaded. -/
def passIn (text : Text) (g : Generator) :
    Except Failure (List LoadNotice × PassRun (Chain Customization) Notice) := do
  let (r, notices) ← load (withFile text) (some "profiles".toList)
  let chain ← r.resolve ['a']
  return (notices, g.run (Chain.hooks hooks) .empty chain)

theorem passIn_eq_ok {text : Text} {g : Generator}
    {x : List LoadNotice × PassRun (Chain Customization) Notice} (ran : passIn text g = .ok x) :
    ∃ r p chain, load (withFile text) (some "profiles".toList) = .ok (r, x.1) ∧
      r.get? ['a'] = some p ∧ r.resolve ['a'] = .ok chain ∧
      x.2 = g.run (Chain.hooks hooks) .empty chain := by
  unfold passIn at ran
  obtain ⟨y, loaded, ran⟩ := do_eq_ok_iff.1 ran
  obtain ⟨chain, resolved, ran⟩ := do_eq_ok_iff.1 ran
  cases ran
  cases known : y.1.get? ['a'] with
  | none =>
    rw [resolve, known] at resolved
    cases resolved
  | some p => exact ⟨y.1, p, chain, loaded, known, resolved, rfl⟩

def internalPage (text : Text) : Generator where
  request := ⟨"page".toList, "page".toList, none, [("TypeVisibility".toList, " Internal".toList)]⟩
  settings := .default
  language := .visualBasic
  source := .inline text

theorem internalPage_admissible (text : Text) :
    (internalPage text).request.directives.Admissible := by
  intro d inside _
  cases List.mem_singleton.1 inside
  exact .inr (by decide +kernel)

def textsForTexts : Text :=
  "profiles: \x7ba: \x7btransformers: [".toList ++
    "\x7bname: set_imports, args: \x7bimports: [N, null]\x7d\x7d, ".toList ++
    "\x7bname: set_base_type, args: \x7bbase_type: 5\x7d\x7d, ".toList ++
    "\x7bname: replace_text, args: \x7bold: x, new: y\x7d\x7d]\x7d\x7d".toList

theorem load_run_iff_textsForTexts :
    ∃ r p chain, load (withFile textsForTexts) (some "profiles".toList) = .ok (r, [.loaded 1]) ∧
      r.get? ['a'] = some p ∧ r.resolve ['a'] = .ok chain ∧ Workable chain.leaves := by
  have succeeds : (passIn textsForTexts (internalPage "<p>@x</p>".toList)).toOption.map
      (fun x => (x.1, x.2.result.toOption.map PassResult.isSuccess)) =
        some ([.loaded 1], some true) := by
    decide +kernel
  cases ran : passIn textsForTexts (internalPage "<p>@x</p>".toList) with
  | error f =>
    rw [ran] at succeeds
    cases succeeds
  | ok x =>
    rw [ran] at succeeds
    have noted : x.1 = [.loaded 1] := congrArg Prod.fst (Option.some.inj succeeds)
    have success : x.2.result.toOption.map PassResult.isSuccess = some true :=
      congrArg Prod.snd (Option.some.inj succeeds)
    obtain ⟨r, p, chain, loaded, accepted, resolved, same⟩ := passIn_eq_ok ran
    obtain ⟨_, found, runs⟩ := load_run_iff loaded accepted
    cases resolved.symm.trans found
    rw [noted] at loaded
    refine ⟨r, p, chain, loaded, accepted, resolved, ?_⟩
    refine (runs _ "<p>@x</p>".toList .empty rfl (internalPage_admissible _)).1 ?_
    rw [← same]
    cases result : x.2.result with
    | error f => simp [result, Except.toOption] at success
    | ok ended =>
      cases ended with
      | failure stage cause => simp [result, Except.toOption, PassResult.isSuccess] at success
      | code text => exact ⟨text, rfl⟩

def numberForText : Text :=
  "profiles: \x7ba: \x7btransformers: [\x7bname: replace_text, ".toList ++
    "args: \x7bold: x, new: 5\x7d\x7d]\x7d\x7d".toList

/-- The profile is accepted without a word, and a pass with it fails. -/
theorem load_run_numberForText :
    ∃ r p chain, load (withFile numberForText) (some "profiles".toList) = .ok (r, [.loaded 1]) ∧
      r.get? ['a'] = some p ∧ r.resolve ['a'] = .ok chain ∧
      (internalPage ['x']).source = .inline ['x'] ∧
      (internalPage ['x']).request.directives.Admissible ∧
      ((internalPage ['x']).run (Chain.hooks hooks) .empty chain).result =
        .ok (.failure .render (.notTextArgument 2 "int".toList)) := by
  have fails : (passIn numberForText (internalPage ['x'])).toOption.map
      (fun x => (x.1, x.2.result.toOption)) =
        some ([.loaded 1], some (.failure .render (.notTextArgument 2 "int".toList))) := by
    decide +kernel
  cases ran : passIn numberForText (internalPage ['x']) with
  | error f =>
    rw [ran] at fails
    cases fails
  | ok x =>
    rw [ran] at fails
    have noted : x.1 = [.loaded 1] := congrArg Prod.fst (Option.some.inj fails)
    have failure : x.2.result.toOption =
        some (.failure .render (.notTextArgument 2 "int".toList)) :=
      congrArg Prod.snd (Option.some.inj fails)
    obtain ⟨r, p, chain, loaded, accepted, resolved, same⟩ := passIn_eq_ok ran
    rw [noted] at loaded
    refine ⟨r, p, chain, loaded, accepted, resolved, rfl, internalPage_admissible _, ?_⟩
    rw [← same]
    cases result : x.2.result with
    | error f => simp [result, Except.toOption] at failure
    | ok ended => simpa [result, Except.toOption] using failure

end Registry

end TemplateCompiler
