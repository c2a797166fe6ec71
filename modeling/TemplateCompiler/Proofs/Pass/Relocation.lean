import TemplateCompiler.Customization.Build
import TemplateCompiler.Generator
import TemplateCompiler.Proofs.Language.Relocation
import TemplateCompiler.Proofs.Model.Soundness
import TemplateCompiler.Proofs.Pass.Ending
import TemplateCompiler.Proofs.Text.Trim

/-! Passes over the same template at two places give the same code if the paths in their line
pragmas are made relative to the directories that the template lies in. -/

namespace TemplateCompiler

open Customization

theorem Text.Unbroken.trim {t : Text} (unbroken : t.Unbroken) : Unbroken t.trim := by
  obtain ⟨front, back, split, -⟩ := t.exists_trim
  rw [split, unbroken_append_iff, unbroken_append_iff] at unbroken
  exact unbroken.1.2

theorem typeName_unbroken (path : Text) : (typeName path).Unbroken := by
  have part (c : Char) : (if Text.isIdentifierPart c then c else '_') ≠ '\n' := by
    split
    · next identifier =>
      rintro rfl
      exact absurd identifier (by decide +kernel)
    · decide
  unfold typeName
  split
  · decide
  · exact fun broken => by
      obtain ⟨c, -, same⟩ := List.mem_map.1 broken
      exact part c same

namespace Template

theorem mem_statementsFrom {position : Position} {pending : Pending} {parts : List Segment}
    {s : Statement} (inside : s ∈ statementsFrom position pending parts) :
    ∃ place, s = .at s.kind s.text place := by
  have literal {pending : Pending} (inside : s ∈ literalOf pending) :
      ∃ place, s = .at s.kind s.text place := by
    unfold literalOf at inside
    split at inside
    · cases List.mem_singleton.1 inside
      exact ⟨_, rfl⟩
    · cases inside
  have part {position : Position} {part : Segment} (inside : s ∈ statementOf position part) :
      ∃ place, s = .at s.kind s.text place := by
    unfold statementOf at inside
    split at inside
    · split at inside
      · cases inside
      · cases List.mem_singleton.1 inside
        exact ⟨_, rfl⟩
    · cases List.mem_singleton.1 inside
      exact ⟨_, rfl⟩
    · cases inside
  induction parts generalizing position pending with
  | nil => exact literal inside
  | cons first parts ih =>
    rw [statementsFrom] at inside
    split at inside
    · exact ih inside
    · rcases List.mem_append.1 inside with before | inside
      · exact literal before
      · rcases List.mem_append.1 inside with here | later
        · exact part here
        · exact ih later

theorem statements_plain {t : Text}
    (expressions : ∀ s ∈ statements t, s.kind = .expression → s.text.Unbroken) :
    ∀ s ∈ statements t, s.IsPlain := by
  intro s inside
  obtain ⟨place, put⟩ := mem_statementsFrom inside
  refine ⟨?_, expressions s inside⟩
  rw [put]
  exact Int.natCast_nonneg place.line

end Template

structure Settings.SingleLine (s : Settings) : Prop where
  defaultNamespace : s.defaultNamespace.Unbroken
  imports : ∀ name ∈ s.host.imports, name.Unbroken
  baseType : s.host.baseType.Unbroken

def Settings.unit (s : Settings) (relative source t : Text) : CompileUnit :=
  Template.compileUnit s.host ⟨typeName relative, s.defaultNamespace, source, s.linePragmas⟩ t

theorem Settings.SingleLine.unit {settings : Settings} (single : settings.SingleLine)
    {source : Text} (unbroken : source.Unbroken) (relative t : Text) :
    (settings.unit relative source t).SingleLine where
  sourceFile := unbroken
  namespaceName := single.defaultNamespace
  imports := by
    intro name inside
    rcases (ImportSet.mem_insertAll _ _).1 inside with none | ⟨added, -⟩
    · cases none
    · obtain ⟨given, among, rfl⟩ := List.mem_map.1 added
      exact (single.imports given among).trim
  typeName := typeName_unbroken relative
  visibility := show Text.Unbroken "public".toList by decide
  baseType := single.baseType
  attributes := List.forall_mem_nil _
  constructors := List.forall_mem_singleton.2 ⟨List.forall_mem_nil _, List.forall_mem_nil _⟩
  entryMethod := show Text.Unbroken "Execute".toList by decide

theorem Settings.unit_renderable (s : Settings) (relative source t : Text) :
    (s.unit relative source t).Renderable :=
  ⟨List.forall_mem_nil _, fun _ => rfl⟩

/-- The result of a pass over an inline text, without directives and in the language of a name,
when the template lies below the base directory that the pragmas are made relative to. -/
def passBelow (settings : Settings) (language text relative base below : Text)
    (files : FileTree) : Except Failure PassResult := do
  let path := Pragma.normalDirectory base ++ '/' :: below
  let request : Request := ⟨path, relative, some language, []⟩
  let g ← Generator.create Encoding.noCodecs settings request (some text)
  let c ← build [] "rewrite_line_pragmas".toList [("base_dir".toList, .text base)]
  (g.run hooks files c).result

theorem Generator.run_relativizePragmas (settings : Settings) (l : Language)
    (language : Option Text) (source relative text : Text) (files : FileTree) (directory : Text) :
    (Generator.run ⟨⟨source, relative, language, []⟩, settings, l, .inline text⟩ hooks files
      (.relativizePragmas directory)).result =
        match l.render (settings.unit relative source text) with
        | .ok code => .ok (.code (Pragma.relativize directory (l.wrap code)))
        | .error f => .ok (.failure .render f) := by
  have result := Pass.run_result hooks
    (Generator.collaborators ⟨⟨source, relative, language, []⟩, settings, l, .inline text⟩ files)
    source (Generator.context ⟨⟨source, relative, language, []⟩, settings, l, .inline text⟩)
    (.relativizePragmas directory) rfl
  -- Reading, parsing and both hooks always come to something, so only the renderer can fail.
  refine result.trans ?_
  change Except.ok (Pass.settle .render (l.render (settings.unit relative source text)) fun code =>
    .code (Pragma.relativize directory (l.wrap code))) = _
  cases l.render (settings.unit relative source text) <;> rfl

/-- Text that a pragma can hold: it has no quotation mark and is on one line. -/
def Pragma.Quotable (t : Text) : Prop := '"' ∉ t ∧ t.Unbroken

instance (t : Text) : Decidable (Pragma.Quotable t) := inferInstanceAs (Decidable (_ ∧ _))

theorem Pragma.quotable_below {base below : Text} (first : Quotable base)
    (second : Quotable below) : Quotable (normalDirectory base ++ '/' :: below) := by
  have free {c : Char} (other : c ≠ '/') (noBase : c ∉ base) (noBelow : c ∉ below) :
      c ∉ normalDirectory base ++ '/' :: below := by
    intro inside
    rcases List.mem_append.1 inside with before | behind
    · exact (mem_normalPath (mem_normalDirectory before)).2.elim noBase other
    · exact (List.mem_cons.1 behind).elim other noBelow
  exact ⟨free (by decide) first.1 second.1, free (by decide) first.2 second.2⟩

section Below

variable {settings : Settings} (names : settings.SingleLine) {text : Text}
  (plain : ∀ s ∈ Template.statements text, s.kind = .expression → s.text.Unbroken)
  (relative : Text) {base below : Text} (based : Pragma.normalDirectory base ≠ [])
  (quotable : Pragma.Quotable (Pragma.normalDirectory base ++ '/' :: below))

include names plain based quotable

theorem relativize_unit (l : Language) :
    (l.render (settings.unit relative (Pragma.normalDirectory base ++ '/' :: below) text)).map
        (fun code => Pragma.relativize (Pragma.normalDirectory base) (l.wrap code)) =
      (l.render (settings.unit relative (Pragma.normalPath below) text)).map l.wrap := by
  have forward : '\\' ∉ Pragma.normalDirectory base := fun inside =>
    (Pragma.mem_normalPath (Pragma.mem_normalDirectory inside)).1 rfl
  have relocated := l.relativize_render (names.unit quotable.2 relative text)
    quotable.1 (Template.statements_plain plain) (Pragma.normalDirectory base)
  have file : Pragma.relativeTo (Pragma.normalDirectory base)
      (settings.unit relative (Pragma.normalDirectory base ++ '/' :: below) text).sourceFile =
        Pragma.normalPath below :=
    Pragma.relativeTo_below based forward below
  rw [file] at relocated
  exact relocated

theorem passBelow_eq_ok {language : Text} (explicit : language ≠ []) {l : Language}
    (found : Language.find (some language) = .ok l) (files : FileTree) :
    ∃ code, l.render (settings.unit relative (Pragma.normalPath below) text) = .ok code ∧
      passBelow settings language text relative base below files = .ok (.code (l.wrap code)) := by
  obtain ⟨c, rest, rfl⟩ := List.exists_cons_of_ne_nil explicit
  obtain ⟨code, rendered⟩ := (Language.render_ok_iff (l := l)).2
    (settings.unit_renderable relative (Pragma.normalPath below) text)
  refine ⟨code, rendered, ?_⟩
  have relocated := relativize_unit names plain relative based quotable l
  rw [rendered] at relocated
  obtain ⟨whole, written, same⟩ := map_eq_ok_iff.1 relocated
  have created : Generator.create Encoding.noCodecs settings
      ⟨Pragma.normalDirectory base ++ '/' :: below, relative, some (c :: rest), []⟩ (some text) =
      .ok ⟨⟨Pragma.normalDirectory base ++ '/' :: below, relative, some (c :: rest), []⟩, settings,
        l, .inline text⟩ := by
    rw [Generator.create, Language.choose, found]
    rfl
  have built : build [] "rewrite_line_pragmas".toList [("base_dir".toList, .text base)] =
      .ok (.relativizePragmas (Pragma.normalDirectory base)) := rfl
  rw [passBelow, created, built]
  refine (Generator.run_relativizePragmas ..).trans ?_
  rw [written, ← same]

end Below

/-- A template below one directory and below another gives the same code when the line pragmas are
made relative to the directory, whatever else is there. -/
theorem passBelow_independent {settings : Settings} (names : settings.SingleLine) {text : Text}
    (plain : ∀ s ∈ Template.statements text, s.kind = .expression → s.text.Unbroken)
    (relative : Text) {language : Text} (explicit : language ≠ []) {base₁ base₂ below : Text}
    (based₁ : Pragma.normalDirectory base₁ ≠ []) (based₂ : Pragma.normalDirectory base₂ ≠ [])
    (quotable : ∀ t ∈ [below, base₁, base₂], Pragma.Quotable t) (files₁ files₂ : FileTree) :
    passBelow settings language text relative base₁ below files₁ =
        passBelow settings language text relative base₂ below files₂ ∧
      ∀ l, Language.find (some language) = .ok l →
        ∃ code, passBelow settings language text relative base₁ below files₁ =
          .ok (.code code) := by
  obtain ⟨path, first, second⟩ : Pragma.Quotable below ∧ Pragma.Quotable base₁ ∧
      Pragma.Quotable base₂ := by simpa using quotable
  cases found : Language.find (some language) with
  | error f =>
    obtain ⟨c, rest, rfl⟩ := List.exists_cons_of_ne_nil explicit
    have failed (base : Text) (files : FileTree) :
        passBelow settings (c :: rest) text relative base below files = .error f := by
      rw [passBelow, Generator.create, Language.choose, found]
      rfl
    exact ⟨(failed base₁ files₁).trans (failed base₂ files₂).symm, nofun⟩
  | ok l =>
    obtain ⟨code, rendered, passed⟩ := passBelow_eq_ok names plain relative based₁
      (Pragma.quotable_below first path) explicit found files₁
    obtain ⟨other, again, passed'⟩ := passBelow_eq_ok names plain relative based₂
      (Pragma.quotable_below second path) explicit found files₂
    cases rendered.symm.trans again
    exact ⟨passed.trans passed'.symm, fun _ _ => ⟨_, passed⟩⟩

def pragmaInCode : Text := "a\n@\x7b\n#line 1 \"C:/w/b\"\n\x7d@x".toList

def pragmaPass (base : Text) : Except Failure PassResult :=
  passBelow .default "VB".toList pragmaInCode "c".toList base "b\\c".toList .empty

theorem passBelow_independent_pragmaInCode :
    Settings.default.SingleLine ∧
    (∀ s ∈ Template.statements pragmaInCode, s.kind = .expression → s.text.Unbroken) ∧
    "VB".toList ≠ [] ∧ Pragma.normalDirectory "C:\\w\\".toList ≠ [] ∧
    Pragma.normalDirectory "/home/u".toList ≠ [] ∧
    (∀ t ∈ ["b\\c".toList, "C:\\w\\".toList, "/home/u".toList], Pragma.Quotable t) ∧
    pragmaPass "C:\\w\\".toList = pragmaPass "/home/u".toList ∧
    ∃ code, pragmaPass "C:\\w\\".toList = .ok (.code code) := by
  have names : Settings.default.SingleLine := ⟨by decide, by decide, by decide⟩
  have plain : ∀ s ∈ Template.statements pragmaInCode,
      s.kind = .expression → s.text.Unbroken := by decide +kernel
  have explicit : "VB".toList ≠ [] := by decide
  have first : Pragma.normalDirectory "C:\\w\\".toList ≠ [] := by decide
  have second : Pragma.normalDirectory "/home/u".toList ≠ [] := by decide
  have quotable : ∀ t ∈ ["b\\c".toList, "C:\\w\\".toList, "/home/u".toList],
      Pragma.Quotable t := by decide
  obtain ⟨same, succeeds⟩ :=
    passBelow_independent names plain "c".toList explicit first second quotable .empty .empty
  have known : Language.find (some "VB".toList) = .ok .visualBasic := by decide +kernel
  exact ⟨names, plain, explicit, first, second, quotable, same, succeeds _ known⟩

end TemplateCompiler
