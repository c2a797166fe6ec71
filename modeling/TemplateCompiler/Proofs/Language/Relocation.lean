import TemplateCompiler.Proofs.Customization.Pragmas
import TemplateCompiler.Proofs.Language.RoundTrip

/-! Making the pragmas of code relative is the same as rendering the unit with a relative source
file: every line that names the file is changed, and no other line is. -/

namespace TemplateCompiler

open Pragma

theorem Text.unbroken_linesFrom {line : Text} (unbroken : line.Unbroken) (afterReturn : Bool)
    (t : Text) : ∀ piece ∈ linesFrom line afterReturn t, piece.Unbroken := by
  have ended {line : Text} (unbroken : line.Unbroken) : Unbroken line.reverse := fun broken =>
    unbroken (List.mem_reverse.1 broken)
  induction t generalizing line afterReturn with
  | nil =>
    unfold linesFrom
    split
    · simp
    · exact List.forall_mem_singleton.2 (ended unbroken)
  | cons c t ih =>
    unfold linesFrom
    split
    · exact ih unbroken_nil false
    split
    · exact List.forall_mem_cons.2 ⟨ended unbroken, ih unbroken_nil _⟩
    · next other =>
      refine ih (unbroken_cons_iff.2 ⟨?_, unbroken⟩) false
      rintro rfl
      exact other rfl

theorem Text.unbroken_lines (t : Text) : ∀ piece ∈ lines t, piece.Unbroken :=
  unbroken_linesFrom unbroken_nil false t

/-- A statement of a template whose code is written line by line. -/
structure Statement.IsPlain (s : Statement) : Prop where
  line : 0 ≤ s.line
  expression : s.kind = .expression → s.text.Unbroken

namespace Spelling

variable {s : Spelling} {r : Reading}

theorem isPragma_bodyLine (line : Text) : Reading.isPragma (bodyLine line) = false := by
  unfold bodyLine
  split <;> rfl

theorem unbroken_bodyLine {line : Text} (unbroken : line.Unbroken) :
    (bodyLine line).Unbroken := by
  unfold bodyLine
  split
  · exact Text.unbroken_nil
  · exact Text.Unbroken.append (by decide) unbroken

theorem unbroken_statementLines (fits : r.Fits s) {t : Statement} (plain : t.IsPlain) :
    ∀ line ∈ s.statementLines t, line.Unbroken := by
  have ending : Text.Unbroken (')' :: s.callEnd) :=
    Text.unbroken_cons_iff.2 ⟨by decide, fits.unbrokenEnd⟩
  unfold statementLines
  split
  · exact List.forall_mem_singleton.2
      ((Text.Unbroken.append (by decide) (unbroken_string fits _)).append ending)
  · next expression =>
    exact List.forall_mem_singleton.2
      ((Text.Unbroken.append (by decide) (plain.expression expression)).append ending)
  · exact Text.unbroken_lines _

end Spelling

namespace Pragma

variable {directory : Text}

theorem relativizes_lines {lines : List Text} (unbroken : ∀ line ∈ lines, line.Unbroken)
    (plain : ∀ line ∈ lines, Reading.isPragma line = false) :
    List.Forall₂ (Relativizes directory) lines lines := by
  exact List.forall₂_same.2 fun line inside =>
    relativizes_plain (unbroken line inside) (plain line inside)

end Pragma

namespace Language

section Lines

variable (l : Language) {u : CompileUnit} {attributes : List Text} {directory path : Text}

theorem relativizes_statementBody (quoted : '"' ∉ path) (unbroken : path.Unbroken)
    (pragmas : Bool) {t : Statement} (plain : t.IsPlain) :
    List.Forall₂ (Relativizes directory) (l.spelling.statementBody path pragmas t)
      (l.spelling.statementBody (relativeTo directory path) pragmas t) := by
  have lines : List.Forall₂ (Relativizes directory)
      ((l.spelling.statementLines t).map Spelling.bodyLine)
      ((l.spelling.statementLines t).map Spelling.bodyLine) := by
    refine relativizes_lines (List.forall_mem_map.2 fun line inside => ?_)
      (List.forall_mem_map.2 fun line _ => Spelling.isPragma_bodyLine line)
    exact Spelling.unbroken_bodyLine (Spelling.unbroken_statementLines l.fits plain line inside)
  unfold Spelling.statementBody
  cases pragmas with
  | false => exact lines
  | true =>
    obtain ⟨number, numbered⟩ := Int.eq_ofNat_of_zero_le plain.line
    rw [numbered]
    exact .cons (relativizes_pragmaOpen l quoted number unbroken (unbroken_relativeTo unbroken))
      (List.rel_append lines (List.forall₂_same.2 (relativizes_pragmaClose l)))

theorem importLines_plain (names : List Text) :
    ∀ line ∈ l.reading.importLines names, Reading.isPragma line = false := by
  have blank : ∀ line ∈ (if names.isEmpty then [] else [[]] : List Text),
      Reading.isPragma line = false := by
    split <;> simp [Reading.isPragma]
  refine List.forall_mem_append.2 ⟨List.forall_mem_map.2 fun name _ => ?_, blank⟩
  cases l <;> rfl

theorem lines_plain (names : List Text) :
    ∀ line ∈ (l.frame u attributes).lines names [], Reading.isPragma line = false := by
  have imports := l.importLines_plain names
  cases l with
  | csharp =>
    have opening : ∀ line ∈ (CSharp.frame u attributes).opening, Reading.isPragma line = false :=
      List.forall_mem_cons.2 ⟨rfl, List.forall_mem_singleton.2 rfl⟩
    have middle : ∀ line ∈ CSharp.middle u attributes, Reading.isPragma line = false :=
      CSharp.forall_middle (fun _ _ => rfl) rfl rfl
        (fun _ _ => CSharp.forall_constructorLines rfl rfl (fun _ _ => rfl) rfl) rfl
    have closing : ∀ line ∈ "        \x7b".toList :: CSharp.closing,
        Reading.isPragma line = false := by decide
    exact List.forall_mem_append.2 ⟨opening, List.forall_mem_append.2 ⟨imports,
      List.forall_mem_append.2 ⟨middle, closing⟩⟩⟩
  | visualBasic =>
    have opening : ∀ line ∈ VisualBasic.opening, Reading.isPragma line = false := by decide
    have middle : ∀ line ∈ VisualBasic.middle u attributes, Reading.isPragma line = false :=
      VisualBasic.forall_middle rfl (fun _ _ => rfl) rfl rfl
        fun _ _ => VisualBasic.forall_constructorLines rfl rfl (fun _ _ => rfl) rfl
    have closing : ∀ line ∈ VisualBasic.closing, Reading.isPragma line = false := by decide
    exact List.forall_mem_append.2 ⟨opening, List.forall_mem_append.2 ⟨imports,
      List.forall_mem_append.2 ⟨middle, List.forall_mem_cons.2 ⟨rfl, closing⟩⟩⟩⟩

theorem forall₂_lines {r : Reading} (f : r.Frame) {R : Text → Text → Prop} {names : List Text}
    (steady : ∀ line ∈ f.lines names [], R line line) {method written : List Text}
    (inMethod : List.Forall₂ R method written) :
    List.Forall₂ R (f.lines names method) (f.lines names written) := by
  obtain ⟨opening, later⟩ := List.forall_mem_append.1 steady
  obtain ⟨imports, later⟩ := List.forall_mem_append.1 later
  obtain ⟨middle, later⟩ := List.forall_mem_append.1 later
  obtain ⟨last, closing⟩ := List.forall_mem_cons.1 later
  exact List.rel_append (List.forall₂_same.2 opening) (List.rel_append (List.forall₂_same.2 imports)
    (List.rel_append (List.forall₂_same.2 middle) (.cons last
      (List.rel_append inMethod (List.forall₂_same.2 closing)))))

theorem relativizes_layout (single : u.SingleLine) (quoted : '"' ∉ u.sourceFile)
    (plain : ∀ t ∈ u.type.entryMethod.statements, t.IsPlain)
    (forms : ∀ form ∈ attributes, form.Unbroken) :
    List.Forall₂ (Relativizes directory) (l.layout u attributes)
      (l.layout { u with sourceFile := relativeTo directory u.sourceFile } attributes) := by
  have body : List.Forall₂ (Relativizes directory) (l.spelling.body u)
      (l.spelling.body { u with sourceFile := relativeTo directory u.sourceFile }) := by
    unfold Spelling.body
    dsimp only
    generalize u.type.entryMethod.statements = statements at plain
    induction statements with
    | nil => exact .nil
    | cons t statements ih =>
      obtain ⟨first, others⟩ := List.forall_mem_cons.1 plain
      exact List.rel_append
        (l.relativizes_statementBody quoted single.sourceFile _ first) (ih others)
  have same : l.frame { u with sourceFile := relativeTo directory u.sourceFile } attributes =
      l.frame u attributes := by
    cases l <;> rfl
  obtain ⟨-, start, stop⟩ := l.importMarks_unbroken
  have unbroken := Reading.lines_unbroken _ (l.frame_unbroken single forms) start stop
    single.imports (List.forall_mem_nil _)
  have steady : ∀ line ∈ (l.frame u attributes).lines u.imports.names [],
      Relativizes directory line line := fun line inside =>
    relativizes_plain (unbroken line inside) (l.lines_plain _ line inside)
  rw [layout_eq, layout_eq, same]
  exact forall₂_lines _ steady body

def preLines : Language → List Text
  | .csharp => ["#pragma warning disable 1591".toList]
  | .visualBasic => []

def postLines : Language → List Text
  | .csharp => ["#pragma warning restore 1591".toList]
  | .visualBasic => []

theorem wrap_unlines (lines : List Text) :
    l.wrap (Text.unlines lines) = Text.unlines (l.preLines ++ lines ++ l.postLines) := by
  have pre : l.preBlock = Text.unlines l.preLines := by cases l <;> decide
  have post : l.postBlock = Text.unlines l.postLines := by cases l <;> decide
  rw [wrap, pre, post]
  simp only [Text.unlines, List.flatMap_append]

theorem relativizes_preLines :
    ∀ line ∈ l.preLines ++ l.postLines, Relativizes directory line line := by
  cases l with
  | csharp =>
    exact List.forall_mem_cons.2 ⟨.kept (by decide) (fun _ => rfl) fun _ => rfl,
      List.forall_mem_singleton.2 (.kept (by decide) (fun _ => rfl) fun _ => rfl)⟩
  | visualBasic => exact List.forall_mem_nil _

/-- Code with relative pragmas is the code of the unit with a relative source file. -/
theorem relativize_render (single : u.SingleLine) (quoted : '"' ∉ u.sourceFile)
    (plain : ∀ t ∈ u.type.entryMethod.statements, t.IsPlain) (directory : Text) :
    (l.render u).map (fun code => relativize directory (l.wrap code)) =
      (l.render { u with sourceFile := relativeTo directory u.sourceFile }).map l.wrap := by
  unfold render renderLines
  cases written : u.type.attributes.mapM l.spelling.attributeText with
  | error f => simp [bind, Except.bind, Except.map]
  | ok attributes =>
    cases based : checkBaseType u.type.baseType with
    | error f => simp [bind, Except.bind, Except.map]
    | ok _ =>
      have layout : List.Forall₂ (Relativizes directory) _ _ :=
        l.relativizes_layout single quoted plain (l.attributes_unbroken single written)
      have around : ∀ line ∈ l.preLines ++ l.postLines, Relativizes directory line line :=
        l.relativizes_preLines
      obtain ⟨before, behind⟩ := List.forall_mem_append.1 around
      have whole := List.rel_append (List.rel_append (List.forall₂_same.2 before) layout)
        (List.forall₂_same.2 behind)
      simp only [bind, Except.bind, pure, Except.pure, Except.map, wrap_unlines]
      rw [relativize_unlines whole]

end Lines

end Language

end TemplateCompiler
