import TemplateCompiler.Proofs.Template.Kinds
import TemplateCompiler.Proofs.Template.Location
import TemplateCompiler.Proofs.Template.Writing

/-! Lines of literal text in front of a template. They move what is said about the template down and
join its literal text, and change nothing else. -/

namespace TemplateCompiler

def Position.down (lines : Nat) (p : Position) : Position := ⟨p.line + lines, p.column⟩

def Statement.down (lines : Nat) (s : Statement) : Statement := { s with line := s.line + lines }

def Diagnostic.down (lines : Nat) (d : Diagnostic) : Diagnostic :=
  { d with line := d.line + lines }

namespace Position

theorem next_down (lines : Nat) (p : Position) (c : Char) :
    (p.down lines).next c = (p.next c).down lines := by
  unfold next
  split
  · exact congrArg (Position.mk · 1) (Nat.add_right_comm p.line lines 1)
  · rfl

theorem after_down (lines : Nat) (p : Position) (t : Text) :
    (p.down lines).after t = (p.after t).down lines := by
  induction t generalizing p with
  | nil => rfl
  | cons c t ih =>
    rw [after, List.foldl_cons, next_down]
    exact ih (p.next c)

end Position

namespace Template

section Moving

theorem statementOf_down (lines : Nat) (position : Position) (part : Segment) :
    statementOf (position.down lines) part =
      (statementOf position part).map (Statement.down lines) := by
  cases part with
  | block kind body closed =>
    simp only [statementOf, afterOpening, Position.next_down]
    split <;> rfl
  | implicit expression =>
    simp only [statementOf, Position.next_down]
    rfl
  | _ => rfl

theorem diagnosticOf_down (lines : Nat) (position : Position) (part : Segment) :
    diagnosticOf (position.down lines) part =
      (diagnosticOf position part).map (Diagnostic.down lines) := by
  unfold diagnosticOf
  split <;> rfl

theorem placedFrom_down (lines : Nat) (position : Position) (parts : List Segment) :
    placedFrom (position.down lines) parts =
      (placedFrom position parts).map (Prod.map (Position.down lines) id) := by
  induction parts generalizing position with
  | nil => rfl
  | cons part parts ih =>
    rw [placedFrom, placedFrom, Position.after_down, ih]
    rfl

theorem diagnosticsFrom_down (lines : Nat) (position : Position) (parts : List Segment) :
    diagnosticsFrom (position.down lines) parts =
      (diagnosticsFrom position parts).map (Diagnostic.down lines) := by
  rw [diagnosticsFrom_eq, diagnosticsFrom_eq, placedFrom_down, List.flatMap_map,
    List.map_flatMap]
  exact List.flatMap_congr fun x _ => diagnosticOf_down lines x.1 x.2

theorem code_down (lines : Nat) (position : Position) (pending : Pending) (parts : List Segment) :
    (statementsFrom (position.down lines) pending parts).filter (fun s => !s.isLiteral) =
      ((statementsFrom position none parts).filter fun s => !s.isLiteral).map
        (Statement.down lines) := by
  rw [code_statementsFrom, code_statementsFrom, placedFrom_down, List.flatMap_map,
    List.map_flatMap]
  exact List.flatMap_congr fun x _ => statementOf_down lines x.1 x.2

end Moving

section Reading

theorem readFrom_apart {before : Option Char} (apart : Apart before) (t : Text) :
    readFrom before t = readFrom none t := by
  have step (rest : Text) : readTransition before rest = readTransition none rest := by
    rw [readTransition.eq_def, readTransition.eq_def, apart]
    rfl
  cases t with
  | nil => rw [readFrom, readFrom]
  | cons c t => rw [readFrom, readFrom, step]

theorem writeLiteral_of_free (before : Option Char) {t : Text} (free : '@' ∉ t) :
    writeLiteral before t = t := by
  induction t generalizing before with
  | nil => rfl
  | cons c t ih =>
    have first : c ≠ '@' := (List.ne_of_not_mem_cons free).symm
    rw [writeLiteral, if_neg fun both => first both.1, ih _ (List.not_mem_of_not_mem_cons free)]
    rfl

theorem scan_preamble {p : Text} (free : '@' ∉ p) (ends : p.getLast? = some '\n') (t : Text) :
    scan none .start none (p ++ t) =
      scan none (Position.start.down (p.count '\n')) (some (.start, p)) t := by
  have full : p ≠ [] := by
    rintro rfl
    cases ends
  have read := scan_writeLiteral p none .start none t
  rw [writeLiteral_of_free none free, ends, Position.after_lines .start ends] at read
  have held : addLiteral none .start p = some (Position.start, p) := by simp [addLiteral, full]
  have apart : Apart (some '\n') := rfl
  rw [read, held, scan, Option.some_or, readFrom_apart apart]
  rfl

end Reading

/-- Behind lines without an at sign, a template has the same code statements and diagnostics, as
many lines further down, and its literal text is the lines and then its own. -/
theorem parse_preamble {p : Text} (free : '@' ∉ p) (ends : p.getLast? = some '\n') (t : Text) :
    (statements (p ++ t)).filter (fun s => !s.isLiteral) =
        ((statements t).filter fun s => !s.isLiteral).map (Statement.down (p.count '\n')) ∧
      diagnostics (p ++ t) = (diagnostics t).map (Diagnostic.down (p.count '\n')) ∧
      ((statements (p ++ t)).filter Statement.isLiteral).flatMap Statement.text =
        p ++ ((statements t).filter Statement.isLiteral).flatMap Statement.text := by
  obtain ⟨read, reported⟩ := Prod.mk.inj (scan_preamble free ends t)
  refine ⟨?_, ?_, ?_⟩
  · rw [statements, segments, read]
    exact code_down (p.count '\n') .start (some (.start, p)) (segments t)
  · rw [diagnostics, segments, reported]
    exact diagnosticsFrom_down (p.count '\n') .start (segments t)
  · have held : (literalOf (some (Position.start, p))).flatMap Statement.text = p :=
      List.append_nil p
    rw [statements, segments, read, literal_statementsFrom, held, statements,
      literal_statementsFrom]
    rfl

def preamble : Text := "it's \x7b\r\n\na\n".toList

def belowPreamble : Text := " b @* *@@(c)\n@\x7b\n d'".toList

theorem parse_preamble_open :
    '@' ∉ preamble ∧ preamble.getLast? = some '\n' ∧
    (statements (preamble ++ belowPreamble)).filter (fun s => !s.isLiteral) =
      [⟨.expression, "c".toList, 4, 11⟩, ⟨.code, "d'".toList, 5, 3⟩] ∧
    diagnostics (preamble ++ belowPreamble) = [⟨.openCode, 5, 1⟩] ∧
    ((statements (preamble ++ belowPreamble)).filter Statement.isLiteral).flatMap Statement.text =
      preamble ++ " b \n".toList := by
  have free : '@' ∉ preamble := by decide
  have ends : preamble.getLast? = some '\n' := by decide
  obtain ⟨code, reported, literal⟩ := parse_preamble free ends belowPreamble
  exact ⟨free, ends, code.trans (by decide +kernel), reported.trans (by decide +kernel),
    literal.trans (by decide +kernel)⟩

end Template

end TemplateCompiler
