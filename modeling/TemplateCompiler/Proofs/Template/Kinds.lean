import TemplateCompiler.Proofs.Template.Grouping
import TemplateCompiler.Proofs.Text.Position

/-! The statements of a template told apart by what they are. Those of code come from one part each,
as diagnostics do, wherever literal text stands between them, and the literal texts together are
what the parts add to literal text. -/

namespace TemplateCompiler

def Statement.isLiteral (s : Statement) : Bool := s.kind = .literal

namespace Template

theorem isLiteral_literalOf (pending : Pending) : ∀ s ∈ literalOf pending, s.isLiteral = true := by
  cases pending with
  | none => exact List.forall_mem_nil _
  | some x => exact List.forall_mem_singleton.2 rfl

theorem isLiteral_statementOf (position : Position) (part : Segment) :
    ∀ s ∈ statementOf position part, s.isLiteral = false := by
  cases part with
  | block kind body closed =>
    unfold statementOf
    dsimp only
    split
    · exact List.forall_mem_nil _
    · cases kind <;> exact List.forall_mem_singleton.2 rfl
  | implicit expression => exact List.forall_mem_singleton.2 rfl
  | _ => exact List.forall_mem_nil _

theorem statementOf_literal (position : Position) {part : Segment} {text : Text}
    (literal : part.literal? = some text) : statementOf position part = [] := by
  cases part with
  | block | implicit => cases literal
  | _ => rfl

theorem code_statementsFrom (position : Position) (pending : Pending) (parts : List Segment) :
    (statementsFrom position pending parts).filter (fun s => !s.isLiteral) =
      (placedFrom position parts).flatMap fun x => statementOf x.1 x.2 := by
  have held (pending : Pending) :
      (literalOf pending).filter (fun s => !s.isLiteral) = [] := by
    simpa using isLiteral_literalOf pending
  induction parts generalizing position pending with
  | nil => exact held pending
  | cons part parts ih =>
    rw [statementsFrom, placedFrom, List.flatMap_cons]
    cases contributes : part.literal? with
    | some text => simp only [ih, statementOf_literal position contributes, List.nil_append]
    | none =>
      have own : (statementOf position part).filter (fun s => !s.isLiteral) =
          statementOf position part := by
        simpa using isLiteral_statementOf position part
      simp only [List.filter_append, held, own, ih, List.nil_append]

theorem literal_statementsFrom (position : Position) (pending : Pending) (parts : List Segment) :
    ((statementsFrom position pending parts).filter Statement.isLiteral).flatMap Statement.text =
      (literalOf pending).flatMap Statement.text ++
        parts.flatMap fun part => part.literal?.getD [] := by
  have held (pending : Pending) :
      (literalOf pending).filter Statement.isLiteral = literalOf pending :=
    List.filter_eq_self.2 (isLiteral_literalOf pending)
  induction parts generalizing position pending with
  | nil => rw [statementsFrom, held, List.flatMap_nil, List.append_nil]
  | cons part parts ih =>
    rw [statementsFrom, List.flatMap_cons]
    cases contributes : part.literal? with
    | some text => simp only [ih, literalOf_addLiteral, Option.getD_some, List.append_assoc]
    | none =>
      have own : (statementOf position part).filter Statement.isLiteral = [] := by
        simpa using isLiteral_statementOf position part
      simp only [List.filter_append, List.flatMap_append, held, own, ih]
      rfl

theorem placedFrom_append (position : Position) (parts others : List Segment) :
    placedFrom position (parts ++ others) =
      placedFrom position parts ++
        placedFrom (position.after (parts.flatMap Segment.source)) others := by
  induction parts generalizing position with
  | nil => rfl
  | cons part parts ih =>
    rw [List.cons_append, placedFrom, placedFrom, ih, List.flatMap_cons, Position.after_append,
      List.cons_append]

theorem diagnosticsFrom_eq (position : Position) (parts : List Segment) :
    diagnosticsFrom position parts =
      (placedFrom position parts).flatMap fun x => diagnosticOf x.1 x.2 := by
  induction parts generalizing position with
  | nil => rfl
  | cons part parts ih => rw [diagnosticsFrom, placedFrom, List.flatMap_cons, ih]

theorem code_statements (t : Text) :
    (statements t).filter (fun s => !s.isLiteral) =
      (placed t).flatMap fun x => statementOf x.1 x.2 :=
  code_statementsFrom .start none (segments t)

theorem mem_statements_of_part {t : Text} {passed others : List Segment} {part : Segment}
    (read : segments t = passed ++ part :: others) {s : Statement}
    (stated : s ∈ statementOf (Position.start.after (passed.flatMap Segment.source)) part) :
    s ∈ statements t := by
  have kept : s ∈ (statements t).filter fun s => !s.isLiteral := by
    rw [code_statements, placed, read, placedFrom_append]
    exact List.mem_flatMap.2 ⟨_, List.mem_append_right _ List.mem_cons_self, stated⟩
  exact List.mem_of_mem_filter kept

end Template

end TemplateCompiler
