import TemplateCompiler.Text.Basic

/-! Positions in a text. What is read further on has a later position. -/

namespace TemplateCompiler

namespace Position

/-- A place that is read earlier than another one. -/
def Before (p q : Position) : Prop := p.line < q.line ∨ p.line = q.line ∧ p.column < q.column

theorem Before.ne {p q : Position} (before : p.Before q) : p ≠ q := by
  rintro rfl
  rcases before with line | ⟨-, column⟩
  · exact Nat.lt_irrefl p.line line
  · exact Nat.lt_irrefl p.column column

theorem Before.trans {p q r : Position} (first : p.Before q) (second : q.Before r) :
    p.Before r := by
  unfold Before at *
  omega

theorem before_next (p : Position) (c : Char) : p.Before (p.next c) := by
  unfold Before next
  split
  · exact .inl (Nat.lt_succ_self p.line)
  · exact .inr ⟨rfl, Nat.lt_succ_self p.column⟩

theorem after_append (p : Position) (s t : Text) : p.after (s ++ t) = (p.after s).after t :=
  List.foldl_append

theorem before_after (p : Position) {t : Text} (some : t ≠ []) : p.Before (p.after t) := by
  induction t generalizing p with
  | nil => exact absurd rfl some
  | cons c t ih =>
    have first := p.before_next c
    by_cases last : t = []
    · rw [last]
      exact first
    · exact first.trans (ih (p.next c) last)

theorem line_after (p : Position) (t : Text) : (p.after t).line = p.line + t.count '\n' := by
  induction t generalizing p with
  | nil => rfl
  | cons c t ih =>
    have others := ih (p.next c)
    rw [after, List.foldl_cons, ← after, others, List.count_cons, next]
    by_cases ends : c = '\n'
    · simp only [ends, if_true, beq_self_eq_true]
      omega
    · simp [ends]

theorem after_lines (p : Position) {t : Text} (ends : t.getLast? = some '\n') :
    p.after t = ⟨p.line + t.count '\n', 1⟩ := by
  obtain ⟨front, rfl⟩ := List.getLast?_eq_some_iff.1 ends
  have line := p.line_after (front ++ ['\n'])
  rw [after_append] at line ⊢
  exact congrArg (Position.mk · 1) line

end Position

end TemplateCompiler
