import TemplateCompiler.Proofs.Text.Trim
import TemplateCompiler.Template.Implicit

/-! An implicit expression ends in a name or a bracket, never in a blank. -/

namespace TemplateCompiler.Template

theorem isIdentifierPart_of_start {c : Char} (starts : Text.isIdentifierStart c = true) :
    Text.isIdentifierPart c = true := by
  rcases Bool.or_eq_true_iff.1 starts with letter | underscore
  · simp [Text.isIdentifierPart, Text.isAlphanumeric, letter]
  · simp [Text.isIdentifierPart, underscore]

/-- The characters that can stand at the end of an expression. -/
def mayEnd (c : Char) : Bool := Text.isIdentifierPart c || c == ')' || c == ']'

def Ended (t : Text) : Prop := ∀ c ∈ t.getLast?, mayEnd c = true

theorem not_blank_of_mayEnd {c : Char} (ends : mayEnd c = true) : Text.isBlankChar c = false := by
  simp only [mayEnd, Bool.or_eq_true, beq_iff_eq] at ends
  rcases ends with (part | rfl) | rfl
  · exact Text.not_blank_of_identifierPart part
  · decide
  · decide

theorem Ended.append {s t : Text} (first : Ended s) (second : Ended t) : Ended (s ++ t) := by
  intro c last
  rw [List.getLast?_append, Option.mem_def, Option.or_eq_some_iff] at last
  rcases last with last | ⟨-, last⟩
  · exact second c last
  · exact first c last

theorem Ended.cons {t : Text} (ended : Ended t) (full : t ≠ []) (c : Char) : Ended (c :: t) := by
  obtain ⟨d, t, rfl⟩ := List.exists_cons_of_ne_nil full
  intro last ends
  rw [List.getLast?_cons_cons] at ends
  exact ended last ends

theorem takeName_ended (t : Text) : Ended (takeName t).1 := by
  intro c last
  have part : Text.isIdentifierPart c = true :=
    List.mem_takeWhile_imp (List.mem_of_mem_getLast? last)
  simp [mayEnd, part]

theorem takeName_ne_nil {c : Char} (starts : Text.isIdentifierStart c = true) (t : Text) :
    (takeName (c :: t)).1 ≠ [] := by
  simp [takeName, isIdentifierPart_of_start starts]

theorem mayEnd_of_call {c closer : Char} (call : callCloser? c = some closer) :
    mayEnd closer = true := by
  unfold callCloser? at call
  split at call
  · cases call
    decide
  · split at call
    · cases call
      decide
    · cases call

theorem takeLink_ended {t link rest : Text} (taken : takeLink t = some (link, rest)) :
    Ended link := by
  unfold takeLink at taken
  split at taken
  · cases taken
  next c tail =>
  split at taken
  · split at taken
    · cases taken
    next d more =>
    split at taken
    · next starts =>
      cases taken
      exact (takeName_ended (d :: more)).cons (takeName_ne_nil starts more) '.'
    · cases taken
  · split at taken
    · cases taken
    next closer call =>
    obtain ⟨⟨inside, after⟩, -, same⟩ := Option.map_eq_some_iff.1 taken
    cases same
    intro last ends
    rw [List.getLast?_concat, Option.mem_some_iff] at ends
    exact ends ▸ mayEnd_of_call call

theorem takeLinks_of_none {t : Text} (none : takeLink t = none) : takeLinks t = ([], t) := by
  rw [takeLinks]
  split
  · rfl
  · next found => cases none.symm.trans found

theorem takeLinks_of_some {t link rest : Text} (taken : takeLink t = some (link, rest)) :
    takeLinks t = (link ++ (takeLinks rest).1, (takeLinks rest).2) := by
  rw [takeLinks]
  split
  · next none => cases taken.symm.trans none
  · next found =>
    cases taken.symm.trans found
    rfl

theorem takeLinks_ended (t : Text) : Ended (takeLinks t).1 := by
  fun_induction takeLinks t with
  | case1 t => simp [Ended]
  | case2 t link rest taken links after later ih =>
    rw [later] at ih
    exact (takeLink_ended taken).append ih

theorem takeImplicit_ended (t : Text) : Ended (takeImplicit t).1 :=
  (takeName_ended t).append (takeLinks_ended _)

theorem takeImplicit_named {t : Text} (named : t.head?.any Text.isIdentifierStart = true) :
    (takeImplicit t).1.head?.any Text.isIdentifierStart = true := by
  cases t with
  | nil => cases named
  | cons c t =>
    have starts : Text.isIdentifierStart c = true := named
    simp [takeImplicit, takeName, isIdentifierPart_of_start starts, starts]

theorem takeImplicit_trim {t expression rest : Text}
    (named : expression.head?.any Text.isIdentifierStart = true)
    (taken : takeImplicit t = (expression, rest)) :
    expression.trim = expression ∧ expression ≠ [] := by
  constructor
  · apply Text.trim_eq_self
    · intro c first
      rw [Option.mem_def.1 first] at named
      exact Text.not_blank_of_identifierPart (isIdentifierPart_of_start named)
    · have ended := takeImplicit_ended t
      rw [taken] at ended
      exact fun c last => not_blank_of_mayEnd (ended c last)
  · rintro rfl
    cases named

end TemplateCompiler.Template
