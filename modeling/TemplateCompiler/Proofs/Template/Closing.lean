import Mathlib.Data.List.Infix
import TemplateCompiler.Template.Reader

/-! Where a group or a comment ends depends on its inside alone: what follows the end does not
matter. -/

namespace TemplateCompiler.Template

section Groups

variable {opener closer : Char}

/-- The closer behind a text is the first that ends the group whose inside the text is. -/
def Closes (opener closer : Char) (inside : Text) : Prop :=
  closeGroup opener closer (inside ++ [closer]) = some (inside, [])

instance (inside : Text) : Decidable (Closes opener closer inside) :=
  inferInstanceAs (Decidable (_ = _))

theorem closeFrom_append {state : GroupState} {depth : Nat} {t inside rest : Text} (more : Text)
    (closed : closeFrom opener closer state depth t = some (inside, rest)) :
    closeFrom opener closer state depth (t ++ more) = some (inside, rest ++ more) := by
  induction t generalizing state depth inside with
  | nil => cases closed
  | cons c t ih =>
    rw [closeFrom] at closed
    rw [List.cons_append, closeFrom]
    split at closed
    · next ends =>
      obtain ⟨rfl, rfl⟩ := Prod.mk.inj (Option.some.inj closed)
      rw [if_pos ends]
    · next goes =>
      obtain ⟨⟨i, r⟩, later, same⟩ := Option.map_eq_some_iff.1 closed
      obtain ⟨rfl, rfl⟩ := Prod.mk.inj same
      rw [if_neg goes, ih later]
      rfl

theorem closeFrom_inside {state : GroupState} {depth : Nat} {t inside rest : Text}
    (closed : closeFrom opener closer state depth t = some (inside, rest)) :
    closeFrom opener closer state depth (inside ++ [closer]) = some (inside, []) := by
  induction t generalizing state depth inside with
  | nil => cases closed
  | cons c t ih =>
    rw [closeFrom] at closed
    split at closed
    · next ends =>
      obtain ⟨rfl, rfl⟩ := Prod.mk.inj (Option.some.inj closed)
      rw [List.nil_append, closeFrom, if_pos ⟨ends.1, rfl, ends.2.2⟩]
    · next goes =>
      obtain ⟨⟨i, r⟩, later, same⟩ := Option.map_eq_some_iff.1 closed
      obtain ⟨rfl, rfl⟩ := Prod.mk.inj same
      rw [List.cons_append, closeFrom, if_neg goes, ih later]
      rfl

theorem closeGroup_eq_some_iff {t inside rest : Text} :
    closeGroup opener closer t = some (inside, rest) ↔
      Closes opener closer inside ∧ t = inside ++ closer :: rest := by
  constructor
  · intro closed
    exact ⟨closeFrom_inside closed, closeGroup_eq_append closed⟩
  · rintro ⟨closes, rfl⟩
    have followed := closeFrom_append rest closes
    rwa [List.append_assoc] at followed

theorem closeGroup_eq_none_iff {t : Text} :
    closeGroup opener closer t = none ↔
      ∀ inside, Closes opener closer inside → ¬ inside ++ [closer] <+: t := by
  constructor
  · rintro unclosed inside closes ⟨rest, rfl⟩
    have closed := closeFrom_append rest closes
    rw [closeGroup, closed] at unclosed
    cases unclosed
  · intro never
    cases found : closeGroup opener closer t with
    | none => rfl
    | some split =>
      obtain ⟨closes, same⟩ := closeGroup_eq_some_iff.1 found
      refine absurd ⟨split.2, ?_⟩ (never split.1 closes)
      rw [same, List.append_assoc]
      rfl

end Groups

def commentEnd : Text := ['*', '@']

theorem closeComment_of_free {body : Text} (rest : Text) (free : ¬ commentEnd <:+: body) :
    closeComment (body ++ '*' :: '@' :: rest) = some (body, rest) := by
  induction body with
  | nil => rw [List.nil_append, closeComment, if_pos ⟨rfl, rfl⟩, List.tail_cons]
  | cons c body ih =>
    have goes : ¬ (c = '*' ∧ (body ++ '*' :: '@' :: rest).head? = some '@') := by
      rintro ⟨rfl, follows⟩
      cases body with
      | nil => simp at follows
      | cons d body =>
        rw [List.cons_append, List.head?_cons, Option.some.injEq] at follows
        subst follows
        exact free ⟨[], body, rfl⟩
    have later := ih fun inside => free (inside.trans (List.suffix_cons c body).isInfix)
    rw [List.cons_append, closeComment, if_neg goes, later]
    rfl

theorem free_of_closeComment {t body rest : Text}
    (closed : closeComment t = some (body, rest)) : ¬ commentEnd <:+: body := by
  induction t generalizing body with
  | nil => cases closed
  | cons c t ih =>
    rw [closeComment] at closed
    split at closed
    · obtain ⟨rfl, rfl⟩ := Prod.mk.inj (Option.some.inj closed)
      simp [commentEnd]
    · next goes =>
      obtain ⟨⟨b, r⟩, later, same⟩ := Option.map_eq_some_iff.1 closed
      obtain ⟨rfl, rfl⟩ := Prod.mk.inj same
      intro inside
      rcases List.infix_cons_iff.1 inside with first | further
      · rw [commentEnd, List.cons_prefix_cons] at first
        obtain ⟨rfl, d, rfl⟩ := first
        rw [closeComment_eq_append later] at goes
        exact goes ⟨rfl, rfl⟩
      · exact ih later further

theorem closeComment_eq_some_iff {t body rest : Text} :
    closeComment t = some (body, rest) ↔
      ¬ commentEnd <:+: body ∧ t = body ++ commentEnd ++ rest := by
  constructor
  · intro closed
    refine ⟨free_of_closeComment closed, ?_⟩
    rw [List.append_assoc]
    exact closeComment_eq_append closed
  · rintro ⟨free, rfl⟩
    rw [List.append_assoc]
    exact closeComment_of_free rest free

theorem closeComment_eq_none_iff {t : Text} : closeComment t = none ↔ ¬ commentEnd <:+: t := by
  induction t with
  | nil => simp [closeComment, commentEnd]
  | cons c t ih =>
    have begins : commentEnd <+: c :: t ↔ c = '*' ∧ t.head? = some '@' := by
      cases t <;> simp [commentEnd, eq_comm]
    rw [closeComment, List.infix_cons_iff, begins, not_or, ← ih]
    split
    · next ends => simp [ends]
    · next goes => simp [goes]

end TemplateCompiler.Template
