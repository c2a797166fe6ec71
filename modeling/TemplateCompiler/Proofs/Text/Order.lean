import TemplateCompiler.Text.Surrogate

/-! Texts are ordered as the lists of their characters' numbers are, where a character that stands
for a surrogate has the surrogate's number. -/

namespace TemplateCompiler.Text

theorem codeOf_cases (c : Char) :
    codeOf c = c.toNat ∧ ¬(0xD800 ≤ c.toNat ∧ c.toNat < 0xE000) ∨
      codeOf c + surrogateBase = c.toNat + 0xD800 ∧ 0xD800 ≤ codeOf c ∧ codeOf c < 0xE000 := by
  -- No character has the number of a surrogate.
  have valid := c.valid
  have same : c.toNat = c.val.toNat := rfl
  simp only [UInt32.isValidChar, Nat.isValidChar] at valid
  unfold codeOf surrogate? surrogateBase
  split
  · next half =>
    simp only [Bool.and_eq_true, decide_eq_true_eq] at half
    simp only [Option.getD_some]
    omega
  · exact .inl ⟨rfl, by omega⟩

theorem codeOf_inj {c d : Char} : codeOf c = codeOf d ↔ c = d := by
  refine ⟨fun same => Char.ext (UInt32.toNat_inj.1 ?_), fun same => same ▸ rfl⟩
  have first := codeOf_cases c
  have second := codeOf_cases d
  change c.toNat = d.toNat
  omega

theorem map_codeOf_inj {s t : Text} : s.map codeOf = t.map codeOf ↔ s = t :=
  List.map_inj_right fun _ _ => codeOf_inj.1

theorem atMost_iff {s t : Text} :
    atMost s t = true ↔ s.map codeOf < t.map codeOf ∨ s = t := by
  induction s generalizing t with
  | nil =>
    cases t with
    | nil => exact iff_of_true (by rw [atMost]) (.inr rfl)
    | cons d t => exact iff_of_true (by rw [atMost]) (.inl (List.nil_lt_cons _ _))
  | cons c s ih =>
    cases t with
    | nil => exact iff_of_false (by simp [atMost]) (by simp)
    | cons d t =>
      rw [atMost, List.map_cons, List.map_cons, List.cons_lt_cons_iff, codeOf_inj, List.cons.injEq,
        or_assoc, ← and_or_left, ← ih, Bool.or_eq_true, Bool.and_eq_true, decide_eq_true_eq,
        decide_eq_true_eq]

theorem atMost_trans (s t u : Text) (first : atMost s t = true) (second : atMost t u = true) :
    atMost s u = true := by
  rcases atMost_iff.1 first with below | rfl
  · rcases atMost_iff.1 second with above | rfl
    · exact atMost_iff.2 (.inl (List.lt_trans below above))
    · exact first
  · exact second

theorem atMost_total (s t : Text) : (atMost s t || atMost t s) = true := by
  rw [Bool.or_eq_true, atMost_iff, atMost_iff, ← map_codeOf_inj, ← map_codeOf_inj]
  exact (List.le_total _ _).imp List.le_iff_lt_or_eq.1 List.le_iff_lt_or_eq.1

theorem lt_of_atMost {s t : Text} (atMost : atMost s t = true) (differ : s ≠ t) :
    s.map codeOf < t.map codeOf :=
  (atMost_iff.1 atMost).resolve_right differ

end TemplateCompiler.Text
