import TemplateCompiler.Text.Case

/-! Texts in capitals and in small letters. A text in capitals has no small letter of ASCII, and
changing the case makes no text empty. -/

namespace TemplateCompiler.Text

theorem mapRuns_cases (n : Nat) (runs : List CaseRun) :
    mapRuns n runs = n ∨
      ∃ run ∈ runs, run.first ≤ n ∧ n ≤ run.last ∧
        mapRuns n runs = run.target + (n - run.first) := by
  induction runs with
  | nil => exact .inl rfl
  | cons run runs ih =>
    rw [mapRuns]
    split
    · exact .inl rfl
    next reached =>
    split
    · next within => exact .inr ⟨run, List.mem_cons_self, by omega, within.1, rfl⟩
    · rcases ih with same | ⟨run, inside, bounds⟩
      · exact .inl same
      · exact .inr ⟨run, List.mem_cons_of_mem _ inside, bounds⟩

def IsSmall (n : Nat) : Prop := 0x61 ≤ n ∧ n ≤ 0x7A

instance (n : Nat) : Decidable (IsSmall n) := inferInstanceAs (Decidable (_ ∧ _))

theorem mapRuns_upper (n : Nat) : ¬ IsSmall (mapRuns n upperRuns) := by
  have table : ∀ run ∈ upperRuns,
      0x7A < run.target ∨ run.target + (run.last - run.first) < 0x61 := by decide +kernel
  have letters : ∀ k < 26, mapRuns (0x61 + k) upperRuns = 0x41 + k := by decide +kernel
  rintro ⟨low, high⟩
  rcases mapRuns_cases n upperRuns with same | ⟨run, inside, from_, to_, same⟩
  · have capital := letters (n - 0x61) (by omega)
    rw [Nat.add_sub_cancel' (by omega)] at capital
    omega
  · have := table run inside
    omega

theorem small_of_toNat_ofNat {n : Nat} (small : IsSmall (Char.ofNat n).toNat) : IsSmall n := by
  by_cases valid : n.isValidChar
  · have same : Char.ofNat n = Char.ofNatAux n valid := dif_pos valid
    rw [same] at small
    exact small
  · have none : Char.ofNat n = '\x00' := dif_neg valid
    rw [none] at small
    exact absurd small (by decide)

theorem upper_not_small (t : List Char) : ∀ c ∈ upper t, ¬ IsSmall c.toNat := by
  have expansions : ∀ e ∈ upperExpansions, ∀ code ∈ e.2, ¬ IsSmall code := by decide +kernel
  intro c inside small
  obtain ⟨d, -, mapped⟩ := List.mem_flatMap.1 inside
  unfold mapCase at mapped
  split at mapped
  · next codes found =>
    obtain ⟨code, listed, rfl⟩ := List.mem_map.1 mapped
    obtain ⟨key, entry⟩ : ∃ key, (key, codes) ∈ upperExpansions := by
      obtain ⟨l, r, split, -⟩ := List.lookup_eq_some_iff.1 found
      exact ⟨_, split ▸ List.mem_append_right l List.mem_cons_self⟩
    exact expansions _ entry code listed (small_of_toNat_ofNat small)
  · cases List.mem_singleton.1 mapped
    exact mapRuns_upper d.toNat (small_of_toNat_ofNat small)

section Length

variable {runs : List CaseRun} {expansions : List (Nat × List Nat)}

theorem mapCase_ne_nil (each : ∀ e ∈ expansions, e.2 ≠ []) (c : Char) :
    mapCase runs expansions c ≠ [] := by
  unfold mapCase
  split
  · next codes found =>
    obtain ⟨before, after, split, -⟩ := List.lookup_eq_some_iff.1 found
    have entry : (c.toNat, codes) ∈ expansions :=
      split ▸ List.mem_append_right before List.mem_cons_self
    simpa using each _ entry
  · exact List.cons_ne_nil _ _

theorem upper_eq_nil_iff {t : List Char} : upper t = [] ↔ t = [] := by
  have each : ∀ e ∈ upperExpansions, e.2 ≠ [] := by decide +kernel
  cases t with
  | nil => exact iff_of_true rfl rfl
  | cons c t => simp [upper, mapCase_ne_nil each]

theorem lower_eq_nil_iff {t : List Char} : lower t = [] ↔ t = [] := by
  have each : ∀ e ∈ lowerExpansions, e.2 ≠ [] := by decide +kernel
  cases t with
  | nil => exact iff_of_true rfl rfl
  | cons c t =>
    rw [lower, lowerFrom]
    split <;> simp [mapCase_ne_nil each]

end Length

end TemplateCompiler.Text
