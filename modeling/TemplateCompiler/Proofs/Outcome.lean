import TemplateCompiler.Failure

/-! Taking outcomes apart that may be failures: each step before a success was a success. -/

namespace TemplateCompiler

variable {α β : Type} {x : Except Failure α}

theorem toOption_eq_some_iff {ε : Type} {x : Except ε α} {a : α} :
    x.toOption = some a ↔ x = .ok a := by
  cases x <;> simp [Except.toOption]

theorem map_eq_ok_iff {f : α → β} {b : β} : x.map f = .ok b ↔ ∃ a, x = .ok a ∧ f a = b := by
  cases x <;> simp [Except.map]

theorem bind_eq_ok_iff {f : α → Except Failure β} {b : β} :
    x.bind f = .ok b ↔ ∃ a, x = .ok a ∧ f a = .ok b := by
  cases x <;> simp [Except.bind]

theorem map_eq_error_iff {f : α → β} {e : Failure} : x.map f = .error e ↔ x = .error e := by
  cases x <;> simp [Except.map]

theorem do_eq_ok_iff {f : α → Except Failure β} {b : β} :
    (x >>= f) = .ok b ↔ ∃ a, x = .ok a ∧ f a = .ok b :=
  bind_eq_ok_iff

theorem do_eq_error_iff {f : α → Except Failure β} {e : Failure} :
    (x >>= f) = .error e ↔ x = .error e ∨ ∃ a, x = .ok a ∧ f a = .error e := by
  cases x <;> simp [bind, Except.bind]

theorem mapM_ok_iff {f : α → Except Failure β} {xs : List α} :
    (∃ ys, xs.mapM f = .ok ys) ↔ ∀ x ∈ xs, ∃ y, f x = .ok y := by
  induction xs with
  | nil => exact iff_of_true ⟨[], rfl⟩ (List.forall_mem_nil _)
  | cons x xs ih =>
    rw [List.mapM_cons, List.forall_mem_cons, ← ih]
    constructor
    · rintro ⟨_, mapped⟩
      obtain ⟨y, first, mapped⟩ := do_eq_ok_iff.1 mapped
      obtain ⟨ys, others, -⟩ := do_eq_ok_iff.1 mapped
      exact ⟨⟨y, first⟩, ys, others⟩
    · rintro ⟨⟨y, first⟩, ys, others⟩
      exact ⟨y :: ys, do_eq_ok_iff.2 ⟨y, first, do_eq_ok_iff.2 ⟨ys, others, rfl⟩⟩⟩

theorem mem_of_mapM_error {f : α → Except Failure β} {xs : List α} {e : Failure}
    (failed : xs.mapM f = .error e) : ∃ x ∈ xs, f x = .error e := by
  induction xs with
  | nil => cases failed
  | cons x xs ih =>
    rw [List.mapM_cons] at failed
    rcases do_eq_error_iff.1 failed with first | ⟨y, -, failed⟩
    · exact ⟨x, List.mem_cons_self, first⟩
    · rcases do_eq_error_iff.1 failed with later | ⟨ys, -, failed⟩
      · obtain ⟨z, further, given⟩ := ih later
        exact ⟨z, List.mem_cons_of_mem x further, given⟩
      · cases failed

theorem mem_of_mapM_ok {f : α → Except Failure β} {xs : List α} {ys : List β}
    (mapped : xs.mapM f = .ok ys) {y : β} (inside : y ∈ ys) : ∃ x ∈ xs, f x = .ok y := by
  induction xs generalizing ys with
  | nil =>
    cases mapped
    cases inside
  | cons x xs ih =>
    rw [List.mapM_cons] at mapped
    obtain ⟨z, first, mapped⟩ := do_eq_ok_iff.1 mapped
    obtain ⟨zs, others, mapped⟩ := do_eq_ok_iff.1 mapped
    cases mapped
    rcases List.mem_cons.1 inside with rfl | later
    · exact ⟨x, List.mem_cons_self, first⟩
    · obtain ⟨w, further, given⟩ := ih others later
      exact ⟨w, List.mem_cons_of_mem x further, given⟩

end TemplateCompiler
