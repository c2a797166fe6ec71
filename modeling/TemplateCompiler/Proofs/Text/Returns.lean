import TemplateCompiler.Proofs.Text.Trim

/-! The two ways to end a line. Putting a carriage return before every line feed changes no place in
a text, and whatever takes both characters alike works the same before and after. -/

namespace TemplateCompiler

namespace Text

/-- The text with a carriage return before every line feed. -/
def withReturns (t : Text) : Text := t.flatMap fun c => if c = '\n' then ['\r', '\n'] else [c]

@[simp] theorem withReturns_nil : withReturns [] = [] := rfl

@[simp] theorem withReturns_feed (t : Text) :
    withReturns ('\n' :: t) = '\r' :: '\n' :: t.withReturns := rfl

theorem withReturns_cons {c : Char} (other : c ≠ '\n') (t : Text) :
    withReturns (c :: t) = c :: t.withReturns := by
  rw [withReturns, List.flatMap_cons, if_neg other]
  rfl

@[simp] theorem withReturns_append (s t : Text) :
    withReturns (s ++ t) = s.withReturns ++ t.withReturns := List.flatMap_append

@[simp] theorem withReturns_eq_nil_iff {t : Text} : t.withReturns = [] ↔ t = [] := by
  cases t with
  | nil => simp
  | cons c t =>
    by_cases feed : c = '\n'
    · simp [feed]
    · simp [withReturns_cons feed]

theorem mem_withReturns {c : Char} (other : c ≠ '\r') {t : Text} : c ∈ t.withReturns ↔ c ∈ t := by
  induction t with
  | nil => simp
  | cons d t ih =>
    by_cases feed : d = '\n'
    · simp [feed, ih, other]
    · simp [withReturns_cons feed, ih]

theorem head_withReturns (t : Text) :
    t.withReturns.head? = t.head?.map fun c => if c = '\n' then '\r' else c := by
  cases t with
  | nil => rfl
  | cons c t =>
    by_cases feed : c = '\n'
    · simp [feed]
    · simp [withReturns_cons feed, feed]

theorem getLast_withReturns (t : Text) : t.withReturns.getLast? = t.getLast? := by
  rcases List.eq_nil_or_concat t with rfl | ⟨front, c, rfl⟩
  · rfl
  · rw [List.concat_eq_append, withReturns_append, List.getLast?_concat]
    by_cases feed : c = '\n'
    · simp [feed]
    · rw [withReturns_cons feed, withReturns_nil, List.getLast?_concat]

section Alike

/-! A test that takes the two characters alike ends in the same place. -/

variable {p : Char → Bool} (alike : p '\r' = p '\n')

include alike

theorem takeWhile_withReturns (t : Text) :
    t.withReturns.takeWhile p = withReturns (t.takeWhile p) := by
  induction t with
  | nil => rfl
  | cons c t ih =>
    by_cases feed : c = '\n'
    · subst feed
      cases passes : p '\n' <;> simp [alike, passes, ih]
    · cases passes : p c <;> simp [withReturns_cons feed, passes, ih]

theorem dropWhile_withReturns (t : Text) :
    t.withReturns.dropWhile p = withReturns (t.dropWhile p) := by
  induction t with
  | nil => rfl
  | cons c t ih =>
    by_cases feed : c = '\n'
    · subst feed
      cases passes : p '\n' <;> simp [alike, passes, ih]
    · cases passes : p c <;> simp [withReturns_cons feed, passes, ih]

theorem all_withReturns (t : Text) : t.withReturns.all p = t.all p := by
  induction t with
  | nil => rfl
  | cons c t ih =>
    by_cases feed : c = '\n'
    · subst feed
      cases passes : p '\n' <;> simp [alike, passes, ih]
    · simp [withReturns_cons feed, ih]

theorem rdropWhile_withReturns (t : Text) :
    t.withReturns.rdropWhile p = withReturns (t.rdropWhile p) := by
  induction t using List.reverseRecOn with
  | nil => rfl
  | append_singleton t c ih =>
    rw [withReturns_append, List.rdropWhile_concat]
    by_cases feed : c = '\n'
    · subst feed
      have both : withReturns t ++ withReturns ['\n'] = withReturns t ++ ['\r'] ++ ['\n'] := by
        simp
      rw [both, List.rdropWhile_concat, List.rdropWhile_concat, alike, ih]
      split <;> simp
    · rw [withReturns_cons feed, withReturns_nil, List.rdropWhile_concat, ih]
      split
      · rfl
      · rw [withReturns_append, withReturns_cons feed, withReturns_nil]

end Alike

theorem isBlank_withReturns (t : Text) : t.withReturns.isBlank = t.isBlank :=
  all_withReturns (by decide) t

theorem trim_withReturns (t : Text) : t.withReturns.trim = t.trim.withReturns := by
  have alike : isBlankChar '\r' = isBlankChar '\n' := by decide
  rw [trim, trimLeft, dropWhile_withReturns alike, trimRight_eq_rdropWhile,
    rdropWhile_withReturns alike]
  rfl

/-- The text with the carriage returns before line feeds taken away. -/
def withoutReturns (t : Text) : Text := replace ['\r', '\n'] ['\n'] t

theorem withoutReturns_withReturns {t : Text} (returnless : '\r' ∉ t) :
    t.withReturns.withoutReturns = t := by
  unfold withoutReturns replace
  induction t with
  | nil => rfl
  | cons c t ih =>
    obtain ⟨other, others⟩ := List.ne_and_not_mem_of_not_mem_cons returnless
    by_cases feed : c = '\n'
    · subst feed
      exact congrArg ('\n' :: ·) (ih others)
    · rw [withReturns_cons feed, replaceFrom, if_neg, ih others]
      simp [List.isPrefixOf, other]

end Text

theorem Position.after_withReturns (p : Position) (t : Text) :
    p.after t.withReturns = p.after t := by
  induction t generalizing p with
  | nil => rfl
  | cons c t ih =>
    by_cases feed : c = '\n'
    · subst feed
      exact ih _
    · rw [Text.withReturns_cons feed]
      exact ih _

end TemplateCompiler
