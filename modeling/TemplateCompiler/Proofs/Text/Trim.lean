import Mathlib.Data.List.DropRight
import TemplateCompiler.Text.Basic

/-! Where a run of characters of one kind stops. Trimming takes the runs of blanks at both ends of a
text away and nothing else. -/

namespace TemplateCompiler.Text

section Runs

variable {p : Char → Bool} {s rest : Text}

theorem head_dropWhile (p : Char → Bool) (t : Text) :
    ∀ c ∈ (t.dropWhile p).head?, p c = false := by
  intro c follows
  have stop := List.head?_dropWhile_not p t
  rw [Option.mem_def.1 follows] at stop
  simpa using stop

theorem takeWhile_append_of_stop (each : ∀ c ∈ s, p c = true)
    (stop : ∀ c ∈ rest.head?, p c = false) : (s ++ rest).takeWhile p = s := by
  rw [List.takeWhile_append_of_pos each]
  cases rest with
  | nil => exact List.append_nil s
  | cons c rest => rw [List.takeWhile_cons_of_neg (by simp [stop c rfl]), List.append_nil]

theorem dropWhile_append_of_stop (each : ∀ c ∈ s, p c = true)
    (stop : ∀ c ∈ rest.head?, p c = false) : (s ++ rest).dropWhile p = rest := by
  rw [List.dropWhile_append_of_pos each]
  cases rest with
  | nil => rfl
  | cons c rest => exact List.dropWhile_cons_of_neg (by simp [stop c rfl])

end Runs

theorem append_separator_inj {s t u v : Text} {c : Char} (second : c ∉ t) (fourth : c ∉ v) :
    s ++ c :: t = u ++ c :: v ↔ s = u ∧ t = v := by
  constructor
  · intro same
    have behind {s t : Text} (free : c ∉ t) :
        (s ++ c :: t).reverse.takeWhile (· != c) = t.reverse := by
      rw [List.reverse_append, List.reverse_cons, List.append_assoc, List.singleton_append]
      refine takeWhile_append_of_stop (fun d inside => bne_iff_ne.2 ?_) (by simp)
      rintro rfl
      exact free (List.mem_reverse.1 inside)
    have last : t = v := by
      have ends := behind (s := s) second
      rw [same, behind fourth] at ends
      exact (List.reverse_inj.1 ends).symm
    exact ⟨List.append_cancel_right (last ▸ same), last⟩
  · rintro ⟨rfl, rfl⟩
    rfl

theorem trimRight_eq_rdropWhile (t : Text) : t.trimRight = t.rdropWhile isBlankChar := rfl

theorem exists_trim (t : Text) :
    ∃ l r : Text, t = l ++ t.trim ++ r ∧ l.isBlank ∧ r.isBlank := by
  refine ⟨t.takeWhile isBlankChar, t.trimLeft.rtakeWhile isBlankChar, ?_, ?_, ?_⟩
  · rw [trim, trimRight_eq_rdropWhile, List.append_assoc, List.rdropWhile_append_rtakeWhile]
    exact List.takeWhile_append_dropWhile.symm
  · exact List.all_eq_true.2 fun c inside => List.mem_takeWhile_imp inside
  · exact List.all_eq_true.2 fun c inside => List.mem_rtakeWhile_imp inside

theorem trim_eq_nil_iff (t : Text) : t.trim = [] ↔ t.isBlank := by
  constructor
  · intro nothing
    obtain ⟨l, r, split, blankL, blankR⟩ := t.exists_trim
    rw [nothing, List.append_nil] at split
    rw [split, isBlank, List.all_append]
    exact Bool.and_eq_true_iff.2 ⟨blankL, blankR⟩
  · intro blank
    have left : t.trimLeft = [] := List.dropWhile_eq_nil_iff.2 (List.all_eq_true.1 blank)
    rw [trim, left]
    rfl

theorem head_trim (t : Text) : ∀ c ∈ t.trim.head?, isBlankChar c = false := by
  intro c first
  obtain ⟨rest, split⟩ : t.trim <+: t.trimLeft := t.trimLeft.rdropWhile_prefix isBlankChar
  have whole : t.trimLeft.head? = some c := by
    rw [← split, List.head?_append, Option.mem_def.1 first, Option.some_or]
  exact head_dropWhile isBlankChar t c whole

theorem getLast_trim (t : Text) : ∀ c ∈ t.trim.getLast?, isBlankChar c = false := by
  intro c last
  obtain ⟨some, rfl⟩ := List.mem_getLast?_eq_getLast last
  exact Bool.eq_false_iff.2 (List.rdropWhile_last_not isBlankChar t.trimLeft some)

theorem trim_eq_self {t : Text} (first : ∀ c ∈ t.head?, isBlankChar c = false)
    (last : ∀ c ∈ t.getLast?, isBlankChar c = false) : t.trim = t := by
  have left : t.trimLeft = t := by
    cases t with
    | nil => rfl
    | cons c t => exact List.dropWhile_cons_of_neg (by simp [first c rfl])
  rw [trim, left, trimRight_eq_rdropWhile, List.rdropWhile_eq_self_iff]
  intro some
  simp [last (t.getLast some) (List.getLast?_eq_some_getLast some)]

theorem trim_trim (t : Text) : t.trim.trim = t.trim := trim_eq_self t.head_trim t.getLast_trim

theorem not_blank_of_identifierPart {c : Char} (part : isIdentifierPart c) :
    isBlankChar c = false := by
  refine Bool.eq_false_iff.2 fun blank => ?_
  have letter : letterRanges.has c = false :=
    CodeRanges.not_has_of_apart (by decide +kernel) blank
  have decimal : decimalRanges.has c = false :=
    CodeRanges.not_has_of_apart (by decide +kernel) blank
  have digit : digitSignRanges.has c = false :=
    CodeRanges.not_has_of_apart (by decide +kernel) blank
  have number : letterNumberRanges.has c = false :=
    CodeRanges.not_has_of_apart (by decide +kernel) blank
  have numeral : numeralRanges.has c = false :=
    CodeRanges.not_has_of_apart (by decide +kernel) blank
  have underscore : c = '_' := by
    simpa [isIdentifierPart, isAlphanumeric, isLetter, isDigit, isDecimal, isLetterNumber,
      letter, decimal, digit, number, numeral] using part
  subst underscore
  exact absurd blank (by decide)

end TemplateCompiler.Text
