import TemplateCompiler.Template.Unit

/-! Which type names are identifiers. A path is named by word characters of which the first is no
digit; the name is an identifier unless the path has a numeral that is neither a decimal digit nor a
letter number, since such a numeral is a word character and is kept. -/

namespace TemplateCompiler

namespace Text

def isNameStart (c : Char) : Bool := c == '_' || isLetter c || isLetterNumber c

def isNamePart (c : Char) : Bool := isNameStart c || isDecimal c

def isName : Text → Bool
  | [] => false
  | c :: rest => isNameStart c && rest.all isNamePart

/-- A numeral that is neither a decimal digit nor a letter number: general category No. -/
def isOtherNumeral (c : Char) : Bool := digitSignRanges.has c || numeralRanges.has c

theorem isIdentifierPart_eq (c : Char) :
    isIdentifierPart c = (isNamePart c || isOtherNumeral c) := by
  rw [isIdentifierPart, isAlphanumeric, isDigit, isNamePart, isNameStart, isOtherNumeral]
  ac_rfl

theorem isOtherNumeral_underscore : isOtherNumeral '_' = false := by decide +kernel

theorem isNamePart_of_isOtherNumeral {c : Char} (other : isOtherNumeral c = true) :
    isNamePart c = false := by
  have underscore : c ≠ '_' := by
    rintro rfl
    rw [isOtherNumeral_underscore] at other
    cases other
  have apart : isLetter c = false ∧ isLetterNumber c = false ∧ isDecimal c = false := by
    rcases Bool.or_eq_true_iff.1 other with sign | numeral
    · exact ⟨CodeRanges.not_has_of_apart (by decide +kernel) sign,
        CodeRanges.not_has_of_apart (by decide +kernel) sign,
        CodeRanges.not_has_of_apart (by decide +kernel) sign⟩
    · exact ⟨CodeRanges.not_has_of_apart (by decide +kernel) numeral,
        CodeRanges.not_has_of_apart (by decide +kernel) numeral,
        CodeRanges.not_has_of_apart (by decide +kernel) numeral⟩
  rw [isNamePart, isNameStart, apart.1, apart.2.1, apart.2.2, beq_eq_false_iff_ne.2 underscore]
  rfl

def nameCharacter (c : Char) : Char := if isIdentifierPart c then c else '_'

theorem isOtherNumeral_nameCharacter (c : Char) :
    isOtherNumeral (nameCharacter c) = isOtherNumeral c := by
  unfold nameCharacter
  split
  · rfl
  · next strange =>
    rw [isIdentifierPart_eq, Bool.or_eq_true, not_or] at strange
    rw [isOtherNumeral_underscore, Bool.eq_false_iff.2 strange.2]

theorem isIdentifierPart_nameCharacter (c : Char) : isIdentifierPart (nameCharacter c) = true := by
  unfold nameCharacter
  split
  · assumption
  · rfl

theorem isNamePart_nameCharacter (c : Char) :
    isNamePart (nameCharacter c) = !isOtherNumeral c := by
  rw [← isOtherNumeral_nameCharacter]
  cases other : isOtherNumeral (nameCharacter c) with
  | true => exact isNamePart_of_isOtherNumeral other
  | false =>
    have part := isIdentifierPart_nameCharacter c
    rw [isIdentifierPart_eq, other, Bool.or_false] at part
    exact part

theorem isDigit_nameCharacter {c : Char} (digit : isDigit c = false) :
    isDigit (nameCharacter c) = false := by
  unfold nameCharacter
  split
  · exact digit
  · rfl

theorem isNameStart_nameCharacter {c : Char} (digit : isDigit c = false) :
    isNameStart (nameCharacter c) = !isOtherNumeral c := by
  have decimal : isDecimal (nameCharacter c) = false :=
    (Bool.or_eq_false_iff.1 (isDigit_nameCharacter digit)).1
  rw [← isNamePart_nameCharacter, isNamePart, decimal, Bool.or_false]

end Text

open Text

theorem typeName_of_digit {c : Char} {path : Text} (digit : isDigit c = true) :
    typeName (c :: path) = '_' :: (c :: path).map nameCharacter := by
  have first : nameCharacter '_' = '_' := rfl
  rw [typeName, if_pos digit, ← first]
  rfl

theorem typeName_of_not_digit {c : Char} {path : Text} (digit : isDigit c = false) :
    typeName (c :: path) = (c :: path).map nameCharacter := by
  rw [typeName, if_neg (Bool.eq_false_iff.1 digit)]
  rfl

theorem typeName_head (path : Text) : ∃ c rest, typeName path = c :: rest ∧ isDigit c = false := by
  cases path with
  | nil => exact ⟨'_', [], rfl, rfl⟩
  | cons c rest =>
    cases digit : isDigit c with
    | true => exact ⟨'_', _, typeName_of_digit digit, rfl⟩
    | false => exact ⟨_, _, typeName_of_not_digit digit, isDigit_nameCharacter digit⟩

theorem isName_map_iff (path : Text) :
    (path.map nameCharacter).all isNamePart = true ↔ ∀ c ∈ path, isOtherNumeral c = false := by
  simp [isNamePart_nameCharacter]

/-- A name is not empty, has word characters only and does not begin with a digit, and it is an
identifier exactly if the path has no other numerals. -/
theorem typeName_isName_iff (path : Text) :
    (∃ c rest, typeName path = c :: rest ∧ isDigit c = false) ∧
      (∀ c ∈ typeName path, isNamePart c = true ∨ isOtherNumeral c = true) ∧
      (isName (typeName path) = true ↔ ∀ c ∈ path, isOtherNumeral c = false) := by
  have word {name : Text} : ∀ c ∈ name.map nameCharacter,
      isNamePart c = true ∨ isOtherNumeral c = true := by
    intro c inside
    obtain ⟨d, -, rfl⟩ := List.mem_map.1 inside
    rw [← Bool.or_eq_true, ← isIdentifierPart_eq]
    exact isIdentifierPart_nameCharacter d
  refine ⟨typeName_head path, ?_⟩
  cases path with
  | nil =>
    exact ⟨List.forall_mem_singleton.2 (.inl rfl), iff_of_true rfl (List.forall_mem_nil _)⟩
  | cons c rest =>
    cases digit : isDigit c with
    | true =>
      rw [typeName_of_digit digit]
      exact ⟨List.forall_mem_cons.2 ⟨.inl rfl, word⟩, isName_map_iff _⟩
    | false =>
      rw [typeName_of_not_digit digit]
      refine ⟨word, ?_⟩
      rw [List.map_cons, isName, Bool.and_eq_true, isNameStart_nameCharacter digit,
        Bool.not_eq_true', isName_map_iff, List.forall_mem_cons]

/-- A fraction is no part of an identifier, and it is kept in a name. -/
theorem typeName_fraction :
    typeName "a½.cshtml".toList = "a½_cshtml".toList ∧ isNamePart '½' = false ∧
      isName (typeName "a½.cshtml".toList) = false := by
  decide +kernel

end TemplateCompiler
