import TemplateCompiler.Proofs.Language.Quoting
import TemplateCompiler.Text.Quoted

/-! Texts without half characters. Quoting writes a half character by its number, so that a quoted
text is whole whatever it quotes. -/

namespace TemplateCompiler.Text

theorem CodeRanges.hasCode_append {n : Nat} {front : CodeRanges}
    (below : ∀ r ∈ front, r.1 ≤ r.2 ∧ r.2 < n) (rest : CodeRanges) :
    CodeRanges.hasCode n (front ++ rest) = rest.hasCode n := by
  induction front with
  | nil => rfl
  | cons r front ih =>
    obtain ⟨first, others⟩ := List.forall_mem_cons.1 below
    rw [List.cons_append, hasCode, if_neg (by omega), if_neg (by omega), ih others]

theorem surrogate?_eq_none {c : Char} (low : c.toNat < surrogateBase) : surrogate? c = none := by
  simp [surrogate?, Nat.not_le.2 low]

theorem surrogate?_isSome_iff {c : Char} :
    (surrogate? c).isSome = true ↔ 0xDF000 ≤ c.toNat ∧ c.toNat < 0xDF800 := by
  unfold surrogate? surrogateBase
  split <;> simp_all

theorem isPrintable_surrogate {c : Char} (half : (surrogate? c).isSome = true) :
    isPrintable c = false := by
  have last : unprintableRanges.dropLast.dropLast ++ [(0x3134B, 0xE00FF), (0xE01F0, 0x10FFFF)] =
      unprintableRanges := by decide +kernel
  have below : ∀ r ∈ unprintableRanges.dropLast.dropLast, r.1 ≤ r.2 ∧ r.2 < 0xDF000 := by
    decide +kernel
  have bounds := surrogate?_isSome_iff.1 half
  have found : unprintableRanges.has c = true := by
    rw [← last, CodeRanges.has, CodeRanges.hasCode_append]
    · rw [CodeRanges.hasCode, if_neg (by omega), if_pos (by omega)]
    · intro r inside
      have := below r inside
      omega
  rw [isPrintable, found]
  rfl

theorem isWhole_append (s t : Text) : (s ++ t).isWhole = (s.isWhole && t.isWhole) :=
  List.all_append

theorem isWhole_cons (c : Char) (t : Text) :
    isWhole (c :: t) = ((surrogate? c).isNone && t.isWhole) := List.all_cons

theorem isWhole_flatMap {f : Char → Text} {t : Text} (each : ∀ c ∈ t, (f c).isWhole = true) :
    isWhole (t.flatMap f) = true := by
  simpa [isWhole, List.all_flatMap] using each

theorem isWhole_ofNat (n : Nat) : (ofNat n).isWhole = true := by
  refine List.all_eq_true.2 fun c inside => ?_
  have digit := (Char.isDigit_iff_toNat.1 (isDigit_ofNat n c inside)).2
  have nine : '9'.toNat = 0x39 := rfl
  rw [surrogate?_eq_none (by rw [surrogateBase]; omega)]
  rfl

theorem isWhole_hex (width n : Nat) : (hex width n).isWhole = true := by
  have digits : ∀ k < 16, (surrogate? (hexDigit k)).isNone = true := by decide
  induction width generalizing n with
  | zero => rfl
  | succ width ih =>
    rw [hex, isWhole_append, ih, isWhole_cons, digits _ (Nat.mod_lt n (by decide))]
    rfl

theorem isWhole_escapedCode (n : Nat) : (escapedCode n).isWhole = true := by
  unfold escapedCode
  repeat' split
  all_goals exact isWhole_hex ..

theorem isWhole_quotedChar {q : Char} (mark : (surrogate? q).isNone = true) (c : Char) :
    (quotedChar q c).isWhole = true := by
  unfold quotedChar
  split
  · next special =>
    rcases special with rfl | rfl
    · simp [isWhole, mark, surrogate?_eq_none (c := '\\') (by decide)]
    · rfl
  split
  · rfl
  split
  · rfl
  split
  · rfl
  split
  · next printable =>
    cases half : surrogate? c with
    | none => simp [isWhole, half]
    | some n =>
      rw [isPrintable_surrogate (by simp [half])] at printable
      cases printable
  · exact isWhole_escapedCode _

theorem isWhole_quoted (t : Text) : t.quoted.isWhole = true := by
  have mark : (surrogate? t.quoteMark).isNone = true := by
    unfold quoteMark
    split <;> rfl
  rw [quoted, List.cons_append, isWhole_cons, isWhole_append,
    isWhole_flatMap fun c _ => isWhole_quotedChar mark c, mark]
  simp [isWhole, mark]

end TemplateCompiler.Text
