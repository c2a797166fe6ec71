/-! Sets of characters given by ranges of code points. -/

namespace TemplateCompiler.Text

/-- Ranges of code points, both ends included, in ascending order. -/
abbrev CodeRanges := List (Nat × Nat)

/-- The ranges ascend, so the search ends at the first range beyond `n`. -/
def CodeRanges.hasCode (n : Nat) : CodeRanges → Bool
  | [] => false
  | (first, last) :: rest =>
    if n < first then false else if n ≤ last then true else hasCode n rest

def CodeRanges.has (ranges : CodeRanges) (c : Char) : Bool := ranges.hasCode c.toNat

namespace CodeRanges

def apart : CodeRanges → CodeRanges → Bool
  | [], _ => true
  | (first, last) :: rest, others =>
    let above := others.dropWhile fun r => r.2 < first
    above.head?.all (fun r => last < r.1) && apart rest above

theorem hasCode_dropWhile {n first : Nat} (lower : first ≤ n) {ranges : CodeRanges}
    (has : ranges.hasCode n = true) : hasCode n (ranges.dropWhile fun r => r.2 < first) = true := by
  induction ranges with
  | nil => exact has
  | cons r rest ih =>
    rw [List.dropWhile_cons]
    split
    · next below =>
      have passed : ¬n ≤ r.2 := Nat.not_le.2 (Nat.lt_of_lt_of_le (of_decide_eq_true below) lower)
      rw [hasCode, if_neg passed] at has
      split at has
      · cases has
      · exact ih has
    · exact has

theorem not_has_of_apart {ranges others : CodeRanges} (separate : ranges.apart others = true)
    {c : Char} (has : ranges.has c = true) : others.has c = false := by
  unfold CodeRanges.has at *
  refine Bool.eq_false_iff.2 fun both => ?_
  induction ranges generalizing others with
  | nil => cases has
  | cons r rest ih =>
    rw [apart, Bool.and_eq_true] at separate
    rw [hasCode] at has
    split at has
    · cases has
    · next lower =>
      have above := hasCode_dropWhile (Nat.le_of_not_lt lower) both
      split at has
      · next upper =>
        -- the first of the others above the range begins behind it, and the search stops there
        revert above separate
        cases others.dropWhile fun s => s.2 < r.1 with
        | nil => exact fun _ above => nomatch above
        | cons s t =>
          intro separate above
          have behind : c.toNat < s.1 := Nat.lt_of_le_of_lt upper (of_decide_eq_true separate.1)
          rw [hasCode, if_pos behind] at above
          cases above
      · exact ih separate.2 has above

end CodeRanges

end TemplateCompiler.Text
