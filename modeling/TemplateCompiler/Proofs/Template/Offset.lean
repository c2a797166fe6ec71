import TemplateCompiler.Proofs.Template.Bracketed

/-! The end of a group by offsets: a loop over the text, and one over each quoted string in it. A
backslash in a string takes the loop two characters further, and so perhaps beyond the end of the
text. Both loops end, and what they find is the closer that the grammar of groups asks for. -/

namespace TemplateCompiler.Template

section Loops

/-- Where a quoted string ends whose inside goes on at `k`: behind its mark, at the line feed that
cuts it, or at the end of the text. -/
def stringEnd (mark : Char) (t : Text) (k : Nat) : Nat :=
  match found : t[k]? with
  | none => t.length
  | some c =>
    if c = '\\' then stringEnd mark t (k + 2)
    else if c = mark then k + 1
    else if c = '\n' then k
    else stringEnd mark t (k + 1)
termination_by t.length - k
decreasing_by
  all_goals
    have inside := (List.getElem?_eq_some_iff.1 found).1
    omega

theorem le_stringEnd (mark : Char) (t : Text) (k : Nat) :
    min k t.length ≤ stringEnd mark t k := by
  fun_induction stringEnd mark t k with
  | case1 => exact Nat.min_le_right _ _
  | case2 k found ih => omega
  | case3 => omega
  | case4 => exact Nat.min_le_left _ _
  | case5 k c found _ _ _ ih => omega

def groupEndFrom (opener closer : Char) (t : Text) (depth : Int) (j : Nat) : Option Nat :=
  match found : t[j]? with
  | none => none
  | some c =>
    if isQuote c then groupEndFrom opener closer t depth (stringEnd c t (j + 1))
    else if c = opener then groupEndFrom opener closer t (depth + 1) (j + 1)
    else if c = closer then
      if depth - 1 = 0 then some j else groupEndFrom opener closer t (depth - 1) (j + 1)
    else groupEndFrom opener closer t depth (j + 1)
termination_by t.length - j
decreasing_by
  -- Behind a string the loop stands further than at its mark.
  all_goals
    have inside := (List.getElem?_eq_some_iff.1 found).1
    have further := le_stringEnd c t (j + 1)
    omega

/-- Where the group ends that opens at `p`. -/
def groupEnd (opener closer : Char) (t : Text) (p : Nat) : Option Nat :=
  groupEndFrom opener closer t 0 p

end Loops

section Agreement

variable {opener closer : Char}

def closerOffset (opener closer : Char) (state : GroupState) (n : Nat) (t : Text) (k : Nat) :
    Option Nat :=
  (closeFrom opener closer state n (t.drop k)).map fun x => k + x.1.length

theorem closerOffset_of_end {t : Text} {k : Nat} (ended : t[k]? = none) (state : GroupState)
    (n : Nat) : closerOffset opener closer state n t k = none := by
  rw [closerOffset, List.drop_eq_nil_iff.2 (List.getElem?_eq_none_iff.1 ended)]
  rfl

theorem closerOffset_of_closer {t : Text} {k : Nat} (found : t[k]? = some closer) :
    closerOffset opener closer .code 0 t k = some k := by
  obtain ⟨inside, here⟩ := List.getElem?_eq_some_iff.1 found
  rw [closerOffset, List.drop_eq_getElem_cons inside, here, closeFrom, if_pos ⟨rfl, rfl, rfl⟩]
  rfl

theorem closerOffset_step {state after : GroupState} {n m k : Nat} {c : Char} {t : Text}
    (found : t[k]? = some c)
    (step : ∀ rest, closeFrom opener closer state n (c :: rest) =
      (closeFrom opener closer after m rest).map fun x => (c :: x.1, x.2)) :
    closerOffset opener closer state n t k = closerOffset opener closer after m t (k + 1) := by
  obtain ⟨inside, here⟩ := List.getElem?_eq_some_iff.1 found
  rw [closerOffset, closerOffset, List.drop_eq_getElem_cons inside, here, step, Option.map_map]
  simp only [Function.comp_def, List.length_cons, Nat.add_assoc, Nat.add_comm 1]

theorem closerOffset_quoted {t : Text} {k : Nat} {c : Char} (mark : Char) (n : Nat)
    (found : t[k]? = some c) :
    closerOffset opener closer (.quoted mark) n t k =
      closerOffset opener closer ((GroupState.quoted mark).next c) n t (k + 1) :=
  closerOffset_step found (closeFrom_quoted mark n c)

theorem closerOffset_escaped (mark : Char) (n : Nat) (t : Text) (k : Nat) :
    closerOffset opener closer (.escaped mark) n t k =
      closerOffset opener closer (.quoted mark) n t (k + 1) := by
  cases found : t[k]? with
  | none =>
    have beyond : t[k + 1]? = none :=
      List.getElem?_eq_none_iff.2 (Nat.le_succ_of_le (List.getElem?_eq_none_iff.1 found))
    rw [closerOffset_of_end found, closerOffset_of_end beyond]
  | some c => exact closerOffset_step found (closeFrom_escaped mark n c)

theorem closerOffset_stringEnd (given : (opener, closer) ∈ brackets) (mark : Char) (n : Nat)
    (t : Text) (k : Nat) :
    closerOffset opener closer (.quoted mark) n t k =
      closerOffset opener closer .code n t (stringEnd mark t k) := by
  fun_induction stringEnd mark t k with
  | case1 k ended =>
    have beyond : t[t.length]? = none := List.getElem?_eq_none_iff.2 (Nat.le_refl _)
    rw [closerOffset_of_end ended, closerOffset_of_end beyond]
  | case2 k found ih =>
    rw [closerOffset_quoted mark n found, GroupState.next, if_pos rfl,
      closerOffset_escaped, ih]
  | case3 k found notBackslash =>
    rw [closerOffset_quoted mark n found, GroupState.next, if_neg notBackslash,
      if_pos (.inl rfl)]
  | case4 k found notBackslash notMark =>
    obtain ⟨inside, here⟩ := List.getElem?_eq_some_iff.1 found
    rw [closerOffset, closerOffset, List.drop_eq_getElem_cons inside, here, closeFrom_feed given]
  | case5 k c found notBackslash notMark notFeed ih =>
    rw [closerOffset_quoted mark n found, GroupState.next, if_neg notBackslash,
      if_neg (not_or.2 ⟨notMark, notFeed⟩), ih]

theorem groupEndFrom_eq (given : (opener, closer) ∈ brackets) (t : Text) (n j : Nat) :
    groupEndFrom opener closer t (n + 1) j = closerOffset opener closer .code n t j := by
  -- The loop counts the group that is to be closed, too, and the search by characters does not.
  generalize counted : (n + 1 : Int) = depth
  fun_induction groupEndFrom opener closer t depth j generalizing n with
  | case1 depth j ended => rw [closerOffset_of_end ended]
  | case2 depth j c found quote ih =>
    rw [ih n counted, ← closerOffset_stringEnd given]
    exact (closerOffset_step found (closeFrom_mark given quote n)).symm
  | case3 depth j found _ ih =>
    rw [ih (n + 1) (by omega)]
    exact (closerOffset_step found (closeFrom_opener given n)).symm
  | case4 depth j last found =>
    obtain rfl : n = 0 := by omega
    exact (closerOffset_of_closer found).symm
  | case5 depth j inner found _ _ ih =>
    obtain ⟨m, rfl⟩ := Nat.exists_eq_succ_of_ne_zero (show n ≠ 0 by omega)
    rw [ih m (by omega)]
    exact (closerOffset_step found (closeFrom_closer given m)).symm
  | case6 depth j c found notQuote notOpener notCloser ih =>
    have plain := eq_false_of_ne_true notQuote
    rw [ih n counted]
    exact (closerOffset_step found (closeFrom_other notOpener notCloser plain n)).symm

theorem groupEnd_eq (given : (opener, closer) ∈ brackets) {t : Text} {p : Nat}
    (opens : t[p]? = some opener) :
    groupEnd opener closer t p =
      (closeGroup opener closer (t.drop (p + 1))).map fun x => p + 1 + x.1.length := by
  obtain ⟨-, plain, -⟩ := plain_of_mem_brackets given
  have first : groupEnd opener closer t p = groupEndFrom opener closer t 1 (p + 1) := by
    rw [groupEnd, groupEndFrom.eq_def]
    split
    · next ended => cases opens.symm.trans ended
    · next c found =>
      cases opens.symm.trans found
      simp only [plain, Bool.false_eq_true, if_false, if_true, Int.zero_add]
  exact first.trans (groupEndFrom_eq given t 0 (p + 1))

end Agreement

section Ending

variable {opener closer : Char}

/-- The text from `p` through `j` is a group. -/
def GroupAt (opener closer : Char) (t : Text) (p j : Nat) : Prop :=
  j < t.length ∧ Bracketed opener closer (t.extract p (j + 1))

theorem extract_eq_iff {t g : Text} {p j : Nat} (nonempty : g ≠ []) :
    j < t.length ∧ t.extract p (j + 1) = g ↔
      (∃ rest, t.drop p = g ++ rest) ∧ p + g.length = j + 1 := by
  have long := List.length_pos_iff.2 nonempty
  rw [List.extract_eq_take_drop]
  constructor
  · rintro ⟨inside, rfl⟩
    rw [List.length_take, List.length_drop] at long ⊢
    exact ⟨⟨_, (List.take_append_drop (j + 1 - p) (t.drop p)).symm⟩, by omega⟩
  · rintro ⟨⟨rest, split⟩, ends⟩
    have size := congrArg List.length split
    rw [List.length_drop, List.length_append] at size
    have width : j + 1 - p = g.length := by omega
    rw [width, split, List.take_left]
    exact ⟨by omega, rfl⟩

theorem groupAt_iff {t : Text} {p j : Nat} (opens : t[p]? = some opener) :
    GroupAt opener closer t p j ↔
      ∃ inside rest, t.drop (p + 1) = inside ++ closer :: rest ∧
        AreItems opener closer inside (some closer) ∧ p + 1 + inside.length = j := by
  obtain ⟨within, here⟩ := List.getElem?_eq_some_iff.1 opens
  have split : t.drop p = opener :: t.drop (p + 1) := by
    rw [List.drop_eq_getElem_cons within, here]
  have stands (inside : Text) :
      j < t.length ∧ t.extract p (j + 1) = opener :: (inside ++ [closer]) ↔
        (∃ rest, t.drop (p + 1) = inside ++ closer :: rest) ∧ p + 1 + inside.length = j := by
    rw [extract_eq_iff (List.cons_ne_nil _ _), split]
    simp only [List.cons_append, List.append_assoc, List.cons.injEq, true_and, List.nil_append,
      List.length_cons, List.length_append, List.length_nil]
    refine and_congr_right fun _ => ?_
    omega
  constructor
  · rintro ⟨inText, group⟩
    generalize taken : t.extract p (j + 1) = g at group
    cases group with
    | @enclose inside items =>
    obtain ⟨⟨rest, behind⟩, ends⟩ := (stands inside).1 ⟨inText, taken⟩
    exact ⟨inside, rest, behind, items, ends⟩
  · rintro ⟨inside, rest, behind, items, ends⟩
    obtain ⟨inText, taken⟩ := (stands inside).2 ⟨⟨rest, behind⟩, ends⟩
    exact ⟨inText, taken ▸ .enclose items⟩

theorem groupEnd_eq_some_iff (given : (opener, closer) ∈ brackets) {t : Text} {p : Nat}
    (opens : t[p]? = some opener) (j : Nat) :
    groupEnd opener closer t p = some j ↔ GroupAt opener closer t p j := by
  rw [groupEnd_eq given opens, groupAt_iff opens, Option.map_eq_some_iff]
  constructor
  · rintro ⟨⟨inside, rest⟩, found, ends⟩
    obtain ⟨split, items⟩ := (closeGroup_eq_some_iff_items given).1 found
    exact ⟨inside, rest, split, items, ends⟩
  · rintro ⟨inside, rest, split, items, ends⟩
    exact ⟨(inside, rest), (closeGroup_eq_some_iff_items given).2 ⟨split, items⟩, ends⟩

theorem closeGroup_eq_groupEnd (given : (opener, closer) ∈ brackets) {t : Text} {p : Nat}
    (opens : t[p]? = some opener) :
    closeGroup opener closer (t.drop (p + 1)) =
      (groupEnd opener closer t p).map fun j => (t.extract (p + 1) j, t.drop (j + 1)) := by
  rw [groupEnd_eq given opens]
  cases found : closeGroup opener closer (t.drop (p + 1)) with
  | none => rfl
  | some ends =>
    obtain ⟨inside, rest⟩ := ends
    have split := closeGroup_eq_append found
    have taken : t.extract (p + 1) (p + 1 + inside.length) = inside := by
      rw [List.extract_eq_take_drop, Nat.add_sub_cancel_left, split, List.take_left]
    have left : t.drop (p + 1 + inside.length + 1) = rest := by
      rw [Nat.add_assoc, ← List.drop_drop, split, ← List.drop_drop, List.drop_left]
      rfl
    simp only [Option.map_some, taken, left]

/-- From an opener on, the search ends at `j` exactly if the text through `j` is a group by the
grammar, and there is at most one such `j`. It ends without one exactly if there is none, that is,
if the text goes on with openers and items up to its end or up to a string that it ends in. -/
theorem groupEnd_bracketed (given : (opener, closer) ∈ brackets) {t : Text} {p : Nat}
    (opens : t[p]? = some opener) :
    (∀ j, groupEnd opener closer t p = some j ↔ GroupAt opener closer t p j) ∧
    (∀ i j, GroupAt opener closer t p i → GroupAt opener closer t p j → i = j) ∧
    (groupEnd opener closer t p = none ↔ ∀ j, ¬ GroupAt opener closer t p j) ∧
    (groupEnd opener closer t p = none ↔ Unclosed opener closer (t.drop (p + 1))) ∧
    closeGroup opener closer (t.drop (p + 1)) =
      (groupEnd opener closer t p).map fun j => (t.extract (p + 1) j, t.drop (j + 1)) := by
  have ends := groupEnd_eq_some_iff given opens
  refine ⟨ends, fun i j first second => ?_, ?_, ?_, closeGroup_eq_groupEnd given opens⟩
  · exact Option.some.inj (((ends i).2 first).symm.trans ((ends j).2 second))
  · simp only [Option.eq_none_iff_forall_ne_some, ne_eq, ends]
  · rw [groupEnd_eq given opens, Option.map_eq_none_iff, closeGroup_eq_none_iff_unclosed given]

def quotedBrackets : Text := "x(a[\")\\\"(\"], '(]\n (b))y".toList

def danglingBackslash : Text := "(('\\".toList

theorem groupEnd_bracketed_strings :
    ('(', ')') ∈ brackets ∧ quotedBrackets[1]? = some '(' ∧ danglingBackslash[0]? = some '(' ∧
    groupEnd '(' ')' quotedBrackets 1 = some 21 ∧ GroupAt '(' ')' quotedBrackets 1 21 ∧
    (∀ j, GroupAt '(' ')' quotedBrackets 1 j → j = 21) ∧
    groupEnd '(' ')' danglingBackslash 0 = none ∧
    (∀ j, ¬ GroupAt '(' ')' danglingBackslash 0 j) ∧
    Unclosed '(' ')' (danglingBackslash.drop 1) := by
  have given : ('(', ')') ∈ brackets := by decide
  have opens : quotedBrackets[1]? = some '(' := by decide
  have begins : danglingBackslash[0]? = some '(' := by decide
  obtain ⟨ends, unique, -⟩ := groupEnd_bracketed given opens
  obtain ⟨-, -, never, unclosed, -⟩ := groupEnd_bracketed given begins
  have closed : groupEnd '(' ')' quotedBrackets 1 = some 21 := by
    rw [groupEnd_eq given opens]
    decide
  have goesOn : groupEnd '(' ')' danglingBackslash 0 = none := by
    rw [groupEnd_eq given begins]
    decide
  have group := (ends 21).1 closed
  exact ⟨given, opens, begins, closed, group, fun j other => unique j 21 other group, goesOn,
    never.1 goesOn, unclosed.1 goesOn⟩

end Ending

end TemplateCompiler.Template
