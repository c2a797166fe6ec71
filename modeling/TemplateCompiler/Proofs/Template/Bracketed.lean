import TemplateCompiler.Proofs.Template.Returns

/-! Groups of brackets by their grammar: a group is an opener, items and the closer, and an item is
a group, a quoted string or one other character. A string may end before a line feed, so whether a
text is a string or an item hangs on the character behind it. Every text behind an opener either
closes the group in one way or leaves it open to its end, and the search tells which. -/

namespace TemplateCompiler.Template

section Grammar

/-- What stands in a quoted string: backslashes, each with the character behind it, and characters
other than the mark, a backslash and a line feed. -/
inductive IsStringBody (mark : Char) : Text → Prop
  | nil : IsStringBody mark []
  | pair {c : Char} {body : Text} (more : IsStringBody mark body) :
      IsStringBody mark ('\\' :: c :: body)
  | plain {c : Char} {body : Text} (notBackslash : c ≠ '\\') (notMark : c ≠ mark)
      (notFeed : c ≠ '\n') (more : IsStringBody mark body) : IsStringBody mark (c :: body)

inductive IsString : Text → Option Char → Prop
  | closed {mark : Char} {body : Text} {next : Option Char} (quote : isQuote mark = true)
      (inside : IsStringBody mark body) : IsString (mark :: (body ++ [mark])) next
  | cut {mark : Char} {body : Text} (quote : isQuote mark = true)
      (inside : IsStringBody mark body) : IsString (mark :: body) (some '\n')

variable (opener closer : Char)

mutual

/-- A group; what is behind it does not matter. -/
inductive Bracketed : Text → Prop
  | enclose {inside : Text} (items : AreItems inside (some closer)) :
      Bracketed (opener :: (inside ++ [closer]))

inductive IsItem : Text → Option Char → Prop
  | group {g : Text} {next : Option Char} (nested : Bracketed g) : IsItem g next
  | string {s : Text} {next : Option Char} (quoted : IsString s next) : IsItem s next
  | other {c : Char} {next : Option Char} (notOpener : c ≠ opener) (notCloser : c ≠ closer)
      (notQuote : isQuote c = false) : IsItem [c] next

inductive AreItems : Text → Option Char → Prop
  | nil {next : Option Char} : AreItems [] next
  | cons {item items : Text} {next : Option Char} (first : IsItem item (items.head?.or next))
      (others : AreItems items next) : AreItems (item ++ items) next

end

/-- What is behind an opener whose group is not closed: openers and items up to the end of the text,
which may be in a string. -/
inductive Unclosed : Text → Prop
  | nil : Unclosed []
  | string {mark : Char} {body : Text} (quote : isQuote mark = true)
      (inside : IsStringBody mark body) : Unclosed (mark :: body)
  /-- No character is left for the backslash. -/
  | escape {mark : Char} {body : Text} (quote : isQuote mark = true)
      (inside : IsStringBody mark body) : Unclosed (mark :: (body ++ ['\\']))
  | opener {t : Text} (inner : Unclosed t) : Unclosed (opener :: t)
  | item {item t : Text} (first : IsItem opener closer item t.head?) (others : Unclosed t) :
      Unclosed (item ++ t)

end Grammar

section Passing

variable {opener closer : Char}

theorem plain_of_mem_brackets (given : (opener, closer) ∈ brackets) :
    opener ≠ closer ∧ isQuote opener = false ∧ isQuote closer = false := by
  have all : ∀ b ∈ brackets, b.1 ≠ b.2 ∧ isQuote b.1 = false ∧ isQuote b.2 = false := by decide
  exact all _ given

theorem ne_backslash_of_isQuote {mark : Char} (quote : isQuote mark = true) : mark ≠ '\\' := by
  rintro rfl
  exact absurd quote (by decide)

theorem GroupState.next_plain {c : Char} (plain : isQuote c = false) :
    GroupState.code.next c = .code := by
  rw [next, plain]
  rfl

def Passes (opener closer : Char) (s rest : Text) : Prop :=
  ∀ n, closeFrom opener closer .code n (s ++ rest) =
    (closeFrom opener closer .code n rest).map fun x => (s ++ x.1, x.2)

theorem Passes.append {s t rest : Text} (first : Passes opener closer s (t ++ rest))
    (second : Passes opener closer t rest) : Passes opener closer (s ++ t) rest := by
  intro n
  rw [List.append_assoc, first n, second n, Option.map_map]
  simp only [Function.comp_def, List.append_assoc]

theorem closeFrom_string {state : GroupState} (string : state ≠ .code) (n : Nat) (c : Char)
    (t : Text) :
    closeFrom opener closer state n (c :: t) =
      (closeFrom opener closer (state.next c) n t).map fun x => (c :: x.1, x.2) := by
  rw [closeFrom, if_neg fun ends => string ends.1, depthAfter, if_neg string]

theorem closeFrom_quoted (mark : Char) (n : Nat) (c : Char) (t : Text) :
    closeFrom opener closer (.quoted mark) n (c :: t) =
      (closeFrom opener closer ((GroupState.quoted mark).next c) n t).map
        fun x => (c :: x.1, x.2) :=
  closeFrom_string (by simp) n c t

theorem closeFrom_escaped (mark : Char) (n : Nat) (c : Char) (t : Text) :
    closeFrom opener closer (.escaped mark) n (c :: t) =
      (closeFrom opener closer (.quoted mark) n t).map fun x => (c :: x.1, x.2) :=
  closeFrom_string (by simp) n c t

theorem IsStringBody.closeFrom_append {mark : Char} {body : Text} (inside : IsStringBody mark body)
    (n : Nat) (rest : Text) :
    closeFrom opener closer (.quoted mark) n (body ++ rest) =
      (closeFrom opener closer (.quoted mark) n rest).map fun x => (body ++ x.1, x.2) := by
  induction inside with
  | nil => simp
  | @pair c body _ ih =>
    have escapes : (GroupState.quoted mark).next '\\' = .escaped mark := by
      rw [GroupState.next, if_pos rfl]
    rw [List.cons_append, List.cons_append, closeFrom_quoted, escapes, closeFrom_escaped, ih,
      Option.map_map, Option.map_map]
    rfl
  | @plain c body notBackslash notMark notFeed _ ih =>
    have stays : (GroupState.quoted mark).next c = .quoted mark := by
      rw [GroupState.next, if_neg notBackslash, if_neg (not_or.2 ⟨notMark, notFeed⟩)]
    rw [List.cons_append, closeFrom_quoted, stays, ih, Option.map_map]
    rfl

theorem closeFrom_mark (given : (opener, closer) ∈ brackets) {mark : Char}
    (quote : isQuote mark = true) (n : Nat) (t : Text) :
    closeFrom opener closer .code n (mark :: t) =
      (closeFrom opener closer (.quoted mark) n t).map fun x => (mark :: x.1, x.2) := by
  obtain ⟨-, plainOpener, plainCloser⟩ := plain_of_mem_brackets given
  have notOpener : mark ≠ opener := fun same => by simp [same, plainOpener] at quote
  have notCloser : mark ≠ closer := fun same => by simp [same, plainCloser] at quote
  rw [closeFrom_apart notOpener notCloser, GroupState.next, if_pos quote]

theorem closeFrom_feed (given : (opener, closer) ∈ brackets) (mark : Char) (n : Nat) (t : Text) :
    closeFrom opener closer (.quoted mark) n ('\n' :: t) =
      closeFrom opener closer .code n ('\n' :: t) := by
  obtain ⟨⟨-, notOpener⟩, -, notCloser⟩ := lineEnds_of_mem_brackets given
  rw [closeFrom_quoted, closeFrom_apart notOpener.symm notCloser.symm,
    GroupState.next_feed_iff.2 rfl, GroupState.next_feed_iff.2 rfl]

theorem IsString.passes (given : (opener, closer) ∈ brackets) {s rest : Text}
    (string : IsString s rest.head?) : Passes opener closer s rest := by
  intro n
  generalize behind : rest.head? = next at string
  cases string with
  | @closed mark body _ quote inside =>
    have ends : (GroupState.quoted mark).next mark = .code := by
      rw [GroupState.next, if_neg (ne_backslash_of_isQuote quote), if_pos (.inl rfl)]
    have text : mark :: (body ++ [mark]) ++ rest = mark :: (body ++ mark :: rest) := by simp
    rw [text, closeFrom_mark given quote, inside.closeFrom_append, closeFrom_quoted, ends,
      Option.map_map, Option.map_map]
    simp [Function.comp_def]
  | @cut mark body quote inside =>
    obtain ⟨rest, rfl⟩ := List.head?_eq_some_iff.1 behind
    rw [List.cons_append, closeFrom_mark given quote, inside.closeFrom_append,
      closeFrom_feed given, Option.map_map]
    rfl

theorem closeFrom_opener (given : (opener, closer) ∈ brackets) (n : Nat) (t : Text) :
    closeFrom opener closer .code n (opener :: t) =
      (closeFrom opener closer .code (n + 1) t).map fun x => (opener :: x.1, x.2) := by
  obtain ⟨distinct, plain, -⟩ := plain_of_mem_brackets given
  rw [closeFrom, if_neg fun ends => distinct ends.2.1, depthAfter, if_pos rfl, if_pos rfl,
    GroupState.next_plain plain]

theorem closeFrom_closer (given : (opener, closer) ∈ brackets) (n : Nat) (t : Text) :
    closeFrom opener closer .code (n + 1) (closer :: t) =
      (closeFrom opener closer .code n t).map fun x => (closer :: x.1, x.2) := by
  obtain ⟨distinct, -, plain⟩ := plain_of_mem_brackets given
  rw [closeFrom, if_neg fun ends => Nat.succ_ne_zero n ends.2.2, depthAfter, if_pos rfl,
    if_neg distinct.symm, if_pos rfl, GroupState.next_plain plain]
  rfl

theorem closeFrom_other {c : Char} (notOpener : c ≠ opener) (notCloser : c ≠ closer)
    (notQuote : isQuote c = false) (n : Nat) (t : Text) :
    closeFrom opener closer .code n (c :: t) =
      (closeFrom opener closer .code n t).map fun x => (c :: x.1, x.2) := by
  rw [closeFrom_apart notOpener notCloser, GroupState.next_plain notQuote]

theorem Passes.enclose (given : (opener, closer) ∈ brackets) {inside rest : Text}
    (items : Passes opener closer inside (closer :: rest)) :
    Passes opener closer (opener :: (inside ++ [closer])) rest := by
  intro n
  have text : opener :: (inside ++ [closer]) ++ rest = opener :: (inside ++ closer :: rest) := by
    simp
  rw [text, closeFrom_opener given, items (n + 1), closeFrom_closer given, Option.map_map,
    Option.map_map]
  simp [Function.comp_def]

mutual

theorem Bracketed.passes (given : (opener, closer) ∈ brackets) {g : Text} (rest : Text) :
    Bracketed opener closer g → Passes opener closer g rest
  | .enclose items => .enclose given (items.passes given rfl)

theorem IsItem.passes (given : (opener, closer) ∈ brackets) {item rest : Text}
    {next : Option Char} (behind : rest.head? = next) :
    IsItem opener closer item next → Passes opener closer item rest
  | .group nested => nested.passes given rest
  | .string quoted => IsString.passes given (behind ▸ quoted)
  | .other notOpener notCloser notQuote => fun n =>
    closeFrom_other notOpener notCloser notQuote n rest

theorem AreItems.passes (given : (opener, closer) ∈ brackets) {items rest : Text}
    {next : Option Char} (behind : rest.head? = next) :
    AreItems opener closer items next → Passes opener closer items rest
  | .nil => fun n => by simp
  | .cons first others =>
    have further := others.passes given behind
    .append (first.passes given (by rw [List.head?_append, behind])) further

end

theorem Unclosed.closeFrom_eq_none (given : (opener, closer) ∈ brackets) {t : Text}
    (unclosed : Unclosed opener closer t) (n : Nat) :
    closeFrom opener closer .code n t = none := by
  induction unclosed generalizing n with
  | nil => rfl
  | @string mark body quote inside =>
    rw [closeFrom_mark given quote, ← List.append_nil body, inside.closeFrom_append]
    rfl
  | @escape mark body quote inside =>
    rw [closeFrom_mark given quote, inside.closeFrom_append, closeFrom_quoted]
    rfl
  | opener inner ih =>
    rw [closeFrom_opener given, ih]
    rfl
  | item first others ih =>
    rw [first.passes given rfl n, ih]
    rfl

end Passing

section Ending

variable {opener closer : Char}

/-- How a string goes on behind its mark. -/
inductive StringEnds (mark : Char) : Text → Prop
  | closed {body : Text} (inside : IsStringBody mark body) (rest : Text) :
      StringEnds mark (body ++ mark :: rest)
  | cut {body : Text} (inside : IsStringBody mark body) (rest : Text) :
      StringEnds mark (body ++ '\n' :: rest)
  | never {body : Text} (inside : IsStringBody mark body) : StringEnds mark body
  | escape {body : Text} (inside : IsStringBody mark body) : StringEnds mark (body ++ ['\\'])

theorem StringEnds.pair {mark : Char} {t : Text} (c : Char) (ends : StringEnds mark t) :
    StringEnds mark ('\\' :: c :: t) := by
  cases ends with
  | closed inside rest => exact .closed inside.pair rest
  | cut inside rest => exact .cut inside.pair rest
  | never inside => exact .never inside.pair
  | escape inside => exact .escape inside.pair

theorem StringEnds.plain {mark c : Char} {t : Text} (notBackslash : c ≠ '\\') (notMark : c ≠ mark)
    (notFeed : c ≠ '\n') (ends : StringEnds mark t) : StringEnds mark (c :: t) := by
  cases ends with
  | closed inside rest => exact .closed (inside.plain notBackslash notMark notFeed) rest
  | cut inside rest => exact .cut (inside.plain notBackslash notMark notFeed) rest
  | never inside => exact .never (inside.plain notBackslash notMark notFeed)
  | escape inside => exact .escape (inside.plain notBackslash notMark notFeed)

theorem stringEnds (mark : Char) : ∀ t : Text, StringEnds mark t
  | [] => .never .nil
  | c :: t => by
    by_cases backslash : c = '\\'
    · subst backslash
      cases t with
      | nil => exact .escape .nil
      | cons d t => exact (stringEnds mark t).pair d
    by_cases closes : c = mark
    · subst closes
      exact .closed .nil t
    by_cases feed : c = '\n'
    · subst feed
      exact .cut .nil t
    · exact (stringEnds mark t).plain backslash closes feed

inductive GroupEnds (opener closer : Char) : Text → Prop
  | closed {inside : Text} (items : AreItems opener closer inside (some closer)) (rest : Text) :
      GroupEnds opener closer (inside ++ closer :: rest)
  | never {t : Text} (unclosed : Unclosed opener closer t) : GroupEnds opener closer t

theorem GroupEnds.behind {item t : Text} (ends : GroupEnds opener closer t)
    (first : IsItem opener closer item t.head?) : GroupEnds opener closer (item ++ t) := by
  cases ends with
  | closed items rest =>
    rw [List.head?_append] at first
    rw [← List.append_assoc]
    exact .closed (items.cons first) rest
  | never unclosed => exact .never (unclosed.item first)

theorem groupEnds (t : Text) : GroupEnds opener closer t := by
  -- Behind a nested group and behind a string the text goes on further than by one character.
  induction size : t.length using Nat.strong_induction_on generalizing t with
  | h n ih =>
  have shorter (s : Text) (less : s.length < t.length) : GroupEnds opener closer s :=
    ih s.length (size ▸ less) s rfl
  cases t with
  | nil => exact .never .nil
  | cons c t =>
    by_cases closes : c = closer
    · subst closes
      exact .closed .nil t
    by_cases opens : c = opener
    · subst opens
      cases shorter t (Nat.lt_succ_self _) with
      | @closed inside items rest =>
        have later := shorter rest (by simp only [List.length_cons, List.length_append]; omega)
        have grown := later.behind (.group (.enclose items))
        simpa using grown
      | never unclosed => exact .never unclosed.opener
    by_cases quote : isQuote c = true
    · cases stringEnds c t with
      | @closed body inside rest =>
        have later := shorter rest (by simp only [List.length_cons, List.length_append]; omega)
        have grown := later.behind (.string (.closed quote inside))
        simpa using grown
      | cut inside rest =>
        have later := shorter ('\n' :: rest)
          (by simp only [List.length_cons, List.length_append]; omega)
        exact later.behind (.string (.cut quote inside))
      | never inside => exact .never (.string quote inside)
      | escape inside => exact .never (.escape quote inside)
    · have first : IsItem opener closer [c] t.head? :=
        .other opens closes (eq_false_of_ne_true quote)
      exact (shorter t (Nat.lt_succ_self _)).behind first

theorem closeGroup_of_items (given : (opener, closer) ∈ brackets) {inside : Text}
    (items : AreItems opener closer inside (some closer)) (rest : Text) :
    closeGroup opener closer (inside ++ closer :: rest) = some (inside, rest) := by
  have passes : Passes opener closer inside (closer :: rest) := items.passes given rfl
  rw [closeGroup, passes 0, closeFrom, if_pos ⟨rfl, rfl, rfl⟩, Option.map_some,
    List.append_nil]

theorem closeGroup_eq_some_iff_items (given : (opener, closer) ∈ brackets)
    {t inside rest : Text} :
    closeGroup opener closer t = some (inside, rest) ↔
      t = inside ++ closer :: rest ∧ AreItems opener closer inside (some closer) := by
  constructor
  · intro found
    cases (groupEnds t : GroupEnds opener closer t) with
    | closed items behind =>
      rw [closeGroup_of_items given items] at found
      cases found
      exact ⟨rfl, items⟩
    | never unclosed =>
      rw [closeGroup, unclosed.closeFrom_eq_none given] at found
      cases found
  · rintro ⟨rfl, items⟩
    exact closeGroup_of_items given items rest

theorem closeGroup_eq_none_iff_unclosed (given : (opener, closer) ∈ brackets) {t : Text} :
    closeGroup opener closer t = none ↔ Unclosed opener closer t := by
  constructor
  · intro none
    cases (groupEnds t : GroupEnds opener closer t) with
    | closed items rest =>
      rw [closeGroup_of_items given items] at none
      cases none
    | never unclosed => exact unclosed
  · intro unclosed
    exact unclosed.closeFrom_eq_none given 0

end Ending

end TemplateCompiler.Template
