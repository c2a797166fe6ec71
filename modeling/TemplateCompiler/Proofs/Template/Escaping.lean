import Mathlib.Algebra.BigOperators.Ring.List
import Mathlib.Algebra.Order.BigOperators.Group.List
import Mathlib.Algebra.Order.Ring.Nat
import TemplateCompiler.Proofs.Template.Grouping
import TemplateCompiler.Proofs.Template.Writing

/-! Literal text whose at signs are all written twice. It is read back exactly if none of them
stands behind a letter or digit: there the first of two is text by itself, and the second begins
something else. -/

namespace TemplateCompiler.Template

def doubleAts (t : Text) : Text := t.flatMap fun c => if c = '@' then ['@', '@'] else [c]

theorem doubleAts_at (t : Text) : doubleAts ('@' :: t) = '@' :: '@' :: doubleAts t := rfl

theorem doubleAts_plain {c : Char} (plain : c ≠ '@') (t : Text) :
    doubleAts (c :: t) = c :: doubleAts t := by
  rw [doubleAts, List.flatMap_cons, if_neg plain]
  rfl

/-- `d` may stand directly behind `c`: it is no at sign behind a letter or digit. -/
def Spaced (c d : Char) : Prop := d = '@' → Text.isAlphanumeric c = false

section Reading

theorem writeLiteral_eq_doubleAts {before : Option Char} {t : Text} (spaced : t.IsChain Spaced)
    (entered : ∀ c ∈ before, ∀ d ∈ t.head?, Spaced c d) : writeLiteral before t = doubleAts t := by
  induction t generalizing before with
  | nil => rfl
  | cons c t ih =>
    obtain ⟨follows, behind⟩ := List.isChain_cons.1 spaced
    have others : writeLiteral (some c) t = doubleAts t := by
      refine ih behind ?_
      rintro _ ⟨rfl⟩
      exact follows
    rw [writeLiteral, others]
    by_cases plain : c = '@'
    · subst plain
      have apart : ¬ before.any Text.isAlphanumeric := by
        cases before with
        | none => simp
        | some b => simp [entered b rfl '@' rfl rfl]
      rw [if_pos ⟨rfl, apart⟩, doubleAts_at]
      rfl
    · rw [if_neg fun both => plain both.1, doubleAts_plain plain]
      rfl

theorem scan_doubleAts {t : Text} (spaced : t.IsChain Spaced) :
    scan none .start none (doubleAts t) = (literalOf (addLiteral none .start t), []) := by
  have written : writeLiteral none t = doubleAts t :=
    writeLiteral_eq_doubleAts spaced fun _ none => nomatch none
  have read := scan_writeLiteral t none .start none []
  rwa [List.append_nil, written, scan_nil] at read

theorem doubleAts_eq_append {text rest s : Text} (free : '@' ∉ text)
    (same : text ++ rest = doubleAts s) : ∃ s', s = text ++ s' ∧ rest = doubleAts s' := by
  induction text generalizing s with
  | nil => exact ⟨s, rfl, same⟩
  | cons c text ih =>
    have first : '@' ≠ c := List.ne_of_not_mem_cons free
    have others : '@' ∉ text := List.not_mem_of_not_mem_cons free
    cases s with
    | nil => cases same
    | cons d s =>
      by_cases plain : d = '@'
      · subst plain
        exact absurd (List.cons.inj same).1.symm first
      · rw [doubleAts_plain plain, List.cons_append, List.cons.injEq] at same
        obtain ⟨rfl, same⟩ := same
        obtain ⟨s', rfl, rest⟩ := ih others same
        exact ⟨s', rfl, rest⟩

theorem isChain_of_free {text : Text} (free : '@' ∉ text) : text.IsChain Spaced := by
  refine (List.pairwise_iff_forall_sublist.2 fun {c d} both same => ?_).isChain
  subst same
  exact absurd (both.subset (by simp)) free

theorem Divides.spaced {before : Option Char} {t : Text} {parts : List Segment}
    (division : Divides before t parts)
    (only : ∀ part ∈ parts, part = .escapedAt ∨ ∃ text, part = .plain text) {s : Text}
    (same : t = doubleAts s) :
    s.IsChain Spaced ∧ ∀ c ∈ before, ∀ d ∈ s.head?, Spaced c d := by
  induction division generalizing s with
  | nil =>
    cases s with
    | nil => exact ⟨.nil, by simp⟩
    | cons c s => by_cases plain : c = '@' <;> simp [doubleAts, plain] at same
  | @cons before part rest parts first _ ih =>
    obtain ⟨kind, others⟩ := List.forall_mem_cons.1 only
    rcases kind with rfl | ⟨text, rfl⟩
    · cases first with
      | escapedAt apart =>
      cases s with
      | nil => cases same
      | cons c s =>
        by_cases plain : c = '@'
        · subst plain
          rw [doubleAts_at] at same
          obtain ⟨behind, follows⟩ := ih others ((List.append_right_inj ['@', '@']).1 same)
          refine ⟨List.isChain_cons.2 ⟨follows '@' rfl, behind⟩, ?_⟩
          rintro c entered - - -
          rw [Option.mem_def.1 entered] at apart
          exact apart
        · rw [doubleAts_plain plain] at same
          exact absurd (List.cons.inj same).1.symm plain
    · cases first with
      | plain some free longest =>
      obtain ⟨s, rfl, rest⟩ := doubleAts_eq_append free same
      obtain ⟨behind, follows⟩ := ih others rest
      refine ⟨List.isChain_append.2 ⟨isChain_of_free free, behind, follows⟩, ?_⟩
      intro c _ d first plain
      rw [List.head?_append_of_ne_nil _ some] at first
      exact absurd (List.mem_of_mem_head? (plain ▸ first)) free

end Reading

section Counting

def isPlain (c : Char) : Bool := c != '@'

theorem countP_doubleAts (t : Text) : (doubleAts t).countP isPlain = t.countP isPlain := by
  induction t with
  | nil => rfl
  | cons c t ih =>
    by_cases plain : c = '@'
    · subst plain
      rw [doubleAts_at]
      simpa [isPlain] using ih
    · rw [doubleAts_plain plain, List.countP_cons, List.countP_cons, ih]

theorem count_doubleAts (t : Text) : (doubleAts t).count '@' = 2 * t.count '@' := by
  induction t with
  | nil => rfl
  | cons c t ih =>
    by_cases plain : c = '@'
    · subst plain
      rw [doubleAts_at, List.count_cons_self, List.count_cons_self, List.count_cons_self, ih]
      omega
    · rw [doubleAts_plain plain, List.count_cons_of_ne plain, List.count_cons_of_ne plain, ih]

theorem kept_sublist_inside (part : Segment) : part.kept.Sublist part.inside := by
  by_cases comment : part.isComment
  · cases part with
    | comment => exact List.nil_sublist _
    | _ => cases comment
  · obtain ⟨l, r, split, -, -⟩ := Segment.inside_eq_kept (Bool.eq_false_iff.2 comment)
    rw [split, List.append_assoc]
    exact (List.sublist_append_left ..).trans (List.sublist_append_right ..)

theorem countP_kept_le (part : Segment) :
    part.opening.countP isPlain + part.kept.countP isPlain ≤ part.source.countP isPlain := by
  have kept := (kept_sublist_inside part).countP_le (p := isPlain)
  rw [part.source_eq_inside, List.countP_append, List.countP_append]
  omega

theorem opening_plain {parts : List Segment} {s : Text} (sources : parts.flatMap Segment.source =
    doubleAts s) (kept : parts.flatMap Segment.kept = s) :
    ∀ part ∈ parts, part.opening.countP isPlain = 0 := by
  -- Nothing but at signs is lost, and an opening would be.
  intro part inside
  by_contra lost
  have less : (parts.map fun part => part.kept.countP isPlain).sum <
      (parts.map fun part => part.source.countP isPlain).sum := by
    refine List.sum_lt_sum _ _ (fun part _ => ?_) ⟨part, inside, ?_⟩
    · have := countP_kept_le part
      omega
    · have := countP_kept_le part
      omega
  have source := congrArg (List.countP isPlain) sources
  have rest := congrArg (List.countP isPlain) kept
  rw [countP_doubleAts, List.countP_flatMap] at source
  rw [List.countP_flatMap] at rest
  exact absurd (rest.trans source.symm) less.ne

theorem not_mem_wordAt {parts : List Segment} {s : Text} (sources : parts.flatMap Segment.source =
    doubleAts s) (kept : parts.flatMap Segment.kept = s)
    (halved : ∀ part ∈ parts, part.source.count '@' ≤ 2 * part.kept.count '@') :
    .wordAt ∉ parts := by
  -- Half of the at signs are lost, so no part keeps its only one.
  intro inside
  have less : (parts.map fun part => part.source.count '@').sum <
      (parts.map fun part => 2 * part.kept.count '@').sum :=
    List.sum_lt_sum _ _ halved ⟨.wordAt, inside, by decide⟩
  have source := congrArg (List.count '@') sources
  have rest := congrArg (List.count '@') kept
  rw [count_doubleAts, List.count_flatMap] at source
  rw [List.count_flatMap] at rest
  rw [List.sum_map_mul_left] at less
  simp only [Function.comp_def] at source rest
  omega

end Counting

theorem not_mem_strayAt {parts : List Segment} {position : Position}
    (clean : diagnosticsFrom position parts = []) (next : Option Char) :
    .strayAt next ∉ parts := by
  induction parts generalizing position with
  | nil => exact List.not_mem_nil
  | cons part parts ih =>
    rw [diagnosticsFrom, List.append_eq_nil_iff] at clean
    refine List.not_mem_cons_of_ne_of_not_mem ?_ (ih clean.2)
    rintro rfl
    cases clean.1

theorem not_mem_implicit {parts : List Segment} {position : Position} {pending : Pending}
    (literal : ∀ s ∈ statementsFrom position pending parts, s.kind = .literal)
    (expression : Text) : .implicit expression ∉ parts := by
  induction parts generalizing position pending with
  | nil => exact List.not_mem_nil
  | cons part parts ih =>
    rw [statementsFrom] at literal
    cases contributes : part.literal? with
    | some text =>
      simp only [contributes] at literal
      refine List.not_mem_cons_of_ne_of_not_mem ?_ (ih literal)
      rintro rfl
      cases contributes
    | none =>
      simp only [contributes, List.forall_mem_append] at literal
      refine List.not_mem_cons_of_ne_of_not_mem ?_ (ih literal.2.2)
      rintro rfl
      cases literal.2.1 _ (List.mem_singleton_self _)

theorem Divides.plain_free {before : Option Char} {t : Text} {parts : List Segment}
    (division : Divides before t parts) {text : Text} (inside : .plain text ∈ parts) :
    '@' ∉ text := by
  induction division with
  | nil => cases inside
  | cons first _ ih =>
    rcases List.mem_cons.1 inside with rfl | further
    · cases first with
      | plain _ free => exact free
    · exact ih further

theorem only_escapes {s : Text} (clean : diagnostics (doubleAts s) = [])
    (literal : ∀ x ∈ statements (doubleAts s), x.kind = .literal)
    (whole : (statements (doubleAts s)).flatMap Statement.text = s) :
    ∀ part ∈ segments (doubleAts s), part = .escapedAt ∨ ∃ text, part = .plain text := by
  have sources := segments_append (doubleAts s)
  have kept : (segments (doubleAts s)).flatMap Segment.kept = s :=
    (statementsFrom_text _ .start none).symm.trans whole
  have division : Divides none (doubleAts s) (segments (doubleAts s)) := divides_iff.2 rfl
  have opened := opening_plain sources kept
  have words : ∀ part ∈ segments (doubleAts s),
      part = .wordAt ∨ part = .escapedAt ∨ ∃ text, part = .plain text := by
    intro part inside
    have nothing := opened part inside
    cases part with
    | plain text => exact .inr (.inr ⟨text, rfl⟩)
    | wordAt => exact .inl rfl
    | escapedAt => exact .inr (.inl rfl)
    | strayAt next => exact absurd inside (not_mem_strayAt clean next)
    | comment => cases nothing
    | block kind => cases kind <;> cases nothing
    | implicit expression => exact absurd inside (not_mem_implicit literal expression)
  have halved : ∀ part ∈ segments (doubleAts s),
      part.source.count '@' ≤ 2 * part.kept.count '@' := by
    intro part inside
    rcases words part inside with rfl | rfl | ⟨text, rfl⟩
    · decide
    · decide
    · rw [Segment.source, List.count_eq_zero_of_not_mem (division.plain_free inside)]
      exact Nat.zero_le _
  intro part inside
  rcases words part inside with rfl | rest
  · exact absurd inside (not_mem_wordAt sources kept halved)
  · exact rest

/-- Text whose at signs are all written twice is read without a complaint as one literal at the
start of the template exactly if no at sign of the text stands behind a letter or digit. -/
theorem statements_doubleAts (s : Text) :
    (diagnostics (doubleAts s) = [] ∧
      statements (doubleAts s) = if s = [] then [] else [⟨.literal, s, 1, 1⟩]) ↔
    s.IsChain fun c d => d = '@' → Text.isAlphanumeric c = false := by
  constructor
  · rintro ⟨clean, read⟩
    have literal : ∀ x ∈ statements (doubleAts s), x.kind = .literal := by
      rw [read]
      split <;> simp
    have whole : (statements (doubleAts s)).flatMap Statement.text = s := by
      rw [read]
      split
      · next empty => exact empty.symm
      · exact List.flatMap_singleton ..
    exact ((divides_iff.2 rfl).spaced (only_escapes clean literal whole) rfl).1
  · intro spaced
    obtain ⟨read, clean⟩ := Prod.mk.inj (scan_doubleAts spaced)
    refine ⟨clean, read.trans ?_⟩
    cases s <;> rfl

/-- Behind a letter the second at sign begins an expression. -/
theorem doubleAts_behind_letter :
    doubleAts "a@b".toList = "a@@b".toList ∧
    statements (doubleAts "a@b".toList) =
      [⟨.literal, "a@".toList, 1, 1⟩, ⟨.expression, "b".toList, 1, 4⟩] ∧
    ¬ (diagnostics (doubleAts "a@b".toList) = [] ∧
      statements (doubleAts "a@b".toList) = [⟨.literal, "a@b".toList, 1, 1⟩]) := by
  decide +kernel

end TemplateCompiler.Template
