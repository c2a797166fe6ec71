import Mathlib.Data.List.TakeWhile
import TemplateCompiler.Proofs.Template.Closing
import TemplateCompiler.Proofs.Template.Implicit

/-! The division of a template into parts, said without the reader: what each part is at the place
where it stands. The reader finds the only division there is. -/

namespace TemplateCompiler.Template

def Apart (before : Option Char) : Prop := before.any Text.isAlphanumeric = false

def Meaningful (c : Char) : Prop :=
  c = '@' ∨ c = '*' ∨ (∃ kind : BlockKind, c = kind.opener) ∨ Text.isIdentifierStart c = true

/-- The first part of a text that has `before` in front of it; `rest` is what follows the part. -/
inductive Begins (before : Option Char) : Segment → Text → Prop
  | plain {text rest : Text} (some : text ≠ []) (free : '@' ∉ text)
      (longest : ∀ c ∈ rest.head?, c = '@') : Begins before (.plain text) rest
  | wordAt {rest : Text} (word : ¬ Apart before) : Begins before .wordAt rest
  | escapedAt {rest : Text} (apart : Apart before) : Begins before .escapedAt rest
  | strayAt {rest : Text} (apart : Apart before) (nothing : ∀ c ∈ rest.head?, ¬ Meaningful c) :
      Begins before (.strayAt rest.head?) rest
  | comment {body rest : Text} (apart : Apart before) (free : ¬ commentEnd <:+: body) :
      Begins before (.comment body true) rest
  | openComment {body : Text} (apart : Apart before) (free : ¬ commentEnd <:+: body) :
      Begins before (.comment body false) []
  | block {kind : BlockKind} {body rest : Text} (apart : Apart before)
      (closes : Closes kind.opener kind.closer body) : Begins before (.block kind body true) rest
  | openBlock {kind : BlockKind} {body : Text} (apart : Apart before)
      (never : ∀ inside, Closes kind.opener kind.closer inside →
        ¬ inside ++ [kind.closer] <+: body) : Begins before (.block kind body false) []
  | implicit {expression rest : Text} (apart : Apart before)
      (named : expression.head?.any Text.isIdentifierStart = true)
      (longest : takeImplicit (expression ++ rest) = (expression, rest)) :
      Begins before (.implicit expression) rest

/-- The parts of a text that has `before` in front of it. Each part begins where the one before it
ends. -/
inductive Divides : Option Char → Text → List Segment → Prop
  | nil {before : Option Char} : Divides before [] []
  | cons {before : Option Char} {part : Segment} {rest : Text} {parts : List Segment}
      (first : Begins before part rest) (others : Divides part.source.getLast? rest parts) :
      Divides before (part.source ++ rest) (part :: parts)

theorem divides_cons_iff {before : Option Char} {t : Text} {part : Segment}
    {parts : List Segment} :
    Divides before t (part :: parts) ↔
      ∃ rest, t = part.source ++ rest ∧ Begins before part rest ∧
        Divides part.source.getLast? rest parts := by
  constructor
  · intro division
    cases division with
    | cons first others => exact ⟨_, rfl, first, others⟩
  · rintro ⟨rest, rfl, first, others⟩
    exact .cons first others

theorem Begins.source_ne_nil {before : Option Char} {part : Segment} {rest : Text}
    (begins : Begins before part rest) : part.source ≠ [] := by
  cases begins with
  | plain some => exact some
  | _ => simp [Segment.source]

theorem Divides.source_ne_nil {before : Option Char} {t : Text} {parts : List Segment}
    (division : Divides before t parts) : ∀ part ∈ parts, part.source ≠ [] := by
  induction division with
  | nil => exact fun _ inside => absurd inside List.not_mem_nil
  | cons first _ ih => exact List.forall_mem_cons.2 ⟨first.source_ne_nil, ih⟩

theorem Divides.sources {before : Option Char} {t : Text} {parts : List Segment}
    (division : Divides before t parts) : parts.flatMap Segment.source = t := by
  induction division with
  | nil => rfl
  | cons _ _ ih => rw [List.flatMap_cons, ih]

theorem at_notMem_takeWhile (t : Text) : '@' ∉ t.takeWhile (· != '@') := by
  intro inside
  simpa using List.mem_takeWhile_imp inside

theorem head_dropWhile_at (t : Text) : ∀ c ∈ (t.dropWhile (· != '@')).head?, c = '@' := by
  intro c follows
  simpa using Text.head_dropWhile (· != '@') t c follows

theorem Begins.plain_takeWhile (before : Option Char) {c : Char} (first : c ≠ '@') (t : Text) :
    Begins before (.plain (c :: t.takeWhile (· != '@'))) (t.dropWhile (· != '@')) := by
  refine .plain (List.cons_ne_nil _ _) ?_ (head_dropWhile_at t)
  intro inside
  rcases List.mem_cons.1 inside with same | further
  · exact first same.symm
  · exact at_notMem_takeWhile t further

theorem readFrom_plain {before : Option Char} {text rest : Text} (some : text ≠ [])
    (free : '@' ∉ text) (longest : ∀ c ∈ rest.head?, c = '@') :
    readFrom before (text ++ rest) = .plain text :: readFrom text.getLast? rest := by
  obtain ⟨c, text, rfl⟩ := List.exists_cons_of_ne_nil some
  have first : c ≠ '@' := fun same => free (same ▸ List.mem_cons_self)
  have others : ∀ d ∈ text, (d != '@') = true := by
    intro d inside
    exact bne_iff_ne.2 fun same => free (same ▸ List.mem_cons_of_mem c inside)
  have stop : ∀ d ∈ rest.head?, (d != '@') = false := fun d follows =>
    bne_eq_false_iff_eq.2 (longest d follows)
  rw [List.cons_append, readFrom, if_neg first]
  simp only [Text.takeWhile_append_of_stop others stop, Text.dropWhile_append_of_stop others stop]

theorem readFrom_at {before : Option Char} {t rest : Text} {part : Segment}
    (step : readTransition before t = (part, rest)) :
    readFrom before ('@' :: t) = part :: readFrom part.source.getLast? rest := by
  rw [readFrom, if_pos rfl]
  simp only [step]

theorem readTransition_meaningless {before : Option Char} {t : Text} (apart : Apart before)
    (nothing : ∀ c ∈ t.head?, ¬ Meaningful c) : readTransition before t = (.strayAt t.head?, t) := by
  cases t with
  | nil =>
    rw [readTransition, apart]
    rfl
  | cons c t =>
    have nothing := nothing c rfl
    simp only [Meaningful, not_or, not_exists] at nothing
    obtain ⟨escape, comment, opener, name⟩ := nothing
    rw [readTransition, apart]
    simp [escape, comment, opener .code, opener .expression, name]

theorem readTransition_comment {before : Option Char} (t : Text) (apart : Apart before) :
    readTransition before ('*' :: t) = readComment t := by
  rw [readTransition, apart]
  rfl

theorem readTransition_block {before : Option Char} (kind : BlockKind) (t : Text)
    (apart : Apart before) : readTransition before (kind.opener :: t) = readBlock kind t := by
  rw [readTransition, apart]
  cases kind <;> rfl

theorem readTransition_implicit {before : Option Char} {expression rest : Text}
    (apart : Apart before) (named : expression.head?.any Text.isIdentifierStart = true)
    (longest : takeImplicit (expression ++ rest) = (expression, rest)) :
    readTransition before (expression ++ rest) = (.implicit expression, rest) := by
  cases expression with
  | nil => cases named
  | cons c expression =>
    have starts : Text.isIdentifierStart c = true := named
    have other {d : Char} (no : Text.isIdentifierStart d = false) : c ≠ d := by
      rintro rfl
      exact Bool.false_ne_true (no.symm.trans starts)
    have escape : c ≠ '@' := other (by decide)
    have comment : c ≠ '*' := other (by decide)
    have code : c ≠ BlockKind.code.opener := other (by decide)
    have parenthesis : c ≠ BlockKind.expression.opener := other (by decide)
    rw [List.cons_append] at longest ⊢
    rw [readTransition, apart]
    simp [escape, comment, code, parenthesis, starts, longest]

theorem readBlock_begins {before : Option Char} (kind : BlockKind) (t : Text)
    (apart : Apart before) : Begins before (readBlock kind t).1 (readBlock kind t).2 := by
  unfold readBlock
  split
  · next closed => exact .block apart (closeGroup_eq_some_iff.1 closed).1
  · next unclosed => exact .openBlock apart (closeGroup_eq_none_iff.1 unclosed)

theorem Begins.readFrom {before : Option Char} {part : Segment} {rest : Text}
    (begins : Begins before part rest) :
    readFrom before (part.source ++ rest) = part :: readFrom part.source.getLast? rest := by
  cases begins with
  | plain some free longest => exact readFrom_plain some free longest
  | wordAt word =>
    refine readFrom_at (t := rest) ?_
    rw [readTransition.eq_def, if_pos (Bool.not_eq_false _ ▸ word)]
  | escapedAt apart =>
    refine readFrom_at (t := '@' :: rest) ?_
    rw [readTransition, apart]
    rfl
  | strayAt apart nothing => exact readFrom_at (readTransition_meaningless apart nothing)
  | @comment body _ apart free =>
    have text : (Segment.comment body true).source ++ rest =
        '@' :: '*' :: (body ++ '*' :: '@' :: rest) := by simp [Segment.source]
    rw [text]
    apply readFrom_at
    rw [readTransition_comment _ apart, readComment, closeComment_of_free rest free]
  | @openComment body apart free =>
    have text : (Segment.comment body false).source ++ [] = '@' :: '*' :: body := by
      simp [Segment.source]
    rw [text]
    apply readFrom_at
    rw [readTransition_comment _ apart, readComment, closeComment_eq_none_iff.2 free]
  | @block kind body _ apart closes =>
    have text : (Segment.block kind body true).source ++ rest =
        '@' :: kind.opener :: (body ++ kind.closer :: rest) := by simp [Segment.source]
    have closed : closeGroup kind.opener kind.closer (body ++ kind.closer :: rest) =
        some (body, rest) := closeGroup_eq_some_iff.2 ⟨closes, rfl⟩
    rw [text]
    apply readFrom_at
    rw [readTransition_block kind _ apart, readBlock, closed]
  | @openBlock kind body apart never =>
    have text : (Segment.block kind body false).source ++ [] = '@' :: kind.opener :: body := by
      simp [Segment.source]
    rw [text]
    apply readFrom_at
    rw [readTransition_block kind _ apart, readBlock, closeGroup_eq_none_iff.2 never]
  | implicit apart named longest => exact readFrom_at (readTransition_implicit apart named longest)

theorem readTransition_begins (before : Option Char) (t : Text) :
    Begins before (readTransition before t).1 (readTransition before t).2 := by
  unfold readTransition
  split
  · next word => exact .wordAt (by simp [Apart, word])
  next apart =>
  have apart : Apart before := Bool.eq_false_iff.2 apart
  split
  · exact @Begins.strayAt before [] apart (by simp)
  next c rest =>
  split
  · exact .escapedAt apart
  next escape =>
  split
  · unfold readComment
    split
    · next closed => exact .comment apart (closeComment_eq_some_iff.1 closed).1
    · next unclosed => exact .openComment apart (closeComment_eq_none_iff.1 unclosed)
  next comment =>
  split
  · exact readBlock_begins .code rest apart
  next code =>
  split
  · exact readBlock_begins .expression rest apart
  next parenthesis =>
  split
  · next starts =>
    have whole := takeImplicit_append (c :: rest)
    exact .implicit apart (takeImplicit_named starts) (by rw [whole])
  · next name =>
    refine @Begins.strayAt before (c :: rest) apart ?_
    rintro _ ⟨rfl⟩
    rintro (same | same | ⟨kind, same⟩ | starts)
    · exact escape same
    · exact comment same
    · cases kind
      · exact code same
      · exact parenthesis same
    · exact name starts

/-- A text divides into the parts that the reader finds, and in no other way. -/
theorem divides_iff {before : Option Char} {t : Text} {parts : List Segment} :
    Divides before t parts ↔ parts = readFrom before t := by
  constructor
  · intro division
    induction division with
    | nil => rw [readFrom]
    | cons first _ ih => rw [first.readFrom, ← ih]
  · rintro rfl
    fun_induction readFrom before t with
    | case1 => exact .nil
    | case2 before rest step ih =>
      have division := Divides.cons (readTransition_begins before rest) ih
      rwa [readTransition_append] at division
    | case3 before c rest first text ih =>
      have division := Divides.cons (Begins.plain_takeWhile before first rest) ih
      rwa [Segment.source, List.cons_append, List.takeWhile_append_dropWhile] at division

end TemplateCompiler.Template
