import Mathlib.Data.Prod.Lex
import TemplateCompiler.Proofs.Template.Location
import TemplateCompiler.Proofs.Template.Scan

/-! The order in which a template is reported on. The places of its statements increase, and so do
those of its diagnostics. Only the last part of a template can be left open, so that nothing but its
own statement stands behind the diagnostic about it. -/

namespace TemplateCompiler

/-- Line and column, in the order of reading. -/
def Position.pair (p : Position) : ℤ ×ₗ ℤ := toLex (p.line, p.column)

def Statement.pair (s : Statement) : ℤ ×ₗ ℤ := toLex (s.line, s.column)

namespace Diagnostic

def pair (d : Diagnostic) : ℤ ×ₗ ℤ := toLex (d.line, d.column)

/-- Whether a code block, an expression or a comment has no end. -/
def isOpen (d : Diagnostic) : Bool := d.code = 101 ∨ d.code = 102 ∨ d.code = 103

end Diagnostic

def Segment.isOpen : Segment → Bool
  | .comment _ closed => !closed
  | .block _ _ closed => !closed
  | _ => false

namespace Position

theorem pair_lt_iff {p q : Position} : p.pair < q.pair ↔ p.Before q := by
  simp only [pair, Before, Prod.Lex.toLex_lt_toLex, Int.ofNat_lt, Int.natCast_inj]

theorem pair_lt_after (p : Position) {t : Text} (some : t ≠ []) : p.pair < (p.after t).pair :=
  pair_lt_iff.2 (p.before_after some)

theorem pair_le_after (p : Position) (t : Text) : p.pair ≤ (p.after t).pair := by
  by_cases empty : t = []
  · rw [empty]
    exact le_refl p.pair
  · exact (p.pair_lt_after empty).le

end Position

/-- Places from one position up to another one, each before the next. -/
structure Within (p q : Position) (places : List (ℤ ×ₗ ℤ)) : Prop where
  sorted : places.Pairwise (· < ·)
  low : ∀ place ∈ places, p.pair ≤ place
  high : ∀ place ∈ places, place < q.pair

namespace Within

variable {p q r : Position} {places others : List (ℤ ×ₗ ℤ)}

theorem nil : Within p q [] := ⟨.nil, List.forall_mem_nil _, List.forall_mem_nil _⟩

theorem single {place : ℤ ×ₗ ℤ} (low : p.pair ≤ place) (high : place < q.pair) :
    Within p q [place] :=
  ⟨List.pairwise_singleton _ place, List.forall_mem_singleton.2 low,
    List.forall_mem_singleton.2 high⟩

theorem append (first : Within p q places) (second : Within q r others) (start : p.pair ≤ q.pair)
    (stop : q.pair ≤ r.pair) : Within p r (places ++ others) where
  sorted := List.pairwise_append.2 ⟨first.sorted, second.sorted, fun a left b right =>
    (first.high a left).trans_le (second.low b right)⟩
  low := List.forall_mem_append.2 ⟨first.low, fun b right => start.trans (second.low b right)⟩
  high := List.forall_mem_append.2 ⟨fun a left => (first.high a left).trans_le stop, second.high⟩

theorem weaken (within : Within q r places) (start : p.pair ≤ q.pair) : Within p r places :=
  ⟨within.sorted, fun place inside => start.trans (within.low place inside), within.high⟩

end Within

namespace Template

section Statements

def startOf (position : Position) : Pending → Position
  | some (start, _) => start
  | none => position

def Held (position : Position) (pending : Pending) : Prop :=
  ∀ x ∈ pending, x.1.pair < position.pair

theorem held_none (position : Position) : Held position none := fun _ none => nomatch none

theorem Held.startOf_le {position : Position} {pending : Pending} (held : Held position pending) :
    (startOf position pending).pair ≤ position.pair := by
  cases pending with
  | none => exact le_refl position.pair
  | some x => exact (held x rfl).le

theorem literalOf_within {position : Position} {pending : Pending} (held : Held position pending) :
    Within (startOf position pending) position ((literalOf pending).map Statement.pair) := by
  cases pending with
  | none => exact .nil
  | some x => exact .single (le_refl x.1.pair) (held x rfl)

theorem addLiteral_held {position : Position} {pending : Pending} (held : Held position pending)
    (text : Text) {source : Text} (some : source ≠ []) :
    Held (position.after source) (addLiteral pending position text) ∧
      (startOf position pending).pair ≤
        (startOf (position.after source) (addLiteral pending position text)).pair := by
  have further : position.pair < (position.after source).pair := position.pair_lt_after some
  cases pending with
  | none =>
    by_cases empty : text = []
    · rw [empty, addLiteral_nil]
      exact ⟨held_none _, further.le⟩
    · have begun : addLiteral none position text = .some (position, text) := by
        simp [addLiteral, empty]
      rw [begun]
      exact ⟨by rintro _ ⟨rfl⟩; exact further, le_refl position.pair⟩
  | some x => exact ⟨by rintro _ ⟨rfl⟩; exact (held x rfl).trans further, le_refl x.1.pair⟩

theorem codeStatement_cases (x : Position × Segment) :
    codeStatement x = [] ∨ ∃ s, codeStatement x = [s] := by
  unfold codeStatement
  split
  · split
    · exact .inl rfl
    · exact .inr ⟨_, rfl⟩
  · exact .inl rfl

theorem codeStatement_within (position : Position) (part : Segment) :
    Within position (position.after part.source)
      ((codeStatement (position, part)).map Statement.pair) := by
  rcases codeStatement_cases (position, part) with none | ⟨s, one⟩
  · rw [none]
    exact .nil
  · obtain ⟨text, full, put⟩ := mem_codeStatement (one ▸ List.mem_singleton_self s)
    have inside : part.inside ≠ [] := by
      intro empty
      rw [text, empty] at full
      exact full rfl
    rw [one, part.source_eq_inside, Position.after_append, Position.after_append, put]
    exact .single (position.pair_le_after part.opening)
      (((position.after part.opening).pair_lt_after inside).trans_le
        (Position.pair_le_after _ part.closing))

theorem statementsFrom_within {position : Position} {pending : Pending} {parts : List Segment}
    (held : Held position pending) (full : ∀ part ∈ parts, part.source ≠ [])
    (trimmed : ∀ part ∈ parts, Trimmed part) :
    Within (startOf position pending) (position.after (parts.flatMap Segment.source))
      ((statementsFrom position pending parts).map Statement.pair) := by
  induction parts generalizing position pending with
  | nil => exact literalOf_within held
  | cons part parts ih =>
    obtain ⟨some, full⟩ := List.forall_mem_cons.1 full
    obtain ⟨first, trimmed⟩ := List.forall_mem_cons.1 trimmed
    rw [statementsFrom, List.flatMap_cons, Position.after_append]
    cases part.literal? with
    | some text =>
      obtain ⟨later, begun⟩ := addLiteral_held held text some
      exact (ih later full trimmed).weaken begun
    | none =>
      have code := codeStatement_within position part
      have later := ih (held_none (position.after part.source)) full trimmed
      have passed := position.pair_le_after part.source
      have behind := Position.pair_le_after (position.after part.source)
        (parts.flatMap Segment.source)
      rw [statementOf_eq position first, List.map_append, List.map_append]
      exact (literalOf_within held).append (code.append later passed behind) held.startOf_le
        (passed.trans behind)

end Statements

section Diagnostics

theorem diagnosticOf_cases (position : Position) (part : Segment) :
    diagnosticOf position part = [] ∨
      ∃ problem, diagnosticOf position part = [.at problem position] := by
  unfold diagnosticOf
  split
  all_goals first | exact .inr ⟨_, rfl⟩ | exact .inl rfl

theorem length_diagnosticOf (position : Position) (part : Segment) :
    (diagnosticOf position part).length ≤ 1 := by
  rcases diagnosticOf_cases position part with none | ⟨problem, one⟩
  · rw [none]
    exact Nat.zero_le 1
  · rw [one]
    exact Nat.le_refl 1

theorem diagnosticOf_of_mem {position : Position} {part : Segment} {d : Diagnostic}
    (inside : d ∈ diagnosticOf position part) :
    diagnosticOf position part = [d] ∧ d = .at d.problem position := by
  rcases diagnosticOf_cases position part with none | ⟨problem, one⟩
  · rw [none] at inside
    cases inside
  · obtain rfl : d = .at problem position := List.mem_singleton.1 (one ▸ inside)
    exact ⟨one, rfl⟩

theorem diagnosticsFrom_within {position : Position} {parts : List Segment}
    (full : ∀ part ∈ parts, part.source ≠ []) :
    Within position (position.after (parts.flatMap Segment.source))
      ((diagnosticsFrom position parts).map Diagnostic.pair) := by
  induction parts generalizing position with
  | nil => exact .nil
  | cons part parts ih =>
    obtain ⟨some, full⟩ := List.forall_mem_cons.1 full
    have further := position.pair_lt_after some
    have first : Within position (position.after part.source)
        ((diagnosticOf position part).map Diagnostic.pair) := by
      rcases diagnosticOf_cases position part with none | ⟨problem, one⟩
      · rw [none]
        exact .nil
      · rw [one]
        exact .single (le_refl position.pair) further
    rw [diagnosticsFrom, List.flatMap_cons, Position.after_append, List.map_append]
    exact first.append (ih full) further.le (Position.pair_le_after _ _)

theorem Begins.reported {before : Option Char} {part : Segment} {rest : Text}
    (begins : Begins before part rest) {position : Position} {d : Diagnostic}
    (inside : d ∈ diagnosticOf position part) :
    Apart before ∧ ∃ others, part.source = '@' :: others := by
  cases begins with
  | plain | wordAt | escapedAt | implicit => cases inside
  | strayAt apart => exact ⟨apart, [], rfl⟩
  | comment apart | openComment apart => exact ⟨apart, _, rfl⟩
  | block apart | openBlock apart => exact ⟨apart, _, rfl⟩

theorem Divides.reported {before : Option Char} {t : Text} {parts : List Segment}
    (division : Divides before t parts) {front : Text} (entered : front.getLast? = before)
    {d : Diagnostic} (inside : d ∈ diagnosticsFrom (Position.start.after front) parts) :
    ∃ passed rest, front ++ t = passed ++ '@' :: rest ∧
      d = .at d.problem (Position.start.after passed) ∧ Apart passed.getLast? := by
  induction division generalizing front with
  | nil => cases inside
  | @cons before part rest parts first others ih =>
    rw [diagnosticsFrom] at inside
    rcases List.mem_append.1 inside with here | later
    · obtain ⟨apart, source, same⟩ := first.reported here
      exact ⟨front, source ++ rest, by rw [same, List.cons_append], (diagnosticOf_of_mem here).2,
        entered ▸ apart⟩
    · rw [← Position.after_append] at later
      have last : (front ++ part.source).getLast? = part.source.getLast? :=
        List.getLast?_append_of_ne_nil front first.source_ne_nil
      obtain ⟨passed, behind, split, place⟩ := ih last later
      exact ⟨passed, behind, by rw [← split, List.append_assoc], place⟩

end Diagnostics

section Open

theorem diagnosticsFrom_concat (position : Position) (parts : List Segment) (last : Segment) :
    diagnosticsFrom position (parts ++ [last]) =
      diagnosticsFrom position parts ++
        diagnosticOf (position.after (parts.flatMap Segment.source)) last := by
  rw [diagnosticsFrom_eq, placedFrom_append, List.flatMap_append, ← diagnosticsFrom_eq]
  exact congrArg _ (List.append_nil _)

theorem isOpen_of_mem {position : Position} {part : Segment} {d : Diagnostic}
    (inside : d ∈ diagnosticOf position part) : d.isOpen = part.isOpen := by
  cases part with
  | comment body closed =>
    cases closed with
    | true => cases inside
    | false => rw [List.mem_singleton.1 inside]; rfl
  | block kind body closed =>
    cases closed with
    | true => cases kind <;> cases inside
    | false => cases kind <;> rw [List.mem_singleton.1 inside] <;> rfl
  | strayAt => rw [List.mem_singleton.1 inside]; rfl
  | _ => cases inside

theorem Begins.rest_of_open {before : Option Char} {part : Segment} {rest : Text}
    (begins : Begins before part rest) (unclosed : part.isOpen = true) : rest = [] := by
  cases begins with
  | openComment | openBlock => rfl
  | _ => cases unclosed

theorem Divides.closed_dropLast {before : Option Char} {t : Text} {parts : List Segment}
    (division : Divides before t parts) : ∀ part ∈ parts.dropLast, part.isOpen = false := by
  induction division with
  | nil => exact List.forall_mem_nil _
  | @cons before part rest parts first others ih =>
    cases others with
    | nil => exact List.forall_mem_nil _
    | cons next further =>
      rw [List.dropLast_cons_of_ne_nil (List.cons_ne_nil _ _)]
      refine List.forall_mem_cons.2 ⟨Bool.eq_false_iff.2 fun unclosed => ?_, ih⟩
      exact next.source_ne_nil (List.append_eq_nil_iff.1 (first.rest_of_open unclosed)).1

theorem Divides.front_closed {before : Option Char} {t : Text} {front : List Segment}
    {last : Segment} (division : Divides before t (front ++ [last])) (position : Position) :
    ∀ d ∈ diagnosticsFrom position front, d.isOpen = false := by
  intro d inside
  rw [diagnosticsFrom_eq] at inside
  obtain ⟨x, member, own⟩ := List.mem_flatMap.1 inside
  have closed := division.closed_dropLast
  rw [List.dropLast_concat] at closed
  rw [isOpen_of_mem own]
  exact closed x.2 (mem_placedFrom member).1

theorem statementsFrom_comment (position : Position) (pending : Pending) (parts : List Segment)
    (body : Text) (closed : Bool) :
    statementsFrom position pending (parts ++ [.comment body closed]) =
      statementsFrom position pending parts := by
  induction parts generalizing position pending with
  | nil => simp [statementsFrom, Segment.literal?, addLiteral_nil]
  | cons part parts ih => simp only [List.cons_append, statementsFrom, ih]

theorem statementsFrom_block (position : Position) (pending : Pending) (parts : List Segment)
    (kind : BlockKind) (body : Text) (closed : Bool) :
    statementsFrom position pending (parts ++ [.block kind body closed]) =
      statementsFrom position pending parts ++
        statementOf (position.after (parts.flatMap Segment.source)) (.block kind body closed) := by
  induction parts generalizing position pending with
  | nil => simp [statementsFrom, Segment.literal?, literalOf, Position.after]
  | cons part parts ih =>
    simp only [List.cons_append, statementsFrom, ih, List.flatMap_cons, Position.after_append]
    cases part.literal? <;> simp only [List.append_assoc]

theorem length_statementOf_block (position : Position) (kind : BlockKind) (body : Text)
    (closed : Bool) : (statementOf position (.block kind body closed)).length ≤ 1 := by
  unfold statementOf
  dsimp only
  split
  · exact Nat.zero_le 1
  · exact Nat.le_refl 1

theorem Divides.behind_open {t : Text} {front : List Segment} {last : Segment}
    (division : Divides none t (front ++ [last])) (unclosed : last.isOpen = true) {d : Diagnostic}
    (inside : d ∈ diagnosticOf (Position.start.after (front.flatMap Segment.source)) last) :
    ((statementsFrom .start none (front ++ [last])).countP fun s => d.pair < s.pair) ≤ 1 ∧
      (d.code = 103 → ∀ s ∈ statementsFrom .start none (front ++ [last]), s.pair < d.pair) := by
  have full := (List.forall_mem_append.1 division.source_ne_nil).1
  have trimmed := (List.forall_mem_append.1 division.trimmed).1
  have earlier : ∀ s ∈ statementsFrom .start none front, s.pair < d.pair := by
    rw [(diagnosticOf_of_mem inside).2]
    exact List.forall_mem_map.1 (statementsFrom_within (held_none .start) full trimmed).high
  have nothing : ((statementsFrom .start none front).countP fun s => d.pair < s.pair) = 0 := by
    refine List.countP_eq_zero.2 fun s member => ?_
    simpa using (earlier s member).le
  cases last with
  | comment body closed =>
    rw [statementsFrom_comment, nothing]
    exact ⟨Nat.zero_le 1, fun _ => earlier⟩
  | block kind body closed =>
    rw [statementsFrom_block, List.countP_append, nothing, Nat.zero_add]
    refine ⟨List.countP_le_length.trans (length_statementOf_block ..), fun comment => ?_⟩
    cases closed with
    | true => cases unclosed
    | false => cases kind <;> rw [List.mem_singleton.1 inside] at comment <;> cases comment
  | _ => cases unclosed

end Open

/-- Statements stand in the order of their places, and so do diagnostics. What is reported is
reported at an at sign that no letter or digit precedes. At most one diagnostic is about something
without an end; it is the last one, all statements begin before it if this is a comment, and else at
most one begins behind it. -/
theorem places_increase (t : Text) :
    ((statements t).map Statement.pair).Pairwise (· < ·) ∧
    ((diagnostics t).map Diagnostic.pair).Pairwise (· < ·) ∧
    (∀ d ∈ diagnostics t, ∃ front rest, t = front ++ '@' :: rest ∧
      d = .at d.problem (Position.start.after front) ∧ Apart front.getLast?) ∧
    (diagnostics t).countP Diagnostic.isOpen ≤ 1 ∧
    ∀ d ∈ diagnostics t, d.isOpen = true →
      (diagnostics t).getLast? = some d ∧
      ((statements t).countP fun s => d.pair < s.pair) ≤ 1 ∧
      (d.code = 103 → ∀ s ∈ statements t, s.pair < d.pair) := by
  have division : Divides none t (segments t) := divides_iff.2 rfl
  have full := division.source_ne_nil
  have entered : ([] : Text).getLast? = none := rfl
  refine ⟨(statementsFrom_within (held_none .start) full division.trimmed).sorted,
    (diagnosticsFrom_within full).sorted, fun d => division.reported entered, ?_⟩
  rw [statements, diagnostics]
  generalize segments t = parts at division
  rcases List.eq_nil_or_concat' parts with rfl | ⟨front, last, rfl⟩
  · exact ⟨Nat.zero_le 1, List.forall_mem_nil _⟩
  have closed := division.front_closed .start
  rw [diagnosticsFrom_concat]
  refine ⟨?_, fun d inside unclosed => ?_⟩
  · rw [List.countP_append, List.countP_eq_zero.2 (by simpa using closed), Nat.zero_add]
    exact List.countP_le_length.trans (length_diagnosticOf ..)
  · have own : d ∈ diagnosticOf (Position.start.after (front.flatMap Segment.source)) last := by
      refine (List.mem_append.1 inside).resolve_left fun earlier => ?_
      exact Bool.false_ne_true ((closed d earlier).symm.trans unclosed)
    refine ⟨?_, division.behind_open ((isOpen_of_mem own).symm.trans unclosed) own⟩
    rw [(diagnosticOf_of_mem own).1, List.getLast?_concat]

end Template

end TemplateCompiler
