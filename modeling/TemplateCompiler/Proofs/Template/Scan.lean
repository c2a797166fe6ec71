import TemplateCompiler.Proofs.Template.Division
import TemplateCompiler.Template.Statements

/-! What the reader makes of the rest of a text, given what it holds: one step passes over one
part, or over one character of literal text. -/

namespace TemplateCompiler.Template

/-- The statements and diagnostics of a text from a place on. `before` is the character before the
text and `pending` the literal text that is not a statement yet. -/
def scan (before : Option Char) (position : Position) (pending : Pending) (t : Text) :
    List Statement × List Diagnostic :=
  (statementsFrom position pending (readFrom before t), diagnosticsFrom position (readFrom before t))

theorem scan_nil (before : Option Char) (position : Position) (pending : Pending) :
    scan before position pending [] = (literalOf pending, []) := by
  rw [scan, readFrom, statementsFrom, diagnosticsFrom]

section Parts

variable {before : Option Char} {part : Segment} {rest : Text}

theorem scan_literal (position : Position) (pending : Pending) {text : Text}
    (begins : Begins before part rest) (literal : part.literal? = some text) :
    scan before position pending (part.source ++ rest) =
      let later := scan part.source.getLast? (position.after part.source)
        (addLiteral pending position text) rest
      (later.1, diagnosticOf position part ++ later.2) := by
  simp only [scan, begins.readFrom, statementsFrom, diagnosticsFrom, literal]

theorem scan_code (position : Position) (pending : Pending)
    (begins : Begins before part rest) (code : part.literal? = none) :
    scan before position pending (part.source ++ rest) =
      let later := scan part.source.getLast? (position.after part.source) none rest
      (literalOf pending ++ (statementOf position part ++ later.1),
        diagnosticOf position part ++ later.2) := by
  simp only [scan, begins.readFrom, statementsFrom, diagnosticsFrom, code]

end Parts

theorem addLiteral_nil (pending : Pending) (position : Position) :
    addLiteral pending position [] = pending := by
  cases pending with
  | none => rfl
  | some => simp [addLiteral]

theorem addLiteral_addLiteral (pending : Pending) (position : Position) {s : Text} (full : s ≠ [])
    (next : Position) (t : Text) :
    addLiteral (addLiteral pending position s) next t = addLiteral pending position (s ++ t) := by
  cases pending with
  | none =>
    have first : s.isEmpty = false := by simp [full]
    have both : (s ++ t).isEmpty = false := by simp [full]
    simp [addLiteral, first, both]
  | some => simp [addLiteral]

/-- A character of plain text can be passed over alone, though the part goes on behind it. -/
theorem scan_plain (before : Option Char) (position : Position) (pending : Pending) {c : Char}
    (plain : c ≠ '@') (t : Text) :
    scan before position pending (c :: t) =
      scan (some c) (position.next c) (addLiteral pending position [c]) t := by
  have whole := scan_literal position pending (Begins.plain_takeWhile before plain t) rfl
  have split : t.takeWhile (· != '@') ++ t.dropWhile (· != '@') = t :=
    List.takeWhile_append_dropWhile
  simp only [Segment.source, List.cons_append, split] at whole
  by_cases empty : t.takeWhile (· != '@') = []
  · rw [empty, List.nil_append] at split
    rw [whole, empty, split]
    rfl
  · have begins : Begins (some c) (.plain (t.takeWhile (· != '@'))) (t.dropWhile (· != '@')) :=
      .plain empty (at_notMem_takeWhile t) (head_dropWhile_at t)
    have others := scan_literal (position.next c) (addLiteral pending position [c]) begins rfl
    have joined := addLiteral_addLiteral pending position (List.cons_ne_nil c [])
      (position.next c) (t.takeWhile (· != '@'))
    have last : (c :: t.takeWhile (· != '@')).getLast? = (t.takeWhile (· != '@')).getLast? := by
      rw [List.getLast?_cons, List.getLast?_eq_some_getLast empty, Option.getD_some]
    simp only [Segment.source, split, joined] at others
    rw [whole, others, last]
    rfl

theorem scan_wordAt {before : Option Char} (position : Position) (pending : Pending)
    (word : ¬ Apart before) (t : Text) :
    scan before position pending ('@' :: t) =
      scan (some '@') (position.next '@') (addLiteral pending position ['@']) t :=
  scan_literal position pending (.wordAt word) rfl

theorem scan_escapedAt {before : Option Char} (position : Position) (pending : Pending)
    (apart : Apart before) (t : Text) :
    scan before position pending ('@' :: '@' :: t) =
      scan (some '@') (position.after ['@', '@']) (addLiteral pending position ['@']) t :=
  scan_literal position pending (.escapedAt apart) rfl

theorem comment_getLast? (body : Text) :
    (Segment.comment body true).source.getLast? = some '@' := by
  simp [Segment.source, List.getLast?_cons, List.getLast?_append]

theorem block_getLast? (kind : BlockKind) (body : Text) :
    (Segment.block kind body true).source.getLast? = some kind.closer := by
  simp [Segment.source, List.getLast?_cons, List.getLast?_append]

theorem scan_comment {before : Option Char} (position : Position) (pending : Pending) {body : Text}
    (apart : Apart before) (free : ¬ commentEnd <:+: body) (t : Text) :
    scan before position pending ((Segment.comment body true).source ++ t) =
      scan (some '@') (position.after (Segment.comment body true).source) pending t := by
  have begins : Begins before (.comment body true) t := .comment apart free
  have passed := scan_literal position pending begins rfl
  rw [addLiteral_nil, comment_getLast?] at passed
  exact passed

theorem scan_block {before : Option Char} (position : Position) (pending : Pending)
    {kind : BlockKind} {body : Text} (apart : Apart before)
    (closes : Closes kind.opener kind.closer body) (t : Text) :
    scan before position pending ((Segment.block kind body true).source ++ t) =
      let later := scan (some kind.closer)
        (position.after (Segment.block kind body true).source) none t
      (literalOf pending ++ (statementOf position (.block kind body true) ++ later.1),
        later.2) := by
  have begins : Begins before (.block kind body true) t := .block apart closes
  have passed := scan_code position pending begins rfl
  rw [block_getLast?] at passed
  cases kind <;> exact passed

end TemplateCompiler.Template
