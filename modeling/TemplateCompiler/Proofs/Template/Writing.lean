import Mathlib.Data.List.Chain
import TemplateCompiler.Proofs.Template.Scan

/-! Writing a template from its pieces. Reading what was written gives the pieces back. -/

namespace TemplateCompiler.Template

inductive Item where
  | literal (text : Text)
  | block (kind : BlockKind) (body : Text)
  | comment (body : Text)
deriving DecidableEq, Repr

/-- Literal text as it is written behind `before`. An at sign behind a letter or digit is written
once, any other twice. -/
def writeLiteral : Option Char → Text → Text
  | _, [] => []
  | before, c :: text =>
    (if c = '@' ∧ ¬ before.any Text.isAlphanumeric then ['@', '@'] else [c]) ++
      writeLiteral (some c) text

namespace Item

/-- What can be written so that it is read back: some literal text, some code without blanks at
either end whose group ends where it should, or a comment that does not end early. -/
def Valid : Item → Prop
  | .literal text => text ≠ []
  | .block kind body =>
    body.isBlank = false ∧ body.trim = body ∧ Closes kind.opener kind.closer body
  | .comment body => ¬ commentEnd <:+: body

instance : DecidablePred Valid
  | .literal _ => inferInstanceAs (Decidable (_ ≠ _))
  | .block .. => inferInstanceAs (Decidable (_ ∧ _ ∧ _))
  | .comment _ => inferInstanceAs (Decidable (¬ _))

def isLiteral : Item → Bool
  | .literal _ => true
  | _ => false

def mayPrecede : Item → Item → Bool
  | .literal text, next => next.isLiteral || !text.getLast?.any Text.isAlphanumeric
  | _, _ => true

def write (before : Option Char) : Item → Text
  | .literal text => writeLiteral before text
  | .block kind body => '@' :: kind.opener :: body ++ [kind.closer]
  | .comment body => '@' :: '*' :: body ++ commentEnd

def statement? : Item → Option (StatementKind × Text)
  | .literal text => some (.literal, text)
  | .block kind body => some (kind.statementKind, body)
  | .comment _ => none

end Item

/-- Each item is written behind the last character of those before it. -/
def writeFrom (before : Option Char) : List Item → Text
  | [] => []
  | item :: items =>
    let text := item.write before
    text ++ writeFrom (text.getLast?.or before) items

def write (items : List Item) : Text := writeFrom none items

def joinLiteral : StatementKind × Text → List (StatementKind × Text) → List (StatementKind × Text)
  | (.literal, s), (.literal, t) :: rest => (.literal, s ++ t) :: rest
  | x, rest => x :: rest

/-- Statements in which no two literals are adjacent. -/
def merge (statements : List (StatementKind × Text)) : List (StatementKind × Text) :=
  statements.foldr joinLiteral []

def merged (items : List Item) : List (StatementKind × Text) :=
  merge (items.filterMap Item.statement?)

def content (s : Statement) : StatementKind × Text := (s.kind, s.text)

theorem writeLiteral_getLast? (before : Option Char) (text : Text) :
    (writeLiteral before text).getLast? = text.getLast? := by
  induction text generalizing before with
  | nil => rfl
  | cons c text ih =>
    rw [writeLiteral, List.getLast?_append, ih, List.getLast?_cons]
    cases text.getLast? with
    | some d => rfl
    | none =>
      split
      · next both => rw [both.1]; rfl
      · rfl

theorem scan_writeLiteral (text : Text) (before : Option Char) (position : Position)
    (pending : Pending) (more : Text) :
    scan before position pending (writeLiteral before text ++ more) =
      scan (text.getLast?.or before) (position.after (writeLiteral before text))
        (addLiteral pending position text) more := by
  induction text generalizing before position pending with
  | nil => rw [addLiteral_nil]; rfl
  | cons c text ih =>
    have joined (next : Position) :
        addLiteral (addLiteral pending position [c]) next text =
          addLiteral pending position (c :: text) :=
      addLiteral_addLiteral pending position (List.cons_ne_nil c []) next text
    have last : (c :: text).getLast?.or before = text.getLast?.or (some c) := by
      rw [List.getLast?_cons]
      cases text.getLast? <;> rfl
    rw [writeLiteral, last, List.append_assoc]
    by_cases plain : c = '@'
    · subst plain
      by_cases word : before.any Text.isAlphanumeric = true
      · have touching : ¬ Apart before := by simp [Apart, word]
        rw [if_neg fun both => both.2 word, List.singleton_append, scan_wordAt _ _ touching, ih,
          joined]
        rfl
      · have apart : Apart before := Bool.eq_false_iff.2 word
        rw [if_pos ⟨rfl, word⟩, List.cons_append, List.singleton_append, scan_escapedAt _ _ apart,
          ih, joined]
        rfl
    · rw [if_neg fun both => plain both.1, List.singleton_append, scan_plain _ _ _ plain, ih,
        joined]
      rfl

theorem joinLiteral_joinLiteral (s t : Text) (rest : List (StatementKind × Text)) :
    joinLiteral (.literal, s) (joinLiteral (.literal, t) rest) =
      joinLiteral (.literal, s ++ t) rest := by
  cases rest with
  | nil => rfl
  | cons x rest =>
    obtain ⟨kind, u⟩ := x
    cases kind with
    | literal => simp only [joinLiteral, List.append_assoc]
    | _ => rfl

theorem merge_addLiteral (pending : Pending) (position : Position) {text : Text} (full : text ≠ [])
    (rest : List (StatementKind × Text)) :
    merge ((literalOf (addLiteral pending position text)).map content ++ rest) =
      merge ((literalOf pending).map content ++ (.literal, text) :: rest) := by
  cases pending with
  | none =>
    have some : text.isEmpty = false := by simp [full]
    simp only [addLiteral, some, Bool.false_eq_true, if_false]
    rfl
  | some held => exact (joinLiteral_joinLiteral held.2 text (merge rest)).symm

theorem merge_code (pending : Pending) (kind : BlockKind) (body : Text)
    (rest : List (StatementKind × Text)) :
    merge ((literalOf pending).map content ++ (kind.statementKind, body) :: rest) =
      (literalOf pending).map content ++ (kind.statementKind, body) :: merge rest := by
  cases pending <;> cases kind <;> rfl

theorem getLast?_or (before : Option Char) {text : Text} (full : text ≠ []) :
    text.getLast?.or before = text.getLast? := by
  rw [List.getLast?_eq_some_getLast full, Option.some_or]

theorem writeFrom_literal (before : Option Char) {text : Text} (full : text ≠ [])
    (items : List Item) :
    writeFrom before (.literal text :: items) =
      writeLiteral before text ++ writeFrom text.getLast? items := by
  rw [writeFrom, Item.write, writeLiteral_getLast?, getLast?_or before full]

theorem writeFrom_part {before : Option Char} {item : Item} {part : Segment} {c : Char}
    (written : item.write before = part.source) (last : part.source.getLast? = some c)
    (items : List Item) :
    writeFrom before (item :: items) = part.source ++ writeFrom (some c) items := by
  rw [writeFrom]
  simp only [written, last, Option.some_or]

theorem scan_writeFrom (items : List Item) (before : Option Char) (position : Position)
    (pending : Pending) (valid : ∀ item ∈ items, item.Valid)
    (spaced : items.IsChain fun item next => item.mayPrecede next)
    (entered : ∀ item ∈ items.head?, item.isLiteral = false → Apart before) :
    (scan before position pending (writeFrom before items)).1.map content =
        merge ((literalOf pending).map content ++ items.filterMap Item.statement?) ∧
      (scan before position pending (writeFrom before items)).2 = [] := by
  induction items generalizing before position pending with
  | nil =>
    rw [writeFrom, scan_nil, List.filterMap_nil, List.append_nil]
    refine ⟨?_, rfl⟩
    cases pending <;> rfl
  | cons item items ih =>
    obtain ⟨fits, others⟩ := List.forall_mem_cons.1 valid
    obtain ⟨follows, behind⟩ := List.isChain_cons.1 spaced
    have apart := entered item rfl
    -- A literal joins what is pending, a block ends it, and a comment leaves it as it is.
    cases item with
    | literal text =>
      have next : ∀ item ∈ items.head?, item.isLiteral = false → Apart text.getLast? := by
        intro item first code
        have separate := follows item first
        simp only [Item.mayPrecede, code, Bool.false_or, Bool.not_eq_true'] at separate
        exact separate
      have later := ih text.getLast? (position.after (writeLiteral before text))
        (addLiteral pending position text) others behind next
      rw [merge_addLiteral pending position fits] at later
      rw [writeFrom_literal before fits, scan_writeLiteral, getLast?_or before fits]
      exact later
    | block kind body =>
      obtain ⟨written, trimmed, closes⟩ := fits
      have later := ih (some kind.closer) (position.after (Segment.block kind body true).source)
        none others behind fun _ _ _ => by cases kind <;> rfl
      have statement : (statementOf position (.block kind body true)).map content =
          [(kind.statementKind, body)] := by
        rw [statementOf, written, trimmed]
        rfl
      have text : writeFrom before (.block kind body :: items) = _ :=
        writeFrom_part rfl (block_getLast? kind body) items
      rw [text, scan_block position pending (apart rfl) closes]
      refine ⟨?_, later.2⟩
      rw [List.map_append, List.map_append, statement, later.1]
      exact (merge_code pending kind body _).symm
    | comment body =>
      have later := ih (some '@') (position.after (Segment.comment body true).source) pending
        others behind fun _ _ _ => rfl
      have text : writeFrom before (.comment body :: items) = _ :=
        writeFrom_part rfl (comment_getLast? body) items
      rw [text, scan_comment position pending (apart rfl) fits]
      exact later

/-- A template that is written from pieces is read without a complaint, and its statements are the
pieces, but for the comments and with adjacent literal text joined. -/
theorem statements_write {items : List Item} (valid : ∀ item ∈ items, item.Valid)
    (spaced : items.IsChain fun item next => item.mayPrecede next) :
    diagnostics (write items) = [] ∧ (statements (write items)).map content = merged items := by
  have entered : ∀ item ∈ items.head?, item.isLiteral = false → Apart none := fun _ _ _ => rfl
  obtain ⟨read, clean⟩ := scan_writeFrom items none .start none valid spaced entered
  exact ⟨clean, read⟩

def everyKind : List Item :=
  [.block .code "f(\"\x7d\");".toList, .literal "@a@".toList, .comment "x*".toList,
    .literal "@".toList, .literal "b@ ".toList, .block .expression "g(1)[')']".toList,
    .comment "@\x7b".toList, .block .code "\x7b\x7d".toList, .literal "c".toList]

theorem statements_write_everyKind :
    write everyKind =
      "@\x7bf(\"\x7d\");\x7d@@a@@*x**@@@b@ @(g(1)[')'])@*@\x7b*@@\x7b\x7b\x7d\x7dc".toList ∧
    diagnostics (write everyKind) = [] ∧
    (statements (write everyKind)).map content =
      [(.code, "f(\"\x7d\");".toList), (.literal, "@a@@b@ ".toList),
        (.expression, "g(1)[')']".toList), (.code, "\x7b\x7d".toList), (.literal, "c".toList)] := by
  have valid : ∀ item ∈ everyKind, item.Valid := by decide
  have spaced : everyKind.IsChain fun item next => item.mayPrecede next := by decide
  obtain ⟨clean, read⟩ := statements_write valid spaced
  exact ⟨by decide, clean, read.trans (by decide)⟩

end TemplateCompiler.Template
