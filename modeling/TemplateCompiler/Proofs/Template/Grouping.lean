import Mathlib.Data.List.SplitBy
import TemplateCompiler.Proofs.Template.Division
import TemplateCompiler.Template.Statements

/-! The statements of a template, said without the reader's state: literal parts that no code
stands between are one statement, and each part of code is one of its own. -/

namespace TemplateCompiler

namespace Segment

def opening : Segment → Text
  | .escapedAt => ['@']
  | .comment .. => ['@', '*']
  | .block kind .. => ['@', kind.opener]
  | .implicit _ => ['@']
  | _ => []

def inside : Segment → Text
  | .plain text => text
  | .wordAt => ['@']
  | .escapedAt => ['@']
  | .strayAt _ => ['@']
  | .comment body _ => body
  | .block _ body _ => body
  | .implicit expression => expression

def closing : Segment → Text
  | .comment _ true => Template.commentEnd
  | .block kind _ true => [kind.closer]
  | _ => []

/-- What of a part is in a statement. -/
def kept : Segment → Text
  | .comment .. => []
  | .block _ body _ => body.trim
  | part => part.inside

def isComment : Segment → Bool
  | .comment .. => true
  | _ => false

theorem source_eq_inside (part : Segment) :
    part.source = part.opening ++ part.inside ++ part.closing := by
  cases part with
  | comment body closed => cases closed <;> simp [source, opening, inside, closing,
      Template.commentEnd]
  | block kind body closed => cases closed <;> simp [source, opening, inside, closing]
  | _ => simp [source, opening, inside, closing]

theorem inside_eq_kept {part : Segment} (code : part.isComment = false) :
    ∃ l r : Text, part.inside = l ++ part.kept ++ r ∧ l.isBlank ∧ r.isBlank := by
  cases part with
  | block kind body closed => exact body.exists_trim
  | comment => cases code
  | _ => exact ⟨[], [], by simp [kept], rfl, rfl⟩

end Segment

namespace Template

def placedFrom : Position → List Segment → List (Position × Segment)
  | _, [] => []
  | position, part :: parts =>
    (position, part) :: placedFrom (position.after part.source) parts

def placed (t : Text) : List (Position × Segment) := placedFrom .start (segments t)

def joined (a b : Position × Segment) : Bool := a.2.literal?.isSome && b.2.literal?.isSome

/-- The longest runs of parts that are joined; each part of code is a run of its own. -/
def groups (t : Text) : List (List (Position × Segment)) := (placed t).splitBy joined

def literals (group : List (Position × Segment)) : List (Position × Text) :=
  (group.map fun x => (x.1, x.2.literal?.getD [])).filter fun x => !x.2.isEmpty

/-- What the literal texts of a group are together, from the place of the first on. -/
def gathered (group : List (Position × Segment)) : Option (Position × Text) :=
  (literals group).head?.map fun x => (x.1, (literals group).flatMap Prod.snd)

def code? (position : Position) : Segment → Option (StatementKind × Text × Position)
  | .block kind body _ => some (kind.statementKind, body, afterOpening position kind.opener)
  | .implicit expression => some (.expression, expression, position.next '@')
  | _ => none

def codeStatement (x : Position × Segment) : List Statement :=
  match code? x.1 x.2 with
  | some (kind, inside, start) =>
    if inside.trim = [] then [] else [.at kind inside.trim start]
  | none => []

def groupStatements (group : List (Position × Segment)) : List Statement :=
  literalOf (gathered group) ++ group.flatMap codeStatement

theorem literals_append (g h : List (Position × Segment)) :
    literals (g ++ h) = literals g ++ literals h := by
  simp only [literals, List.map_append, List.filter_append]

theorem gathered_concat (g : List (Position × Segment)) (position : Position) (part : Segment)
    {text : Text} (literal : part.literal? = some text) :
    gathered (g ++ [(position, part)]) = addLiteral (gathered g) position text := by
  have one : literals [(position, part)] = if text = [] then [] else [(position, text)] := by
    cases text <;> simp [literals, literal]
  rw [gathered, gathered, literals_append, one]
  by_cases empty : text = []
  · rw [if_pos empty, List.append_nil, empty]
    cases literals g <;> simp [addLiteral]
  · rw [if_neg empty]
    cases literals g <;> simp [addLiteral, empty]

theorem codeStatement_literal {x : Position × Segment} (literal : x.2.literal?.isSome = true) :
    codeStatement x = [] := by
  obtain ⟨position, part⟩ := x
  cases part with
  | block | implicit => cases literal
  | _ => rfl

theorem groupStatements_literal {g : List (Position × Segment)}
    (literal : ∀ x ∈ g, x.2.literal?.isSome = true) :
    groupStatements g = literalOf (gathered g) := by
  have nothing : g.flatMap codeStatement = [] :=
    List.flatMap_eq_nil_iff.2 fun x inside => codeStatement_literal (literal x inside)
  rw [groupStatements, nothing, List.append_nil]

theorem groupStatements_code {x : Position × Segment} (code : x.2.literal? = none) :
    groupStatements [x] = codeStatement x := by
  simp [groupStatements, gathered, literals, code, literalOf]

def Trimmed (part : Segment) : Prop :=
  ∀ expression, part = .implicit expression → expression.trim = expression ∧ expression ≠ []

theorem Begins.trimmed {before : Option Char} {part : Segment} {rest : Text}
    (begins : Begins before part rest) : Trimmed part := by
  rintro expression rfl
  cases begins with
  | implicit apart named longest => exact takeImplicit_trim named longest

theorem Divides.trimmed {before : Option Char} {t : Text} {parts : List Segment}
    (division : Divides before t parts) : ∀ part ∈ parts, Trimmed part := by
  induction division with
  | nil => exact fun _ inside => absurd inside List.not_mem_nil
  | cons first _ ih => exact List.forall_mem_cons.2 ⟨first.trimmed, ih⟩

theorem statementOf_eq (position : Position) {part : Segment} (trimmed : Trimmed part) :
    statementOf position part = codeStatement (position, part) := by
  cases part with
  | block kind body closed =>
    simp only [statementOf, codeStatement, code?, ← Text.trim_eq_nil_iff]
  | implicit expression =>
    obtain ⟨same, some⟩ := trimmed expression rfl
    simp only [statementOf, codeStatement, code?, same, if_neg some]
  | _ => rfl

theorem splitBy_literal {g : List (Position × Segment)}
    (literal : ∀ x ∈ g, x.2.literal?.isSome = true) :
    (g.splitBy joined).flatMap groupStatements = literalOf (gathered g) := by
  by_cases empty : g = []
  · rw [empty]
    rfl
  · have chain : g.IsChain fun x y => joined x y = true := by
      refine (List.pairwise_iff_forall_sublist.2 fun {x y} both => ?_).isChain
      have left := literal x (both.subset List.mem_cons_self)
      have right := literal y (both.subset (List.mem_cons_of_mem x List.mem_cons_self))
      simp only [joined, left, right, Bool.and_self]
    rw [List.splitBy_of_isChain empty chain, List.flatMap_singleton,
      groupStatements_literal literal]

theorem splitBy_code {x : Position × Segment} (code : x.2.literal? = none)
    (g h : List (Position × Segment)) :
    (g ++ x :: h).splitBy joined = g.splitBy joined ++ [x] :: h.splitBy joined := by
  have apart : ∀ y, joined y x = false := by simp [joined, code]
  have alone : ∀ y, joined x y = false := by simp [joined, code]
  have single : ([x] ++ h).splitBy joined = [x].splitBy joined ++ h.splitBy joined := by
    apply List.splitBy_append
    rintro _ ⟨rfl⟩ y _
    exact alone y
  rw [List.splitBy_append_cons h fun y _ => apart y]
  exact congrArg _ single

/-- The reader's state stands for the group `g` that it is in the middle of. -/
theorem statementsFrom_eq (parts : List Segment) (position : Position)
    (g : List (Position × Segment)) (literal : ∀ x ∈ g, x.2.literal?.isSome = true)
    (trimmed : ∀ part ∈ parts, Trimmed part) :
    statementsFrom position (gathered g) parts =
      ((g ++ placedFrom position parts).splitBy joined).flatMap groupStatements := by
  induction parts generalizing position g with
  | nil => rw [placedFrom, List.append_nil, statementsFrom, splitBy_literal literal]
  | cons part parts ih =>
    obtain ⟨first, others⟩ := List.forall_mem_cons.1 trimmed
    rw [placedFrom, statementsFrom]
    -- A literal part joins the open group `g`; a part of code ends it and leaves none open.
    cases contributes : part.literal? with
    | some text =>
      have grown : ∀ x ∈ g ++ [(position, part)], x.2.literal?.isSome = true := by
        intro x inside
        rcases List.mem_append.1 inside with old | new
        · exact literal x old
        · rw [List.mem_singleton.1 new, contributes]
          rfl
      have later := ih (position.after part.source) _ grown others
      rw [gathered_concat g position part contributes, List.append_assoc] at later
      exact later
    | none =>
      have later := ih (position.after part.source) [] (by simp) others
      rw [splitBy_code contributes, List.flatMap_append, List.flatMap_cons, splitBy_literal literal,
        groupStatements_code contributes, statementOf_eq position first]
      exact congrArg _ (congrArg _ later)

theorem literalOf_addLiteral (pending : Pending) (position : Position) (text : Text) :
    (literalOf (addLiteral pending position text)).flatMap Statement.text =
      (literalOf pending).flatMap Statement.text ++ text := by
  cases pending with
  | some held => simp [addLiteral, literalOf, Statement.at]
  | none => cases text <;> simp [addLiteral, literalOf, Statement.at]

theorem literal?_eq_kept {part : Segment} {text : Text} (literal : part.literal? = some text) :
    part.kept = text := by
  cases part with
  | block | implicit => cases literal
  | _ => exact Option.some.inj literal

theorem statementOf_text {part : Segment} (position : Position) (code : part.literal? = none) :
    (statementOf position part).flatMap Statement.text = part.kept := by
  cases part with
  | block kind body closed =>
    rw [statementOf, Segment.kept]
    split
    · next blank => rw [(Text.trim_eq_nil_iff body).2 blank, List.flatMap_nil]
    · exact List.flatMap_singleton ..
  | implicit expression => exact List.flatMap_singleton ..
  | _ => cases code

theorem statementsFrom_text (parts : List Segment) (position : Position) (pending : Pending) :
    (statementsFrom position pending parts).flatMap Statement.text =
      (literalOf pending).flatMap Statement.text ++ parts.flatMap Segment.kept := by
  induction parts generalizing position pending with
  | nil => rw [statementsFrom, List.flatMap_nil, List.append_nil]
  | cons part parts ih =>
    rw [statementsFrom, List.flatMap_cons]
    cases contributes : part.literal? with
    | some text =>
      simp only [ih, literalOf_addLiteral, literal?_eq_kept contributes, List.append_assoc]
    | none =>
      simp only [List.flatMap_append, statementOf_text position contributes, ih]
      rfl

/-- A template divides into parts in one way only, without a gap, and its statements are what its
groups write. Apart from comments, delimiters and the blanks around code, every character of the
template is in a statement, once and in order. -/
theorem statements_of_segments (t : Text) :
    (∀ parts, Divides none t parts ↔ parts = segments t) ∧
    (∀ part ∈ segments t, part.source ≠ []) ∧
    (segments t).flatMap Segment.source = t ∧
    statements t = (groups t).flatMap groupStatements ∧
    (statements t).flatMap Statement.text = (segments t).flatMap Segment.kept ∧
    ∀ part ∈ segments t,
      part.source = part.opening ++ part.inside ++ part.closing ∧
      if part.isComment then part.kept = []
      else ∃ l r : Text, part.inside = l ++ part.kept ++ r ∧ l.isBlank ∧ r.isBlank := by
  have division : Divides none t (segments t) := divides_iff.2 rfl
  refine ⟨fun parts => divides_iff, division.source_ne_nil, segments_append t,
    statementsFrom_eq (segments t) .start [] (by simp) division.trimmed,
    statementsFrom_text (segments t) .start none, fun part _ => ⟨part.source_eq_inside, ?_⟩⟩
  split
  · next comment =>
    cases part with
    | comment => rfl
    | _ => cases comment
  · next code => exact Segment.inside_eq_kept (Bool.eq_false_iff.2 code)

end Template

end TemplateCompiler
