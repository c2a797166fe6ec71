import TemplateCompiler.Proofs.Template.Kinds

/-! Where statements stand in their template. A statement of code is put where the inside of its
part begins, but its text has lost the blanks there: the code is at the place of its statement only
if there are none. -/

namespace TemplateCompiler

namespace Segment

/-- The blanks between the opening of a part and what it says. -/
def gap (part : Segment) : Text := part.inside.takeWhile Text.isBlankChar

end Segment

namespace Template

def restFrom (here place : Position) : Text → Option Text
  | [] => if here = place then some [] else none
  | c :: t => if here = place then some (c :: t) else restFrom (here.next c) place t

/-- What a template holds from a place on. -/
def restAt (t : Text) (place : Position) : Option Text := restFrom .start place t

/-- The template has the text of a statement where the statement says. -/
def Located (t : Text) (s : Statement) : Prop :=
  ∃ place rest, s = .at s.kind s.text place ∧ restAt t place = some (s.text ++ rest)

theorem restFrom_after (here : Position) (front rest : Text) :
    restFrom here (here.after front) (front ++ rest) = some rest := by
  induction front generalizing here with
  | nil => cases rest <;> exact if_pos rfl
  | cons c front ih =>
    have later : here ≠ here.after (c :: front) :=
      (here.before_after (List.cons_ne_nil c front)).ne
    rw [List.cons_append, restFrom, if_neg later]
    exact ih (here.next c)

theorem restAt_after (front rest : Text) :
    restAt (front ++ rest) (Position.start.after front) = some rest :=
  restFrom_after .start front rest

theorem mem_placedFrom {parts : List Segment} {here : Position} {x : Position × Segment}
    (inside : x ∈ placedFrom here parts) :
    x.2 ∈ parts ∧ ∃ front back, parts.flatMap Segment.source = front ++ x.2.source ++ back ∧
      x.1 = here.after front := by
  induction parts generalizing here with
  | nil => cases inside
  | cons first parts ih =>
    rw [List.flatMap_cons]
    rcases List.mem_cons.1 inside with rfl | further
    · exact ⟨List.mem_cons_self, [], parts.flatMap Segment.source, rfl, rfl⟩
    · obtain ⟨member, front, back, split, place⟩ := ih further
      refine ⟨List.mem_cons_of_mem first member, first.source ++ front, back, ?_, ?_⟩
      · simp only [split, List.append_assoc]
      · rw [place, Position.after_append]

theorem mem_placed {t : Text} {x : Position × Segment} (inside : x ∈ placed t) :
    x.2 ∈ segments t ∧
      ∃ front back, t = front ++ x.2.source ++ back ∧ x.1 = Position.start.after front := by
  obtain ⟨member, front, back, split, place⟩ := mem_placedFrom inside
  exact ⟨member, front, back, (segments_append t).symm.trans split, place⟩

theorem mem_statements_code {t : Text} {s : Statement} (inside : s ∈ statements t)
    (code : s.kind ≠ .literal) : ∃ x ∈ placed t, s ∈ codeStatement x := by
  have division : Divides none t (segments t) := divides_iff.2 rfl
  have kept : s ∈ (statements t).filter fun s => !s.isLiteral :=
    List.mem_filter.2 ⟨inside, by simp [Statement.isLiteral, code]⟩
  rw [code_statements] at kept
  obtain ⟨x, member, stated⟩ := List.mem_flatMap.1 kept
  rw [statementOf_eq x.1 (division.trimmed x.2 (mem_placed member).1)] at stated
  exact ⟨x, member, stated⟩

theorem mem_codeStatement {x : Position × Segment} {s : Statement} (inside : s ∈ codeStatement x) :
    s.text = x.2.inside.trim ∧ s.text ≠ [] ∧ s = .at s.kind s.text (x.1.after x.2.opening) := by
  obtain ⟨position, part⟩ := x
  unfold codeStatement at inside
  cases part with
  | block | implicit =>
    simp only [code?] at inside
    split at inside
    · cases inside
    · next full =>
      cases List.mem_singleton.1 inside
      exact ⟨rfl, full, rfl⟩
  | _ => cases inside

theorem inside_eq_gap {part : Segment} (full : part.inside.trim ≠ []) :
    ∃ rest, part.inside = part.gap ++ part.inside.trim ++ rest ∧ part.gap.isBlank := by
  obtain ⟨l, r, split, blank, -⟩ := part.inside.exists_trim
  have gap : part.gap = l := by
    rw [Segment.gap, split, List.append_assoc]
    refine Text.takeWhile_append_of_stop (List.all_eq_true.1 blank) fun c first => ?_
    rw [List.head?_append_of_ne_nil _ full] at first
    exact part.inside.head_trim c first
  rw [gap]
  exact ⟨r, split, blank⟩

theorem at_injective {kind : StatementKind} {text : Text} {p q : Position}
    (same : Statement.at kind text p = .at kind text q) : p = q := by
  simp only [Statement.at, Statement.mk.injEq, Int.natCast_inj, true_and] at same
  cases p
  cases q
  exact congrArg₂ Position.mk same.1 same.2

theorem located_iff {t whole : Text} {s : Statement} {place : Position}
    (put : s = .at s.kind s.text place) (found : restAt t place = some whole) :
    Located t s ↔ s.text <+: whole := by
  constructor
  · rintro ⟨other, rest, same, holds⟩
    obtain rfl : other = place := at_injective (same.symm.trans put)
    rw [found, Option.some.injEq] at holds
    exact ⟨rest, holds.symm⟩
  · rintro ⟨rest, rfl⟩
    exact ⟨place, rest, put, found⟩

theorem prefix_behind_blanks_iff {gap text : Text} (blank : gap.isBlank) (full : text ≠ [])
    (first : ∀ c ∈ text.head?, Text.isBlankChar c = false) (rest : Text) :
    text <+: gap ++ text ++ rest ↔ gap = [] := by
  constructor
  · intro begins
    cases gap with
    | nil => rfl
    | cons c gap =>
      obtain ⟨d, text, rfl⟩ := List.exists_cons_of_ne_nil full
      have same : d = c := (List.cons_prefix_cons.1 begins).1
      have starts : Text.isBlankChar c = true := List.all_eq_true.1 blank c List.mem_cons_self
      have stops := first d rfl
      rw [same, starts] at stops
      cases stops
  · rintro rfl
    exact ⟨rest, rfl⟩

theorem gap_implicit {expression : Text} (trimmed : Trimmed (.implicit expression)) :
    (Segment.implicit expression).gap = [] := by
  obtain ⟨same, full⟩ := trimmed expression rfl
  obtain ⟨c, rest, rfl⟩ := List.exists_cons_of_ne_nil full
  have stops : Text.isBlankChar c = false :=
    Text.head_trim (c :: rest) c (by rw [same]; rfl)
  simp [Segment.gap, Segment.inside, stops]

/-- Every statement of code is put where the inside of a part of the template begins, and its text
stands behind the blanks there. So the statement names the place of its text exactly if there are no
blanks, as for expressions without brackets, and the line of its text exactly if there is no line
feed among them. -/
theorem statements_located (t : Text) {s : Statement} (inside : s ∈ statements t)
    (code : s.kind ≠ .literal) :
    ∃ x ∈ placed t, ∃ rest,
      s = .at s.kind s.text (x.1.after x.2.opening) ∧
      restAt t (x.1.after x.2.opening) = some (x.2.gap ++ s.text ++ rest) ∧
      (Located t s ↔ x.2.gap = []) ∧
      ((∃ expression, x.2 = .implicit expression) → x.2.gap = []) ∧
      restAt t (x.1.after (x.2.opening ++ x.2.gap)) = some (s.text ++ rest) ∧
      ((x.1.after (x.2.opening ++ x.2.gap)).line : Int) = s.line + x.2.gap.count '\n' := by
  obtain ⟨x, member, stated⟩ := mem_statements_code inside code
  obtain ⟨text, full, put⟩ := mem_codeStatement stated
  obtain ⟨behind, split, blank⟩ := inside_eq_gap (text ▸ full)
  obtain ⟨part, front, back, whole, start⟩ := mem_placed member
  have cut : t = front ++ x.2.opening ++
      (x.2.gap ++ s.text ++ (behind ++ x.2.closing ++ back)) := by
    rw [whole, x.2.source_eq_inside, split, text]
    simp only [List.append_assoc]
  have found : restAt t (x.1.after x.2.opening) =
      some (x.2.gap ++ s.text ++ (behind ++ x.2.closing ++ back)) := by
    rw [start, ← Position.after_append, cut]
    exact restAt_after _ _
  have later : restAt t (x.1.after (x.2.opening ++ x.2.gap)) =
      some (s.text ++ (behind ++ x.2.closing ++ back)) := by
    rw [start, ← Position.after_append, cut, List.append_assoc x.2.gap, ← List.append_assoc,
      ← List.append_assoc front]
    exact restAt_after _ _
  have line : ((x.1.after (x.2.opening ++ x.2.gap)).line : Int) =
      s.line + x.2.gap.count '\n' := by
    rw [put, Position.after_append, Position.line_after]
    exact Int.natCast_add _ _
  have first : ∀ c ∈ s.text.head?, Text.isBlankChar c = false := text ▸ x.2.inside.head_trim
  have division : Divides none t (segments t) := divides_iff.2 rfl
  refine ⟨x, member, _, put, found, ?_, ?_, later, line⟩
  · rw [located_iff put found, prefix_behind_blanks_iff blank full first]
  · rintro ⟨expression, same⟩
    rw [same]
    exact gap_implicit (same ▸ division.trimmed x.2 part)

def lateBlock : Text := "@\x7b\n  x\n\x7d".toList

theorem statements_located_late :
    ⟨.code, "x".toList, 1, 3⟩ ∈ statements lateBlock ∧ StatementKind.code ≠ .literal ∧
    ∃ x ∈ placed lateBlock, ∃ rest,
      (⟨.code, "x".toList, 1, 3⟩ : Statement) =
        .at .code "x".toList (x.1.after x.2.opening) ∧
      restAt lateBlock (x.1.after x.2.opening) = some (x.2.gap ++ "x".toList ++ rest) ∧
      (Located lateBlock ⟨.code, "x".toList, 1, 3⟩ ↔ x.2.gap = []) ∧
      ((∃ expression, x.2 = .implicit expression) → x.2.gap = []) ∧
      restAt lateBlock (x.1.after (x.2.opening ++ x.2.gap)) = some ("x".toList ++ rest) ∧
      ((x.1.after (x.2.opening ++ x.2.gap)).line : Int) = 1 + x.2.gap.count '\n' :=
  have inside : ⟨.code, "x".toList, 1, 3⟩ ∈ statements lateBlock := by decide +kernel
  ⟨inside, by decide, statements_located lateBlock inside (by decide)⟩

/-- The only statement says line 1, where its text is not; that is on line 2. -/
theorem lateBlock_not_located :
    statements lateBlock = [⟨.code, "x".toList, 1, 3⟩] ∧
    ¬ Located lateBlock ⟨.code, "x".toList, 1, 3⟩ ∧
    restAt lateBlock ⟨1, 3⟩ = some "\n  x\n\x7d".toList ∧
    restAt lateBlock ⟨2, 3⟩ = some "x\n\x7d".toList := by
  have found : restAt lateBlock ⟨1, 3⟩ = some "\n  x\n\x7d".toList := by decide +kernel
  have put : (⟨.code, "x".toList, 1, 3⟩ : Statement) = .at .code "x".toList ⟨1, 3⟩ := rfl
  refine ⟨by decide +kernel, ?_, found, by decide +kernel⟩
  rw [located_iff put found]
  decide +kernel

end Template

end TemplateCompiler
