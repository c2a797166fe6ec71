import TemplateCompiler.Template.Implicit
import TemplateCompiler.Template.Segment

/-! Dividing a template text into its parts. What an at sign begins is decided by the character
before it and the one after it. -/

namespace TemplateCompiler.Template

def closeComment : Text → Option (Text × Text)
  | [] => none
  | c :: rest =>
    if c = '*' ∧ rest.head? = some '@' then some ([], rest.tail)
    else (closeComment rest).map fun (body, after) => (c :: body, after)

def readComment (t : Text) : Segment × Text :=
  match closeComment t with
  | some (body, rest) => (.comment body true, rest)
  | none => (.comment t false, [])

def readBlock (kind : BlockKind) (t : Text) : Segment × Text :=
  match closeGroup kind.opener kind.closer t with
  | some (body, rest) => (.block kind body true, rest)
  | none => (.block kind t false, [])

/-- The part that begins with an at sign, and what follows it. `before` is the character before
the at sign and `t` the text after it. -/
def readTransition (before : Option Char) (t : Text) : Segment × Text :=
  if before.any Text.isAlphanumeric then (.wordAt, t)
  else
    match t with
    | [] => (.strayAt none, [])
    | c :: rest =>
      if c = '@' then (.escapedAt, rest)
      else if c = '*' then readComment rest
      else if c = BlockKind.code.opener then readBlock .code rest
      else if c = BlockKind.expression.opener then readBlock .expression rest
      else if Text.isIdentifierStart c then
        let (expression, after) := takeImplicit t
        (.implicit expression, after)
      else (.strayAt (some c), t)

theorem closeComment_eq_append {t body rest : Text} (h : closeComment t = some (body, rest)) :
    t = body ++ '*' :: '@' :: rest := by
  induction t generalizing body with
  | nil => simp [closeComment] at h
  | cons c t ih =>
    rw [closeComment] at h
    split at h
    · next hc =>
      simp only [Option.some.injEq, Prod.mk.injEq] at h
      obtain ⟨rfl, rfl⟩ := h
      obtain ⟨rfl, hc⟩ := hc
      cases t with
      | nil => simp at hc
      | cons d t => simp_all
    · obtain ⟨⟨b, r⟩, hb, he⟩ := Option.map_eq_some_iff.1 h
      simp only [Prod.mk.injEq] at he
      obtain ⟨rfl, rfl⟩ := he
      rw [ih hb, List.cons_append]

theorem readComment_append (t : Text) :
    (readComment t).1.source ++ (readComment t).2 = '@' :: '*' :: t := by
  unfold readComment
  split
  · next h => simp [Segment.source, closeComment_eq_append h]
  · simp [Segment.source]

theorem readBlock_append (kind : BlockKind) (t : Text) :
    (readBlock kind t).1.source ++ (readBlock kind t).2 = '@' :: kind.opener :: t := by
  unfold readBlock
  split
  · next h => simp [Segment.source, closeGroup_eq_append h]
  · simp [Segment.source]

theorem readTransition_append (before : Option Char) (t : Text) :
    (readTransition before t).1.source ++ (readTransition before t).2 = '@' :: t := by
  unfold readTransition
  split
  · simp [Segment.source]
  split
  · simp [Segment.source]
  split
  · next h => simp [Segment.source, h]
  split
  · next h => rw [readComment_append, h]
  split
  · next h => rw [readBlock_append, h]
  split
  · next h => rw [readBlock_append, h]
  split
  · simp [Segment.source, takeImplicit_append]
  · simp [Segment.source]

theorem readTransition_source_ne_nil (before : Option Char) (t : Text) :
    (readTransition before t).1.source ≠ [] := by
  unfold readTransition readComment readBlock
  repeat' split
  all_goals simp [Segment.source]

theorem readTransition_length (before : Option Char) (t : Text) :
    (readTransition before t).2.length ≤ t.length := by
  have h := congrArg List.length (readTransition_append before t)
  have := List.length_pos_iff.2 (readTransition_source_ne_nil before t)
  rw [List.length_append, List.length_cons] at h
  omega

/-- The parts of a text, in order. `before` is the character before it. -/
def readFrom (before : Option Char) : Text → List Segment
  | [] => []
  | c :: rest =>
    if c = '@' then
      let step := readTransition before rest
      step.1 :: readFrom step.1.source.getLast? step.2
    else
      let text := c :: rest.takeWhile (· != '@')
      .plain text :: readFrom text.getLast? (rest.dropWhile (· != '@'))
termination_by t => t.length
decreasing_by
  · exact Nat.lt_succ_of_le (readTransition_length before rest)
  · exact Nat.lt_succ_of_le (List.dropWhile_sublist _).length_le

def segments (t : Text) : List Segment := readFrom none t

theorem readFrom_append (before : Option Char) (t : Text) :
    (readFrom before t).flatMap Segment.source = t := by
  fun_induction readFrom before t with
  | case1 => rfl
  | case2 before rest step ih =>
    rw [List.flatMap_cons, ih, readTransition_append]
  | case3 before c rest h text ih =>
    rw [List.flatMap_cons, ih]
    exact congrArg (c :: ·) List.takeWhile_append_dropWhile

theorem segments_append (t : Text) : (segments t).flatMap Segment.source = t :=
  readFrom_append none t

end TemplateCompiler.Template
