import TemplateCompiler.Proofs.Template.Depth
import TemplateCompiler.Proofs.Template.Location

/-! Expressions without brackets around them, by their grammar: a name, then members, calls and
indexes. Behind an at sign the reader takes the longest text that the grammar derives. -/

namespace TemplateCompiler.Template

section Grammar

/-- All letters, digits and underscores up to where `rest` begins. -/
structure IsName (name rest : Text) : Prop where
  full : name ≠ []
  parts : ∀ c ∈ name, Text.isIdentifierPart c = true
  maximal : ∀ c ∈ rest.head?, Text.isIdentifierPart c = false

/-- What may follow a name without a gap; `rest` is behind it. -/
inductive IsLink : Text → Text → Prop
  | member {name rest : Text} (whole : IsName name rest)
      (starts : name.head?.any Text.isIdentifierStart = true) : IsLink ('.' :: name) rest
  | call {g rest : Text} (group : IsGroup '(' ')' g) : IsLink g rest
  | index {g rest : Text} (group : IsGroup '[' ']' g) : IsLink g rest

inductive AreLinks : Text → Text → Prop
  | nil {rest : Text} : AreLinks [] rest
  | cons {link links rest : Text} (first : IsLink link (links ++ rest))
      (others : AreLinks links rest) : AreLinks (link ++ links) rest

def IsExpression (expression rest : Text) : Prop :=
  ∃ name links, expression = name ++ links ∧ IsName name (links ++ rest) ∧ AreLinks links rest

/-- The longest expression at the start of a text. It has no dot at its end, and no group that
closes is left behind it. -/
structure Longest (t expression rest : Text) : Prop where
  split : t = expression ++ rest
  derived : IsExpression expression rest
  longest : ∀ e r, t = e ++ r → IsExpression e r → e <+: expression
  undotted : expression.getLast? ≠ some '.'
  ungrouped : ∀ g, IsGroup '(' ')' g ∨ IsGroup '[' ']' g → ¬ g <+: rest

end Grammar

section Reading

theorem takeName_of_isName {name rest : Text} (whole : IsName name rest) :
    takeName (name ++ rest) = (name, rest) := by
  rw [takeName, Text.takeWhile_append_of_stop whole.parts whole.maximal,
    Text.dropWhile_append_of_stop whole.parts whole.maximal]

theorem isName_takeName {t : Text} (named : t.head?.any Text.isIdentifierStart = true) :
    IsName (takeName t).1 (takeName t).2 where
  full := by
    cases t with
    | nil => cases named
    | cons c t => exact takeName_ne_nil named t
  parts := fun c inside => List.mem_takeWhile_imp inside
  maximal := Text.head_dropWhile Text.isIdentifierPart t

theorem isGroup_of_closeGroup {c closer : Char} {t inside rest : Text}
    (call : callCloser? c = some closer) (closed : closeGroup c closer t = some (inside, rest)) :
    IsLink (c :: inside ++ [closer]) rest := by
  have closes := (closeGroup_eq_some_iff.1 closed).1
  unfold callCloser? at call
  split at call
  · next opens =>
    cases call
    subst opens
    exact .call ((isGroup_iff (by decide) (by decide)).2 ⟨inside, rfl, closes⟩)
  · split at call
    · next opens =>
      cases call
      subst opens
      exact .index ((isGroup_iff (by decide) (by decide)).2 ⟨inside, rfl, closes⟩)
    · cases call

theorem isLink_of_takeLink {t link rest : Text} (taken : takeLink t = some (link, rest)) :
    IsLink link rest := by
  unfold takeLink at taken
  split at taken
  · cases taken
  next c tail =>
  split at taken
  · next dot =>
    split at taken
    · cases taken
    next d more =>
    split at taken
    · next starts =>
      cases taken
      refine .member (isName_takeName (t := d :: more) starts) ?_
      simp [isIdentifierPart_of_start starts, starts]
    · cases taken
  · split at taken
    · cases taken
    next closer call =>
    obtain ⟨⟨inside, after⟩, closed, same⟩ := Option.map_eq_some_iff.1 taken
    cases same
    exact isGroup_of_closeGroup call closed

theorem takeLink_of_isGroup {opener closer : Char} (call : callCloser? opener = some closer)
    (distinct : opener ≠ closer) (plain : isQuote opener = false) (other : opener ≠ '.') {g : Text}
    (group : IsGroup opener closer g) (rest : Text) :
    takeLink (g ++ rest) = some (g, rest) := by
  obtain ⟨inside, rfl, closes⟩ := (isGroup_iff distinct plain).1 group
  have closed : closeGroup opener closer (inside ++ closer :: rest) = some (inside, rest) :=
    closeGroup_eq_some_iff.2 ⟨closes, rfl⟩
  have text : opener :: (inside ++ [closer]) ++ rest = opener :: (inside ++ closer :: rest) := by
    simp
  rw [text, takeLink.eq_def]
  simp only [if_neg other, call, closed]
  rfl

theorem takeLink_of_isLink {link rest : Text} (derived : IsLink link rest) :
    takeLink (link ++ rest) = some (link, rest) := by
  cases derived with
  | @member name _ whole starts =>
    have taken := takeName_of_isName whole
    obtain ⟨c, name, rfl⟩ := List.exists_cons_of_ne_nil whole.full
    have first : Text.isIdentifierStart c = true := starts
    rw [List.cons_append] at taken
    simp [takeLink, first, taken]
  | call group => exact takeLink_of_isGroup rfl (by decide) rfl (by decide) group rest
  | index group => exact takeLink_of_isGroup rfl (by decide) rfl (by decide) group rest

theorem areLinks_takeLinks (t : Text) : AreLinks (takeLinks t).1 (takeLinks t).2 := by
  fun_induction takeLinks t with
  | case1 => exact .nil
  | case2 t link rest taken links after later ih =>
    have whole := takeLinks_append rest
    rw [later] at ih whole
    refine .cons ?_ ih
    rw [whole]
    exact isLink_of_takeLink taken

theorem takeLink_takeLinks (t : Text) : takeLink (takeLinks t).2 = none := by
  fun_induction takeLinks t with
  | case1 t none => exact none
  | case2 t link rest taken links after later ih =>
    rw [later] at ih
    exact ih

theorem AreLinks.begins {links rest : Text} (derived : AreLinks links rest) :
    links <+: (takeLinks (links ++ rest)).1 := by
  induction derived with
  | nil => exact List.nil_prefix
  | @cons link links rest first others ih =>
    rw [List.append_assoc, takeLinks_of_some (takeLink_of_isLink first)]
    exact (List.prefix_append_right_inj link).2 ih

theorem IsExpression.ne_nil {expression rest : Text} (derived : IsExpression expression rest) :
    expression ≠ [] := by
  obtain ⟨name, links, rfl, whole, -⟩ := derived
  exact List.append_ne_nil_of_left_ne_nil whole.full links

theorem IsExpression.begins {expression rest : Text} (derived : IsExpression expression rest) :
    expression <+: (takeImplicit (expression ++ rest)).1 := by
  obtain ⟨name, links, rfl, whole, others⟩ := derived
  rw [List.append_assoc, takeImplicit, takeName_of_isName whole]
  exact (List.prefix_append_right_inj name).2 others.begins

theorem longest_takeImplicit {t : Text} (named : t.head?.any Text.isIdentifierStart = true) :
    Longest t (takeImplicit t).1 (takeImplicit t).2 where
  split := (takeImplicit_append t).symm
  derived := by
    refine ⟨(takeName t).1, (takeLinks (takeName t).2).1, rfl, ?_, areLinks_takeLinks _⟩
    have whole : (takeLinks (takeName t).2).1 ++ (takeImplicit t).2 = (takeName t).2 :=
      takeLinks_append (takeName t).2
    rw [whole]
    exact isName_takeName named
  longest := by
    rintro e r rfl derived
    exact derived.begins
  undotted := fun last => Bool.false_ne_true (takeImplicit_ended t '.' last)
  ungrouped := by
    rintro g group ⟨rest, split⟩
    have link : IsLink g rest := group.elim .call .index
    have taken := takeLink_of_isLink link
    rw [split] at taken
    exact nomatch (takeLink_takeLinks (takeName t).2).symm.trans taken

end Reading

section Scanning

theorem Divides.behind {before : Option Char} {t : Text} {passed parts : List Segment}
    (division : Divides before t (passed ++ parts)) :
    Divides ((passed.flatMap Segment.source).getLast?.or before) (parts.flatMap Segment.source)
      parts := by
  induction passed generalizing before t with
  | nil =>
    have whole := readFrom_append before t
    rw [← divides_iff.1 division, List.nil_append] at whole
    rw [whole]
    exact division
  | cons part passed ih =>
    obtain ⟨rest, -, first, others⟩ := divides_cons_iff.1 division
    have last : part.source.getLast?.or before = part.source.getLast? := by
      rw [List.getLast?_eq_some_getLast first.source_ne_nil, Option.some_or]
    rw [List.flatMap_cons, List.getLast?_append, Option.or_assoc, last]
    exact ih others

theorem Begins.named {before : Option Char} {expression rest : Text}
    (begins : Begins before (.implicit expression) rest) :
    Apart before ∧ (expression ++ rest).head?.any Text.isIdentifierStart = true := by
  cases begins with
  | implicit apart named =>
  refine ⟨apart, ?_⟩
  cases expression with
  | nil => cases named
  | cons c expression => exact named

theorem Begins.longest {before : Option Char} {expression rest : Text}
    (begins : Begins before (.implicit expression) rest) :
    Longest (expression ++ rest) expression rest := by
  have found := longest_takeImplicit begins.named.2
  cases begins with
  | implicit apart named taken =>
  rwa [taken] at found

theorem begins_takeImplicit {before : Option Char} {t : Text} (apart : Apart before)
    (named : t.head?.any Text.isIdentifierStart = true) :
    Begins before (.implicit (takeImplicit t).1) (takeImplicit t).2 :=
  .implicit apart (takeImplicit_named named) (by rw [takeImplicit_append])

theorem Divides.implicit_iff {before : Option Char} {rest : Text} {parts : List Segment}
    (division : Divides before ('@' :: rest) parts) :
    (∃ expression others, parts = .implicit expression :: others) ↔
      Apart before ∧ rest.head?.any Text.isIdentifierStart = true := by
  constructor
  · rintro ⟨expression, others, rfl⟩
    obtain ⟨behind, split, first, -⟩ := divides_cons_iff.1 division
    rw [(List.cons.inj split).2]
    exact first.named
  · rintro ⟨apart, named⟩
    have read := (begins_takeImplicit apart named).readFrom
    rw [Segment.source, List.cons_append, takeImplicit_append, ← divides_iff.1 division] at read
    exact ⟨_, _, read⟩

/-- An at sign that the reader comes to begins an expression exactly if no letter or digit stands
before it and a letter or underscore behind it. The statement is the longest text behind the at sign
that the grammar derives, and the reader goes on directly behind it. -/
theorem implicit_longest {t rest : Text} {passed parts : List Segment}
    (read : segments t = passed ++ parts)
    (here : t = passed.flatMap Segment.source ++ '@' :: rest) :
    ((∃ expression others, parts = .implicit expression :: others) ↔
      Apart (passed.flatMap Segment.source).getLast? ∧
        rest.head?.any Text.isIdentifierStart = true) ∧
    ∀ expression others, parts = .implicit expression :: others →
      ∃ behind, Longest rest expression behind ∧ Divides expression.getLast? behind others ∧
        .at .expression expression
          (Position.start.after (passed.flatMap Segment.source ++ ['@'])) ∈ statements t := by
  have whole : parts.flatMap Segment.source = '@' :: rest := by
    have sources := segments_append t
    rw [read, List.flatMap_append] at sources
    exact List.append_cancel_left (sources.trans here)
  have division : Divides (passed.flatMap Segment.source).getLast? ('@' :: rest) parts := by
    have all : Divides none t (passed ++ parts) := divides_iff.2 read.symm
    have behind := all.behind
    rwa [Option.or_none, whole] at behind
  refine ⟨division.implicit_iff, ?_⟩
  rintro expression others rfl
  obtain ⟨behind, split, first, later⟩ := divides_cons_iff.1 division
  obtain rfl : rest = expression ++ behind := (List.cons.inj split).2
  have last : (Segment.implicit expression).source.getLast? = expression.getLast? := by
    obtain ⟨c, tail, rfl⟩ := List.exists_cons_of_ne_nil first.longest.derived.ne_nil
    exact List.getLast?_cons_cons
  refine ⟨behind, first.longest, last ▸ later, mem_statements_of_part read ?_⟩
  rw [Position.after_append]
  exact List.mem_singleton_self _

def callAndIndex : Text := "a@b @f2.g(\")\", '[')[(].h_.(x".toList

theorem implicit_longest_callAndIndex :
    let passed := [.plain "a".toList, .wordAt, .plain "b ".toList]
    let expression := "f2.g(\")\", '[')[(].h_".toList
    segments callAndIndex = passed ++ [.implicit expression, .plain ".(x".toList] ∧
    callAndIndex = passed.flatMap Segment.source ++ '@' :: (expression ++ ".(x".toList) ∧
    Longest (expression ++ ".(x".toList) expression ".(x".toList ∧
    .at .expression expression ⟨1, 6⟩ ∈ statements callAndIndex := by
  intro passed expression
  have read : segments callAndIndex =
      passed ++ [.implicit expression, .plain ".(x".toList] := by decide +kernel
  have here : callAndIndex =
      passed.flatMap Segment.source ++ '@' :: (expression ++ ".(x".toList) := by decide +kernel
  obtain ⟨-, taken⟩ := implicit_longest read here
  obtain ⟨behind, longest, -, stated⟩ := taken expression _ rfl
  obtain rfl : ".(x".toList = behind := List.append_cancel_left longest.split
  exact ⟨read, here, longest, stated⟩

end Scanning

end TemplateCompiler.Template
