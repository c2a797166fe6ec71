import TemplateCompiler.Proofs.Template.Scan
import TemplateCompiler.Proofs.Text.Returns

/-! Reading a template whose lines end in a carriage return and a line feed. It is read as the one
with line feeds alone, except where a quoted string goes on behind its line: a backslash at the end
of a line escapes the line feed, or else the carriage return and not the line feed. -/

namespace TemplateCompiler

open Text (withReturns)

namespace Template

namespace GroupState

def isEscaped : GroupState → Bool
  | .escaped _ => true
  | _ => false

theorem next_feed_iff {state : GroupState} : state.next '\n' = .code ↔ state.isEscaped = false := by
  cases state <;> simp [next, isEscaped, isQuote]

theorem next_return_feed (state : GroupState) : (state.next '\r').next '\n' = .code := by
  rw [next_feed_iff]
  cases state with
  | quoted mark =>
    rw [next, if_neg (by decide)]
    split <;> rfl
  | _ => rfl

end GroupState

/-- On the way to the closer no line feed is escaped in a string. -/
def endsStrings (opener closer : Char) (state : GroupState) (depth : Nat) : Text → Bool
  | [] => true
  | c :: rest =>
    (state = .code ∧ c = closer ∧ depth = 0) ||
      !(c = '\n' && state.isEscaped) &&
        endsStrings opener closer (state.next c) (depthAfter opener closer state depth c) rest

def linkEnds : Text → Bool
  | [] => true
  | c :: rest => (callCloser? c).all fun closer => endsStrings c closer .code 0 rest

def linksEnd (t : Text) : Bool :=
  linkEnds t &&
    match _taken : takeLink t with
    | none => true
    | some (_, rest) => linksEnd rest
termination_by t.length
decreasing_by exact takeLink_length _taken

/-- In the groups of brackets that are read as the part, with `rest` behind it. -/
def partEnds (rest : Text) : Segment → Bool
  | .block kind body true =>
    endsStrings kind.opener kind.closer .code 0 (body ++ kind.closer :: rest)
  | .block kind body false => endsStrings kind.opener kind.closer .code 0 body
  | .implicit expression => linksEnd (takeName (expression ++ rest)).2
  | _ => true

def partsEnd : List Segment → Bool
  | [] => true
  | part :: parts => partEnds (parts.flatMap Segment.source) part && partsEnd parts

/-- In every group of brackets that is read, the strings end with their lines. -/
def EndsStrings (t : Text) : Prop := partsEnd (segments t) = true

instance (t : Text) : Decidable (EndsStrings t) := inferInstanceAs (Decidable (_ = _))

def brackets : List (Char × Char) := [('\x7b', '\x7d'), ('(', ')'), ('[', ']')]

theorem lineEnds_of_mem_brackets {b : Char × Char} (given : b ∈ brackets) :
    (b.1 ≠ '\r' ∧ b.1 ≠ '\n') ∧ b.2 ≠ '\r' ∧ b.2 ≠ '\n' := by
  revert b
  decide

section Groups

variable {opener closer : Char}

theorem closeFrom_apart {c : Char} (notOpener : c ≠ opener) (notCloser : c ≠ closer)
    (state : GroupState) (depth : Nat) (t : Text) :
    closeFrom opener closer state depth (c :: t) =
      (closeFrom opener closer (state.next c) depth t).map fun x => (c :: x.1, x.2) := by
  have same : depthAfter opener closer state depth c = depth := by
    simp [depthAfter, notOpener, notCloser]
  rw [closeFrom, if_neg (by simp [notCloser]), same]

theorem closeFrom_withReturns (given : (opener, closer) ∈ brackets) {state : GroupState}
    {depth : Nat} {t : Text} (ends : endsStrings opener closer state depth t = true) :
    closeFrom opener closer state depth (withReturns t) =
      (closeFrom opener closer state depth t).map (Prod.map withReturns withReturns) := by
  obtain ⟨opens, closes⟩ := lineEnds_of_mem_brackets given
  induction t generalizing state depth with
  | nil => rfl
  | cons c t ih =>
    rw [endsStrings, Bool.or_eq_true, Bool.and_eq_true, decide_eq_true_iff] at ends
    by_cases feed : c = '\n'
    · subst feed
      obtain ⟨unescaped, later⟩ := ends.resolve_left fun ends => closes.2 ends.2.1.symm
      have code : state.next '\n' = .code := GroupState.next_feed_iff.2 (by simpa using unescaped)
      have same : depthAfter opener closer state depth '\n' = depth := by
        simp [depthAfter, opens.2.symm, closes.2.symm]
      rw [code, same] at later
      rw [Text.withReturns_feed, closeFrom_apart opens.1.symm closes.1.symm,
        closeFrom_apart opens.2.symm closes.2.symm, closeFrom_apart opens.2.symm closes.2.symm,
        GroupState.next_return_feed, code, ih later]
      simp [Function.comp_def]
    · rw [Text.withReturns_cons feed, closeFrom, closeFrom]
      split
      · rfl
      · next goes =>
        rw [ih (ends.resolve_left goes).2]
        simp [Function.comp_def, Text.withReturns_cons feed]

theorem closeGroup_withReturns (given : (opener, closer) ∈ brackets) {t : Text}
    (ends : endsStrings opener closer .code 0 t = true) :
    closeGroup opener closer (withReturns t) =
      (closeGroup opener closer t).map (Prod.map withReturns withReturns) :=
  closeFrom_withReturns given ends

end Groups

theorem closeComment_withReturns (t : Text) :
    closeComment (withReturns t) =
      (closeComment t).map (Prod.map withReturns withReturns) := by
  induction t with
  | nil => rfl
  | cons c t ih =>
    by_cases feed : c = '\n'
    · subst feed
      simp [closeComment, ih, Function.comp_def]
    · have head : (withReturns t).head? = some '@' ↔ t.head? = some '@' := by
        cases t with
        | nil => simp
        | cons d t =>
          by_cases feed : d = '\n'
          · simp [feed]
          · simp [Text.withReturns_cons feed]
      rw [Text.withReturns_cons feed, closeComment, closeComment]
      simp only [head]
      split
      · next found =>
        obtain ⟨d, rfl⟩ := List.head?_eq_some_iff.1 found.2
        rfl
      · rw [ih]
        simp [Function.comp_def, Text.withReturns_cons feed]

theorem commentEnd_withReturns {body : Text} (free : ¬ commentEnd <:+: body) :
    ¬ commentEnd <:+: withReturns body := by
  rw [← closeComment_eq_none_iff] at free ⊢
  rw [closeComment_withReturns, free]
  rfl

theorem takeName_withReturns (t : Text) :
    takeName (withReturns t) = Prod.map withReturns withReturns (takeName t) := by
  have alike : Text.isIdentifierPart '\r' = Text.isIdentifierPart '\n' := by decide +kernel
  rw [takeName, Text.takeWhile_withReturns alike, Text.dropWhile_withReturns alike]
  rfl

theorem mem_brackets_of_call {c closer : Char} (call : callCloser? c = some closer) :
    (c, closer) ∈ brackets := by
  unfold callCloser? at call
  split at call
  · next opens =>
    cases call
    subst opens
    decide
  · split at call
    · next opens =>
      cases call
      subst opens
      decide
    · cases call

theorem takeLink_withReturns {t : Text} (ends : linkEnds t = true) :
    takeLink (withReturns t) = (takeLink t).map (Prod.map withReturns withReturns) := by
  cases t with
  | nil => rfl
  | cons c t =>
    by_cases feed : c = '\n'
    · subst feed
      rfl
    rw [Text.withReturns_cons feed]
    by_cases dot : c = '.'
    · subst dot
      cases t with
      | nil => rfl
      | cons d t =>
        have name := takeName_withReturns (d :: t)
        by_cases feed : d = '\n'
        · subst feed
          have returns : Text.isIdentifierStart '\r' = false := by decide +kernel
          have feeds : Text.isIdentifierStart '\n' = false := by decide +kernel
          simp [takeLink, returns, feeds]
        · rw [Text.withReturns_cons feed] at name ⊢
          simp only [takeLink, if_true, name]
          split
          · simp [Text.withReturns_cons]
          · rfl
    · unfold takeLink
      simp only [if_neg dot]
      cases call : callCloser? c with
      | none => rfl
      | some closer =>
        have given := mem_brackets_of_call call
        rw [linkEnds, call] at ends
        have other : closer ≠ '\n' := (lineEnds_of_mem_brackets given).2.2
        simp only [closeGroup_withReturns given ends]
        simp [Function.comp_def, Text.withReturns_cons feed, Text.withReturns_cons other]

theorem linkEnds_of_linksEnd {t : Text} (ends : linksEnd t = true) : linkEnds t = true := by
  rw [linksEnd, Bool.and_eq_true] at ends
  exact ends.1

theorem linksEnd_of_some {t link rest : Text} (taken : takeLink t = some (link, rest))
    (ends : linksEnd t = true) : linksEnd rest = true := by
  rw [linksEnd, Bool.and_eq_true] at ends
  have later := ends.2
  split at later
  · next none => cases taken.symm.trans none
  · next found =>
    cases taken.symm.trans found
    exact later

theorem takeLinks_withReturns {t : Text} (ends : linksEnd t = true) :
    takeLinks (withReturns t) = Prod.map withReturns withReturns (takeLinks t) := by
  fun_induction takeLinks t with
  | case1 t none =>
    have link := takeLink_withReturns (linkEnds_of_linksEnd ends)
    rw [none] at link
    rw [takeLinks_of_none link]
    rfl
  | case2 t link rest taken links after later ih =>
    have link := takeLink_withReturns (linkEnds_of_linksEnd ends)
    rw [taken] at link
    rw [takeLinks_of_some link, ih (linksEnd_of_some taken ends), later]
    simp

theorem takeImplicit_withReturns {t : Text} (ends : linksEnd (takeName t).2 = true) :
    takeImplicit (withReturns t) = Prod.map withReturns withReturns (takeImplicit t) := by
  simp only [takeImplicit, takeName_withReturns, Prod.map_snd, Prod.map_fst,
    takeLinks_withReturns ends]
  simp

end Template

namespace Segment

def withReturns : Segment → Segment
  | .plain text => .plain text.withReturns
  | .wordAt => .wordAt
  | .escapedAt => .escapedAt
  | .strayAt next => .strayAt (next.map fun c => if c = '\n' then '\r' else c)
  | .comment body closed => .comment body.withReturns closed
  | .block kind body closed => .block kind body.withReturns closed
  | .implicit expression => .implicit expression.withReturns

theorem source_withReturns (part : Segment) : part.withReturns.source = part.source.withReturns := by
  cases part with
  | comment body closed => cases closed <;> simp [withReturns, source, Text.withReturns_cons]
  | block kind body closed =>
    cases kind <;> cases closed <;>
      simp [withReturns, source, BlockKind.opener, BlockKind.closer, Text.withReturns_cons]
  | _ => simp [withReturns, source, Text.withReturns_cons]

theorem literal?_withReturns (part : Segment) :
    part.withReturns.literal? = part.literal?.map Text.withReturns := by
  cases part <;> rfl

end Segment

namespace Template

theorem mem_brackets_of_kind (kind : BlockKind) : (kind.opener, kind.closer) ∈ brackets := by
  cases kind <;> decide

theorem forall_head_withReturns {P : Char → Prop} (ends : P '\r') {t : Text}
    (first : ∀ c ∈ t.head?, P c) : ∀ c ∈ t.withReturns.head?, P c := by
  intro c inside
  rw [Text.head_withReturns] at inside
  obtain ⟨d, given, rfl⟩ := Option.map_eq_some_iff.1 inside
  split
  · exact ends
  · exact first d given

theorem Begins.withReturns {before : Option Char} {part : Segment} {rest : Text}
    (begins : Begins before part rest) (ends : partEnds rest part = true) :
    Begins before part.withReturns rest.withReturns := by
  cases begins with
  | plain some free longest =>
    refine .plain (mt Text.withReturns_eq_nil_iff.1 some)
      (mt (Text.mem_withReturns (by decide)).1 free) ?_
    intro c inside
    rw [Text.head_withReturns] at inside
    obtain ⟨d, given, rfl⟩ := Option.map_eq_some_iff.1 inside
    rw [longest d given]
    rfl
  | wordAt word => exact .wordAt word
  | escapedAt apart => exact .escapedAt apart
  | strayAt apart nothing =>
    have meaningless : ¬ Meaningful '\r' := by
      rintro (same | same | ⟨kind, same⟩ | starts)
      · cases same
      · cases same
      · cases kind <;> cases same
      · exact absurd starts (by decide +kernel)
    rw [Segment.withReturns, ← Text.head_withReturns]
    exact .strayAt apart (forall_head_withReturns meaningless nothing)
  | comment apart free => exact .comment apart (commentEnd_withReturns free)
  | openComment apart free => exact .openComment apart (commentEnd_withReturns free)
  | @block kind body rest apart closes =>
    have closed := closeGroup_withReturns (mem_brackets_of_kind kind) ends
    rw [closeGroup_eq_some_iff.2 ⟨closes, rfl⟩] at closed
    exact .block apart (closeGroup_eq_some_iff.1 closed).1
  | @openBlock kind body apart never =>
    have unclosed := closeGroup_withReturns (mem_brackets_of_kind kind) ends
    rw [closeGroup_eq_none_iff.2 never] at unclosed
    exact .openBlock apart (closeGroup_eq_none_iff.1 unclosed)
  | @implicit expression _ apart named longest =>
    have taken := takeImplicit_withReturns ends
    rw [longest, Text.withReturns_append] at taken
    refine .implicit apart ?_ taken
    obtain ⟨c, expression, rfl⟩ : ∃ c e, expression = c :: e := by
      cases expression with
      | nil => cases named
      | cons c expression => exact ⟨c, expression, rfl⟩
    have starts : Text.isIdentifierStart c = true := named
    have other : c ≠ '\n' := by
      rintro rfl
      exact absurd starts (by decide +kernel)
    rw [Text.withReturns_cons other]
    exact named

theorem Divides.withReturns {before : Option Char} {t : Text} {parts : List Segment}
    (division : Divides before t parts) (ends : partsEnd parts = true) :
    Divides before t.withReturns (parts.map Segment.withReturns) := by
  induction division with
  | nil => exact .nil
  | @cons before part rest parts first others ih =>
    rw [partsEnd, others.sources, Bool.and_eq_true] at ends
    have later := ih ends.2
    rw [← Text.getLast_withReturns, ← Segment.source_withReturns] at later
    rw [Text.withReturns_append, ← Segment.source_withReturns]
    exact .cons (first.withReturns ends.1) later

theorem segments_withReturns {t : Text} (ends : EndsStrings t) :
    segments t.withReturns = (segments t).map Segment.withReturns :=
  (divides_iff.1 ((divides_iff.2 rfl : Divides none t (segments t)).withReturns ends)).symm

end Template

def Statement.withReturns (s : Statement) : Statement := { s with text := s.text.withReturns }

def Statement.withoutReturns (s : Statement) : Statement :=
  { s with text := s.text.withoutReturns }

namespace Template

theorem literalOf_withReturns (pending : Pending) :
    literalOf (pending.map (Prod.map id withReturns)) =
      (literalOf pending).map Statement.withReturns := by
  cases pending <;> rfl

theorem addLiteral_withReturns (pending : Pending) (position : Position) (text : Text) :
    addLiteral (pending.map (Prod.map id withReturns)) position text.withReturns =
      (addLiteral pending position text).map (Prod.map id withReturns) := by
  cases pending with
  | none =>
    cases text with
    | nil => rfl
    | cons c text =>
      have full : (withReturns (c :: text)).isEmpty = false := by
        rw [List.isEmpty_eq_false_iff]
        simp
      simp [addLiteral, full]
  | some => simp [addLiteral]

theorem statementOf_withReturns (position : Position) (part : Segment) :
    statementOf position part.withReturns =
      (statementOf position part).map Statement.withReturns := by
  cases part with
  | block kind body closed =>
    simp only [Segment.withReturns, statementOf, Text.isBlank_withReturns]
    split
    · rfl
    · rw [Text.trim_withReturns]
      rfl
  | _ => rfl

theorem statementsFrom_withReturns (position : Position) (pending : Pending)
    (parts : List Segment) :
    statementsFrom position (pending.map (Prod.map id withReturns))
        (parts.map Segment.withReturns) =
      (statementsFrom position pending parts).map Statement.withReturns := by
  induction parts generalizing position pending with
  | nil => exact literalOf_withReturns pending
  | cons part parts ih =>
    rw [List.map_cons, statementsFrom, statementsFrom, Segment.literal?_withReturns,
      Segment.source_withReturns, Position.after_withReturns]
    cases literal : part.literal? with
    | some text =>
      simp only [Option.map_some, addLiteral_withReturns]
      exact ih _ _
    | none =>
      have later := ih (position.after part.source) none
      simp only [Option.map_none] at later ⊢
      rw [later, literalOf_withReturns, statementOf_withReturns, List.map_append, List.map_append]

theorem statements_withReturns {t : Text} (ends : EndsStrings t) :
    statements t.withReturns = (statements t).map Statement.withReturns := by
  rw [statements, segments_withReturns ends]
  exact statementsFrom_withReturns .start none (segments t)

/-- What is reported, apart from the character that a message may show. -/
def placeOf (d : Diagnostic) : Int × Int × Int := (d.code, d.line, d.column)

theorem diagnosticOf_withReturns (position : Position) (part : Segment) :
    (diagnosticOf position part.withReturns).map placeOf =
      (diagnosticOf position part).map placeOf := by
  cases part with
  | comment body closed => cases closed <;> rfl
  | block kind body closed => cases kind <;> cases closed <;> rfl
  | _ => rfl

theorem diagnostics_withReturns {t : Text} (ends : EndsStrings t) :
    (diagnostics t.withReturns).map placeOf = (diagnostics t).map placeOf := by
  rw [diagnostics, diagnostics, segments_withReturns ends]
  generalize segments t = parts
  generalize Position.start = position
  induction parts generalizing position with
  | nil => rfl
  | cons part parts ih =>
    rw [List.map_cons, diagnosticsFrom, diagnosticsFrom, Segment.source_withReturns,
      Position.after_withReturns, List.map_append, List.map_append, diagnosticOf_withReturns, ih]

section Characters

variable {P : Char → Prop}

theorem forall_literal {part : Segment} (each : ∀ c ∈ part.source, P c) {text : Text}
    (literal : part.literal? = some text) : ∀ c ∈ text, P c := by
  cases part with
  | plain | wordAt | strayAt =>
    cases literal
    exact each
  | escapedAt =>
    cases literal
    exact List.forall_mem_singleton.2 (each '@' List.mem_cons_self)
  | comment =>
    cases literal
    exact List.forall_mem_nil P
  | _ => cases literal

theorem forall_trim {t : Text} (each : ∀ c ∈ t, P c) : ∀ c ∈ t.trim, P c := by
  obtain ⟨front, back, split, -⟩ := t.exists_trim
  intro c inside
  refine each c ?_
  rw [split]
  exact List.mem_append_left back (List.mem_append_right front inside)

theorem forall_statementOf {part : Segment} (each : ∀ c ∈ part.source, P c) (position : Position) :
    ∀ s ∈ statementOf position part, ∀ c ∈ s.text, P c := by
  cases part with
  | block kind body closed =>
    have body : ∀ c ∈ body, P c := fun c inside => each c (by simp [Segment.source, inside])
    unfold statementOf
    dsimp only
    split
    · exact List.forall_mem_nil _
    · exact List.forall_mem_singleton.2 (forall_trim body)
  | implicit expression =>
    exact List.forall_mem_singleton.2 fun c inside => each c (List.mem_cons_of_mem '@' inside)
  | _ => exact List.forall_mem_nil _

theorem forall_statementsFrom (position : Position) {pending : Pending} {parts : List Segment}
    (before : ∀ x ∈ pending, ∀ c ∈ x.2, P c) (each : ∀ part ∈ parts, ∀ c ∈ part.source, P c) :
    ∀ s ∈ statementsFrom position pending parts, ∀ c ∈ s.text, P c := by
  have literal {pending : Pending} (before : ∀ x ∈ pending, ∀ c ∈ x.2, P c) :
      ∀ s ∈ literalOf pending, ∀ c ∈ s.text, P c := by
    cases pending with
    | none => exact List.forall_mem_nil _
    | some x => exact List.forall_mem_singleton.2 (before x rfl)
  induction parts generalizing position pending with
  | nil => exact literal before
  | cons part parts ih =>
    obtain ⟨first, others⟩ := List.forall_mem_cons.1 each
    rw [statementsFrom]
    split
    · next text found =>
      refine ih _ ?_ others
      have text := forall_literal first found
      rintro x added
      cases pending with
      | none =>
        unfold addLiteral at added
        dsimp only at added
        split at added
        · cases added
        · cases added
          exact text
      | some y =>
        cases added
        exact List.forall_mem_append.2 ⟨before y rfl, text⟩
    · exact List.forall_mem_append.2 ⟨literal before, List.forall_mem_append.2
        ⟨forall_statementOf first position, ih _ (fun _ none => by cases none) others⟩⟩

theorem forall_statements {t : Text} (each : ∀ c ∈ t, P c) :
    ∀ s ∈ statements t, ∀ c ∈ s.text, P c := by
  refine forall_statementsFrom .start (fun _ none => by cases none)
    fun part inside c here => each c ?_
  rw [← segments_append t]
  exact List.mem_flatMap.2 ⟨part, inside, here⟩

end Characters

/-- A template has the same statements and problems, at the same places, whether its lines end in a
line feed or in a carriage return and a line feed, if no string goes on behind its line. A string
ends with its line in any case where lines end in both characters, and where they end in a line feed
only if that is not escaped. -/
theorem parse_withReturns {t : Text} (returnless : '\r' ∉ t) (ends : EndsStrings t) :
    (statements t.withReturns).map Statement.withoutReturns = statements t ∧
      (diagnostics t.withReturns).map placeOf = (diagnostics t).map placeOf ∧
      ∀ state : GroupState, (state.next '\r').next '\n' = .code ∧
        (state.next '\n' = .code ↔ state.isEscaped = false) := by
  refine ⟨?_, diagnostics_withReturns ends, fun state =>
    ⟨state.next_return_feed, GroupState.next_feed_iff⟩⟩
  have plain := forall_statements (P := (· ≠ '\r')) fun c inside => by
    rintro rfl
    exact returnless inside
  rw [statements_withReturns ends, List.map_map]
  refine (List.map_congr_left fun s inside => ?_).trans (List.map_id _)
  have same := Text.withoutReturns_withReturns fun here => plain s inside '\r' here rfl
  simp only [Function.comp, Statement.withReturns, Statement.withoutReturns, same, id]

def unclosedString : Text := "it's\\\n@\x7b \"b\n\x7d\n@f(1,\n2)".toList

theorem parse_withReturns_unclosedString :
    '\r' ∉ unclosedString ∧ EndsStrings unclosedString ∧
    (statements unclosedString.withReturns).map Statement.withoutReturns =
      statements unclosedString ∧
    (diagnostics unclosedString.withReturns).map placeOf =
      (diagnostics unclosedString).map placeOf := by
  have returnless : '\r' ∉ unclosedString := by decide
  have ends : EndsStrings unclosedString := by decide +kernel
  obtain ⟨statements, diagnostics, -⟩ := parse_withReturns returnless ends
  exact ⟨returnless, ends, statements, diagnostics⟩

def continuedString : Text := "@\x7b 'x\\\n\x7d".toList

/-- The string goes on behind the line feed and has the closer in it, and ends with its line where a
carriage return stands behind the backslash. -/
theorem continuedString_differs :
    '\r' ∉ continuedString ∧
    statements continuedString = [⟨.code, "'x\\\n\x7d".toList, 1, 3⟩] ∧
    statements continuedString.withReturns = [⟨.code, "'x\\".toList, 1, 3⟩] ∧
    (statements continuedString.withReturns).map Statement.withoutReturns ≠
      statements continuedString ∧
    (diagnostics continuedString).map placeOf = [(101, 1, 1)] ∧
    (diagnostics continuedString.withReturns).map placeOf = [] := by
  decide +kernel

end Template

end TemplateCompiler
