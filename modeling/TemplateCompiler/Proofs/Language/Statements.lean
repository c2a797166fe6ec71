import TemplateCompiler.Proofs.Language.Reading

/-! The lines of the entry method: one for each statement, and with line pragmas around it. -/

namespace TemplateCompiler

/-- A literal, or an expression on one line. -/
def Statement.IsOutput (s : Statement) : Prop :=
  s.kind = .literal ∨ s.kind = .expression ∧ s.text.Unbroken

/-- A language is read the way it is spelled. -/
structure Reading.Fits (r : Reading) (s : Spelling) : Prop where
  unescape : ∀ t : Text, r.unescape (t.flatMap s.escape) = t
  escape : ∀ c, (s.escape c).Unbroken
  callEnd : r.callEnd = s.callEnd
  unbrokenEnd : s.callEnd.Unbroken
  isPragma_open : ∀ source line, isPragma (s.pragmaOpen source line) = true
  unbroken_open : ∀ {source : Text} line, source.Unbroken → (s.pragmaOpen source line).Unbroken
  pragmaLine_open : ∀ source line, r.pragmaLine? (s.pragmaOpen source line) = some line
  isPragma_close : ∀ line ∈ s.pragmaClose, isPragma line = true
  unbroken_close : ∀ line ∈ s.pragmaClose, line.Unbroken
  pragmaLine_close : ∀ line ∈ s.pragmaClose, r.pragmaLine? line = none
  pragmaLine_indented : ∀ call, r.pragmaLine? (Spelling.bodyIndent ++ call) = none

theorem CSharp.unbroken_escape (c : Char) : (escape c).Unbroken := by
  unfold escape
  by_cases feed : c = '\n'
  · subst feed
    decide
  · repeat' split
    all_goals first | decide | exact Text.unbroken_cons_iff.2 ⟨feed, Text.unbroken_nil⟩

theorem VisualBasic.unbroken_escape (c : Char) : (escape c).Unbroken := by
  unfold escape
  split
  · decide
  · split
    · rw [joinedCharacter_eq]
      have opening : joinOpening.Unbroken := by decide
      have numeral : (Text.ofNat c.toNat).Unbroken := Text.unbroken_ofInt (.ofNat c.toNat)
      have closing : joinClosing.Unbroken := by decide
      exact Text.unbroken_cons_iff.2 ⟨by decide, opening.append (numeral.append closing)⟩
    · next plain =>
      exact Text.unbroken_cons_iff.2 ⟨fun feed => plain (.inl feed), Text.unbroken_nil⟩

theorem CSharp.pragmaLine?_pragmaOpen (source : Text) (line : Int) :
    pragmaLine? (pragmaOpen source line) = some line := by
  have written : pragmaOpen source line =
      "#line ".toList ++ (Text.ofInt line ++ (" \"".toList ++ (source ++ ['"']))) := by
    unfold pragmaOpen
    rw [List.append_assoc, List.append_assoc, List.append_assoc]
  have numeral : (Text.ofInt line ++ (" \"".toList ++ (source ++ ['"']))).takeWhile
      (fun c => c != ' ') = Text.ofInt line := by
    rw [List.takeWhile_append_of_pos (Text.ofInt_apart line (by decide) (by decide))]
    exact List.append_nil _
  rw [pragmaLine?, written, Text.afterStart_append, Option.bind_some, numeral,
    Text.integer?_ofInt]

theorem VisualBasic.pragmaLine?_pragmaOpen (source : Text) (line : Int) :
    pragmaLine? (pragmaOpen source line) = some line := by
  have opening : "#ExternalSource(\"".toList = "#ExternalSource(".toList ++ ['"'] := by
    decide +kernel
  have comma : "\",".toList = ['"', ','] := by decide
  have written : pragmaOpen source line =
      "#ExternalSource(".toList ++ (('"' :: source ++ ['"', ',']) ++ Text.ofInt line ++ [')']) := by
    unfold pragmaOpen
    rw [opening, comma]
    simp only [List.append_assoc, List.cons_append, List.nil_append]
  have numeral : ((('"' :: source ++ ['"', ',']) ++ Text.ofInt line).reverse.takeWhile
      fun c => c != ',').reverse = Text.ofInt line := by
    have digits : ∀ c ∈ (Text.ofInt line).reverse, (c != ',') = true := fun c inside =>
      Text.ofInt_apart line (by decide) (by decide) c (List.mem_reverse.1 inside)
    rw [List.reverse_append, List.takeWhile_append_of_pos digits]
    simp
  rw [pragmaLine?, written, Text.between?_append, Option.bind_some, numeral, Text.integer?_ofInt]

theorem CSharp.fits : Language.csharp.reading.Fits spelling where
  unescape := unescape_flatMap
  escape := unbroken_escape
  callEnd := rfl
  unbrokenEnd := by decide
  isPragma_open _ _ := rfl
  unbroken_open line unbroken :=
    (((Text.Unbroken.append (by decide) (Text.unbroken_ofInt line)).append (by decide)).append
      unbroken).append (by decide)
  pragmaLine_open := pragmaLine?_pragmaOpen
  isPragma_close := by decide
  unbroken_close := by decide
  pragmaLine_close := by decide
  pragmaLine_indented _ := rfl

theorem VisualBasic.fits : Language.visualBasic.reading.Fits spelling where
  unescape := unescape_flatMap
  escape := unbroken_escape
  callEnd := rfl
  unbrokenEnd := by decide
  isPragma_open _ _ := rfl
  unbroken_open line unbroken :=
    (((Text.Unbroken.append (by decide) unbroken).append (by decide)).append
      (Text.unbroken_ofInt line)).append (by decide)
  pragmaLine_open := pragmaLine?_pragmaOpen
  isPragma_close := by decide
  unbroken_close := by decide
  pragmaLine_close := by decide
  pragmaLine_indented _ := rfl

theorem Language.fits : (l : Language) → l.reading.Fits l.spelling
  | .csharp => CSharp.fits
  | .visualBasic => VisualBasic.fits

namespace Spelling

def call (s : Spelling) (statement : Statement) : Text :=
  match statement.kind with
  | .literal => "WriteLiteral(".toList ++ s.string statement.text ++ ')' :: s.callEnd
  | _ => "Write(".toList ++ statement.text ++ ')' :: s.callEnd

variable {s : Spelling} {r : Reading} {statement : Statement}

theorem bodyLine_of_head {c : Char} {line : Text} (visible : Text.isBlankChar c = false)
    (starts : line.head? = some c) : bodyLine line = bodyIndent ++ line := by
  cases line with
  | nil => cases starts
  | cons d line =>
    cases starts
    have unblank : Text.isBlank (c :: line) = false := by
      rw [Text.isBlank, List.all_cons, visible, Bool.false_and]
    rw [bodyLine, unblank]
    rfl

theorem statementBody_output (output : statement.IsOutput) (source : Text) (pragmas : Bool) :
    s.statementBody source pragmas statement =
      if pragmas then
        s.pragmaOpen source statement.line :: (bodyIndent ++ s.call statement) :: s.pragmaClose
      else [bodyIndent ++ s.call statement] := by
  have visible : Text.isBlankChar 'W' = false := by decide
  have line : (s.statementLines statement).map bodyLine = [bodyIndent ++ s.call statement] := by
    rcases output with literal | ⟨expression, -⟩
    · rw [statementLines, call, literal]
      exact congrArg (fun line => [line]) (bodyLine_of_head visible rfl)
    · rw [statementLines, call, expression]
      exact congrArg (fun line => [line]) (bodyLine_of_head visible rfl)
  rw [statementBody, line]
  rfl

theorem unbroken_string (fits : r.Fits s) (t : Text) : (s.string t).Unbroken :=
  (Text.unbroken_cons_iff.2 ⟨by decide, Text.unbroken_flatMap fun c _ => fits.escape c⟩).append
    (by decide)

theorem unbroken_call (fits : r.Fits s) (output : statement.IsOutput) :
    (s.call statement).Unbroken := by
  have ending : Text.Unbroken (')' :: s.callEnd) :=
    Text.unbroken_cons_iff.2 ⟨by decide, fits.unbrokenEnd⟩
  rcases output with literal | ⟨expression, unbroken⟩
  · rw [call, literal]
    exact (Text.Unbroken.append (by decide) (unbroken_string fits _)).append ending
  · rw [call, expression]
    exact (Text.Unbroken.append (by decide) unbroken).append ending

theorem statement_call (fits : r.Fits s) (output : statement.IsOutput) :
    r.statement (bodyIndent ++ s.call statement) = some (statement.kind, statement.text) := by
  rw [Reading.statement, Text.afterStart_append, Option.bind_some, fits.callEnd]
  rcases output with literal | ⟨expression, -⟩
  · have opening : "WriteLiteral(\"".toList = "WriteLiteral(".toList ++ ['"'] := by
      decide +kernel
    have written : s.call statement = "WriteLiteral(\"".toList ++
        (statement.text.flatMap s.escape ++ '"' :: ')' :: s.callEnd) := by
      rw [call, literal, opening]
      simp only [string, List.append_assoc, List.cons_append, List.nil_append]
    rw [written, Text.between?_append, literal]
    exact congrArg (fun t => some (StatementKind.literal, t)) (fits.unescape statement.text)
  · have written : s.call statement =
        "Write(".toList ++ (statement.text ++ ')' :: s.callEnd) := by
      simp only [call, expression, List.append_assoc]
    have other : Text.between? "WriteLiteral(\"".toList ('"' :: ')' :: s.callEnd)
        (s.call statement) = none := by
      rw [written]
      rfl
    rw [other, written, Text.between?_append, expression]
    rfl

section Body

variable {statements : List Statement}

/-- A line of the entry method can be told from the line before the method, does not end early and
is not taken for the one that ends the imports. -/
structure IsMethodLine (line : Text) : Prop where
  ofMethod : Reading.isOfMethod line = true
  unbroken : line.Unbroken
  full : line ≠ []

theorem isMethodLine_indented {call : Text} (unbroken : call.Unbroken) :
    IsMethodLine (bodyIndent ++ call) where
  ofMethod := by
    have indented : bodyIndent.isPrefixOf (bodyIndent ++ call) = true :=
      List.isPrefixOf_iff_prefix.2 (List.prefix_append _ _)
    rw [Reading.isOfMethod, indented, Bool.true_or]
  unbroken := Text.Unbroken.append (by decide) unbroken
  full := nofun

theorem isMethodLine_pragma {line : Text} (pragma : Reading.isPragma line = true)
    (unbroken : line.Unbroken) : IsMethodLine line where
  ofMethod := by rw [Reading.isOfMethod, pragma, Bool.or_true]
  unbroken := unbroken
  full := by
    rintro rfl
    cases pragma

variable {source : Text} {pragmas : Bool}

theorem isMethodLine_body (fits : r.Fits s) (outputs : ∀ t ∈ statements, t.IsOutput)
    (named : source.Unbroken) :
    ∀ line ∈ statements.flatMap (s.statementBody source pragmas), IsMethodLine line := by
  intro line inside
  obtain ⟨t, given, here⟩ := List.mem_flatMap.1 inside
  have output := outputs t given
  have written := isMethodLine_indented (unbroken_call fits output)
  rw [statementBody_output output] at here
  cases pragmas with
  | false =>
    cases List.mem_singleton.1 here
    exact written
  | true =>
    simp only [if_true, List.mem_cons] at here
    rcases here with rfl | rfl | close
    · exact isMethodLine_pragma (fits.isPragma_open _ _) (fits.unbroken_open _ named)
    · exact written
    · exact isMethodLine_pragma (fits.isPragma_close _ close) (fits.unbroken_close _ close)

theorem filter_body (fits : r.Fits s) (outputs : ∀ t ∈ statements, t.IsOutput) :
    (statements.flatMap (s.statementBody source true)).filter (fun line => !Reading.isPragma line) =
      statements.map fun t => bodyIndent ++ s.call t := by
  induction statements with
  | nil => rfl
  | cons t statements ih =>
    obtain ⟨output, others⟩ := List.forall_mem_cons.1 outputs
    have closed : s.pragmaClose.filter (fun line => !Reading.isPragma line) = [] :=
      List.filter_eq_nil_iff.2 fun line inside => by simp [fits.isPragma_close line inside]
    have call : Reading.isPragma (bodyIndent ++ s.call t) = false := rfl
    rw [List.flatMap_cons, List.filter_append, ih others, statementBody_output output, if_pos rfl]
    -- Of the lines of a statement only the call is no pragma.
    simp [fits.isPragma_open, closed, call]

theorem filterMap_body (fits : r.Fits s) (outputs : ∀ t ∈ statements, t.IsOutput) :
    (statements.flatMap (s.statementBody source true)).filterMap r.pragmaLine? =
      statements.map Statement.line := by
  induction statements with
  | nil => rfl
  | cons t statements ih =>
    obtain ⟨output, others⟩ := List.forall_mem_cons.1 outputs
    have closed : s.pragmaClose.filterMap r.pragmaLine? = [] :=
      List.filterMap_eq_nil_iff.2 fits.pragmaLine_close
    rw [List.flatMap_cons, List.filterMap_append, ih others, statementBody_output output,
      if_pos rfl]
    simp [fits.pragmaLine_open, fits.pragmaLine_indented, closed]

theorem body_plain (outputs : ∀ t ∈ statements, t.IsOutput) :
    statements.flatMap (s.statementBody source false) =
      statements.map fun t => bodyIndent ++ s.call t := by
  induction statements with
  | nil => rfl
  | cons t statements ih =>
    obtain ⟨output, others⟩ := List.forall_mem_cons.1 outputs
    rw [List.flatMap_cons, ih others, statementBody_output output]
    rfl

theorem mapM_statement (fits : r.Fits s) (outputs : ∀ t ∈ statements, t.IsOutput) :
    (statements.map fun t => bodyIndent ++ s.call t).mapM r.statement =
      some (statements.map fun t => (t.kind, t.text)) := by
  induction statements with
  | nil => rfl
  | cons t statements ih =>
    obtain ⟨output, others⟩ := List.forall_mem_cons.1 outputs
    rw [List.map_cons, List.mapM_cons, statement_call fits output, ih others]
    rfl

end Body

end Spelling

end TemplateCompiler
