import TemplateCompiler.Proofs.Language.Layout

/-! Nothing of what a template puts out is lost in the code: imports and statements can be read
back from it, and with line pragmas the places in the template too. -/

namespace TemplateCompiler

namespace Language

def frame (l : Language) (u : CompileUnit) (attributes : List Text) : l.reading.Frame :=
  match l with
  | .csharp => CSharp.frame u attributes
  | .visualBasic => VisualBasic.frame u attributes

variable (l : Language) {u : CompileUnit} {attributes : List Text}

theorem layout_eq : l.layout u attributes =
    (l.frame u attributes).lines u.imports.names (l.spelling.body u) := by
  cases l with
  | csharp => exact CSharp.layout_eq u attributes
  | visualBasic => exact VisualBasic.layout_eq u attributes

theorem frame_unbroken (single : u.SingleLine) (forms : ∀ form ∈ attributes, form.Unbroken) :
    (l.frame u attributes).Unbroken := by
  cases l with
  | csharp => exact CSharp.frame_unbroken single forms
  | visualBasic => exact VisualBasic.frame_unbroken single forms

theorem attributeForm_unbroken (name : Text) (arguments : List Text) (named : name.Unbroken)
    (unbroken : ∀ t ∈ arguments, Text.Unbroken t) :
    (l.spelling.attributeForm name arguments).Unbroken := by
  cases l with
  | csharp => exact CSharp.attributeForm_unbroken named unbroken
  | visualBasic => exact VisualBasic.attributeForm_unbroken named unbroken

theorem attributes_unbroken (single : u.SingleLine)
    (written : u.type.attributes.mapM l.spelling.attributeText = .ok attributes) :
    ∀ form ∈ attributes, form.Unbroken := by
  intro form inside
  obtain ⟨a, given, here⟩ := mem_of_mapM_ok written inside
  obtain ⟨named, arguments⟩ := single.attributes a given
  exact Spelling.unbroken_attribute l.fits l.attributeForm_unbroken named arguments here

theorem importMarks_unbroken :
    l.reading.importStart ≠ [] ∧ l.reading.importStart.Unbroken ∧ l.reading.importEnd.Unbroken := by
  cases l <;> decide

/-- What the code of a unit is read as: its imports, its statements, and where they come from. -/
def listingOf (u : CompileUnit) : Listing where
  imports := u.imports.names
  statements := u.type.entryMethod.statements.map fun t => (t.kind, t.text)
  lines := if u.type.entryMethod.linePragmas then
    u.type.entryMethod.statements.map Statement.line else []

theorem listing_layout (single : u.SingleLine)
    (outputs : ∀ t ∈ u.type.entryMethod.statements, t.IsOutput)
    (forms : ∀ form ∈ attributes, form.Unbroken) :
    l.readBack u.type.entryMethod.linePragmas (Text.unlines (l.layout u attributes)) =
      some (listingOf u) := by
  have method : ∀ line ∈ l.spelling.body u, Spelling.IsMethodLine line :=
    Spelling.isMethodLine_body l.fits outputs single.sourceFile
  obtain ⟨start, startUnbroken, endUnbroken⟩ := l.importMarks_unbroken
  have unbroken := Reading.lines_unbroken (l.frame u attributes) (l.frame_unbroken single forms)
    startUnbroken endUnbroken single.imports fun line inside => (method line inside).unbroken
  have imports := Reading.imports_lines (l.frame u attributes) u.imports.names start
    fun line inside => (method line inside).full
  have body := Reading.methodLines_lines (l.frame u attributes) u.imports.names
    fun line inside => (method line inside).ofMethod
  rw [readBack, Reading.listing, layout_eq, Text.physicalLines_unlines unbroken, imports, body]
  unfold listingOf Spelling.body
  cases u.type.entryMethod.linePragmas with
  | false =>
    rw [Spelling.body_plain outputs, Spelling.mapM_statement l.fits outputs]
    rfl
  | true =>
    rw [Spelling.filter_body l.fits outputs, Spelling.filterMap_body l.fits outputs,
      Spelling.mapM_statement l.fits outputs]
    rfl

/-- A unit whose parts have no line feeds and whose statements are literals and one-line
expressions is read back from its code, line by line: the imports, and from every line of the entry
method that is no pragma a statement, in their order. There is code of every unit that has texts
where texts have to be written. -/
theorem readBack_render (single : u.SingleLine)
    (outputs : ∀ t ∈ u.type.entryMethod.statements, t.IsOutput) :
    ((∃ code, l.render u = .ok code) ↔ u.Renderable) ∧
      ∀ code, l.render u = .ok code →
        l.readBack u.type.entryMethod.linePragmas code = some (listingOf u) := by
  refine ⟨render_ok_iff, fun code rendered => ?_⟩
  obtain ⟨lines, laid, rfl⟩ := map_eq_ok_iff.1 rendered
  obtain ⟨attributes, written, -, rfl⟩ := renderLines_eq_ok_iff.1 laid
  exact l.listing_layout single outputs (l.attributes_unbroken single written)

/-- A unit with lines that look like others: a literal like a pragma, a constructor like the method,
and one of the imports like an attribute. The name of the file has a quote and a comma in it. -/
def lookalikes : CompileUnit where
  sourceFile := "a\",1".toList
  namespaceName := "N".toList
  imports := ⟨["System".toList, "[X]".toList, []]⟩
  type :=
    { name := "T".toList
      baseType := .text "B".toList
      visibility := .exported
      isPartial := true
      attributes := [⟨"using A".toList, [.text "x\"".toList]⟩]
      constructors := [⟨["int n".toList], ["WriteLiteral(\"no\");".toList, []]⟩]
      entryMethod := ⟨"Execute".toList,
        [⟨.literal, "\n#line 7 \"\\t\"\t".toList, 2, 1⟩, ⟨.expression, "Literal(\"".toList, -3, 4⟩,
          ⟨.literal, [], 9, 1⟩],
        true⟩ }

theorem lookalikes_singleLine : lookalikes.SingleLine where
  sourceFile := by decide
  namespaceName := by decide
  imports := by decide
  typeName := by decide
  visibility := by decide
  baseType := by decide
  attributes := by
    refine List.forall_mem_singleton.2 ⟨by decide, List.forall_mem_singleton.2 ?_⟩
    exact Value.singleLine_text (by decide)
  constructors := by decide
  entryMethod := by decide

theorem readBack_render_lookalikes :
    lookalikes.SingleLine ∧ (∀ t ∈ lookalikes.type.entryMethod.statements, t.IsOutput) ∧
      ∃ code, Language.visualBasic.render lookalikes = .ok code ∧
        Language.visualBasic.readBack true code =
          some ⟨["System".toList, "[X]".toList, []],
            [(.literal, "\n#line 7 \"\\t\"\t".toList), (.expression, "Literal(\"".toList),
              (.literal, [])],
            [2, -3, 9]⟩ := by
  have outputs : ∀ t ∈ lookalikes.type.entryMethod.statements, t.IsOutput := by
    refine List.forall_mem_cons.2 ⟨.inl rfl, List.forall_mem_cons.2 ⟨.inr ⟨rfl, by decide⟩,
      List.forall_mem_singleton.2 (.inl rfl)⟩⟩
  have renderable : lookalikes.Renderable := by
    refine ⟨List.forall_mem_singleton.2 (List.forall_mem_singleton.2 ?_), fun _ => rfl⟩
    exact Value.printable_text _
  obtain ⟨exactly, reads⟩ := readBack_render .visualBasic lookalikes_singleLine outputs
  obtain ⟨code, rendered⟩ := exactly.2 renderable
  exact ⟨lookalikes_singleLine, outputs, code, rendered, reads code rendered⟩

end Language

end TemplateCompiler
