import TemplateCompiler.Proofs.Language.Rendering
import TemplateCompiler.Proofs.Language.Statements

/-! The layouts of the languages, as far as a reader has to know them: where the imports and the
entry method stand, and which lines are around them. -/

namespace TemplateCompiler

def Value.SingleLine (v : Value) : Prop :=
  ∀ items, v.items? = some items → ∀ t, .text t ∈ items → t.Unbroken

theorem Value.singleLine_text {t : Text} (unbroken : t.Unbroken) : (Value.text t).SingleLine := by
  rintro _ ⟨rfl⟩ u inside broken
  obtain ⟨c, given, same⟩ := List.mem_map.1 inside
  cases same
  cases List.mem_singleton.1 broken
  exact unbroken given

/-- No part of the unit has a line feed in it, apart from its statements. -/
structure CompileUnit.SingleLine (u : CompileUnit) : Prop where
  sourceFile : u.sourceFile.Unbroken
  namespaceName : u.namespaceName.Unbroken
  imports : ∀ name ∈ u.imports.names, name.Unbroken
  typeName : u.type.name.Unbroken
  visibility : u.type.visibility.name.Unbroken
  baseType : u.type.baseType.display.Unbroken
  attributes : ∀ a ∈ u.type.attributes, a.name.Unbroken ∧ ∀ v ∈ a.arguments, v.SingleLine
  constructors : ∀ c ∈ u.type.constructors,
    (∀ parameter ∈ c.parameters, parameter.Unbroken) ∧ ∀ line ∈ c.body, line.Unbroken
  entryMethod : u.type.entryMethod.name.Unbroken

section Attributes

variable {s : Spelling} {r : Reading}

theorem Spelling.mem_of_itemTexts {index : Nat} {items : List Value} {texts : List Text}
    (read : itemTexts index items = .ok texts) : ∀ t ∈ texts, .text t ∈ items := by
  induction items generalizing index texts with
  | nil =>
    cases read
    simp
  | cons v items ih =>
    cases v with
    | text t =>
      obtain ⟨more, others, rfl⟩ := map_eq_ok_iff.1 read
      refine List.forall_mem_cons.2 ⟨List.mem_cons_self, fun t inside => ?_⟩
      exact List.mem_cons_of_mem _ (ih others t inside)
    | _ => simp [itemTexts] at read

theorem Spelling.unbroken_item (fits : r.Fits s) {t : Text} (unbroken : t.Unbroken) :
    (s.item t).Unbroken := by
  unfold item
  split
  · exact fits.escape _
  · exact unbroken

theorem Spelling.unbroken_argument (fits : r.Fits s) {v : Value} (single : v.SingleLine)
    {form : Text} (written : s.argument v = .ok form) : form.Unbroken := by
  unfold argument at written
  split at written
  · cases written
    exact unbroken_string fits _
  · split at written
    · cases written
    · next items found =>
      split at written
      · cases written
      · obtain ⟨texts, read, rfl⟩ := map_eq_ok_iff.1 written
        refine (Text.unbroken_cons_iff.2 ⟨by decide, ?_⟩).append (by decide)
        exact Text.unbroken_flatMap fun t inside =>
          unbroken_item fits (single items found t (mem_of_itemTexts read t inside))

theorem Spelling.unbroken_attribute (fits : r.Fits s) {a : CodeAttribute}
    (form : ∀ name arguments, name.Unbroken → (∀ t ∈ arguments, Text.Unbroken t) →
      (s.attributeForm name arguments).Unbroken)
    (name : a.name.Unbroken) (single : ∀ v ∈ a.arguments, v.SingleLine) {line : Text}
    (written : s.attributeText a = .ok line) : line.Unbroken := by
  obtain ⟨texts, arguments, rfl⟩ := map_eq_ok_iff.1 written
  refine form _ _ name fun t inside => ?_
  obtain ⟨v, given, here⟩ := mem_of_mapM_ok arguments inside
  exact unbroken_argument fits (single v given) here

end Attributes

/-- The lines around the imports and the entry method, for a reader that finds both: the opening
has as many lines as the reader passes, no line behind the imports is empty, and the last line
before the method cannot be one of its lines. -/
structure Reading.Frame (r : Reading) where
  opening : List Text
  middle : List Text
  last : Text
  closing : List Text
  opening_length : opening.length = r.opening
  closing_length : closing.length = 3
  middle_full : ∀ line ∈ middle, line ≠ []
  last_full : last ≠ []
  closing_full : ∀ line ∈ closing, line ≠ []
  last_apart : isOfMethod last = false

namespace Reading

def importLines (r : Reading) (names : List Text) : List Text :=
  names.map (fun name => r.importStart ++ (name ++ r.importEnd)) ++
    if names.isEmpty then [] else [[]]

variable {r : Reading}

def Frame.lines (f : r.Frame) (names method : List Text) : List Text :=
  f.opening ++ (r.importLines names ++ (f.middle ++ f.last :: (method ++ f.closing)))

def Frame.Unbroken (f : r.Frame) : Prop :=
  ∀ line ∈ f.opening ++ (f.middle ++ f.last :: f.closing), line.Unbroken

variable (f : r.Frame) {names method : List Text}

theorem lines_unbroken (unbroken : f.Unbroken) (start : r.importStart.Unbroken)
    (stop : r.importEnd.Unbroken) (imported : ∀ name ∈ names, name.Unbroken)
    (inMethod : ∀ line ∈ method, line.Unbroken) :
    ∀ line ∈ f.lines names method, line.Unbroken := by
  obtain ⟨opening, later⟩ := List.forall_mem_append.1 unbroken
  obtain ⟨middle, later⟩ := List.forall_mem_append.1 later
  obtain ⟨last, closing⟩ := List.forall_mem_cons.1 later
  have separator : ∀ line ∈ (if names.isEmpty then [] else [[]] : List Text), line.Unbroken := by
    split <;> simp [Text.unbroken_nil]
  have importLines : ∀ line ∈ r.importLines names, line.Unbroken :=
    List.forall_mem_append.2 ⟨List.forall_mem_map.2 fun name given =>
      start.append ((imported name given).append stop), separator⟩
  exact List.forall_mem_append.2 ⟨opening, List.forall_mem_append.2 ⟨importLines,
    List.forall_mem_append.2 ⟨middle, List.forall_mem_cons.2 ⟨last,
      List.forall_mem_append.2 ⟨inMethod, closing⟩⟩⟩⟩⟩

variable (names)

theorem mapM_between? :
    (names.map fun name => r.importStart ++ (name ++ r.importEnd)).mapM
      (Text.between? r.importStart r.importEnd) = some names := by
  induction names with
  | nil => rfl
  | cons name names ih =>
    rw [List.map_cons, List.mapM_cons, Text.between?_append, ih]
    rfl

theorem imports_lines (start : r.importStart ≠ []) (full : ∀ line ∈ method, line ≠ []) :
    r.imports (f.lines names method) = some names := by
  have after : (f.lines names method).drop r.opening =
      r.importLines names ++ (f.middle ++ f.last :: (method ++ f.closing)) := by
    rw [Frame.lines, ← f.opening_length, List.drop_left]
  have noneEmpty : [] ∉ f.middle ++ f.last :: (method ++ f.closing) := by
    intro inside
    rw [List.mem_append, List.mem_cons, List.mem_append] at inside
    rcases inside with here | here | here | here
    · exact f.middle_full _ here rfl
    · exact f.last_full here.symm
    · exact full _ here rfl
    · exact f.closing_full _ here rfl
  -- With imports the first empty line ends them; without any there must be none at all.
  rw [imports, after]
  generalize f.middle ++ f.last :: (method ++ f.closing) = others at noneEmpty
  by_cases unimported : names = []
  · subst unimported
    have separated : (r.importLines [] ++ others).contains [] = false := by
      simpa [importLines] using noneEmpty
    simp only [separated, Bool.false_eq_true, if_false]
  · have separated : (r.importLines names ++ others).contains [] = true := by
      simp [importLines, unimported]
    have filled : ∀ line ∈ names.map fun name => r.importStart ++ (name ++ r.importEnd),
        (!line.isEmpty) = true := by
      intro line inside
      obtain ⟨name, -, rfl⟩ := List.mem_map.1 inside
      simp [start]
    have before : (r.importLines names ++ others).takeWhile (fun line => !line.isEmpty) =
        names.map fun name => r.importStart ++ (name ++ r.importEnd) := by
      rw [importLines, List.append_assoc, List.takeWhile_append_of_pos filled]
      simp [unimported]
    simp only [separated, if_true, before, mapM_between?]

theorem methodLines_lines (ofMethod : ∀ line ∈ method, isOfMethod line = true) :
    methodLines (f.lines names method) = method := by
  have split : f.lines names method =
      f.opening ++ r.importLines names ++ f.middle ++ [f.last] ++ method ++ f.closing := by
    simp [Frame.lines]
  -- Read backwards, the method comes after the closing and before `last`.
  have length : f.closing.reverse.length = 3 := by rw [List.length_reverse, f.closing_length]
  have inside : ∀ line ∈ method.reverse, isOfMethod line = true := fun line here =>
    ofMethod line (List.mem_reverse.1 here)
  rw [methodLines, split, List.reverse_append, ← length, List.drop_left, List.reverse_append,
    List.takeWhile_append_of_pos inside, List.reverse_append]
  simp [f.last_apart]

end Reading

theorem Text.ne_nil_of_start {start rest : Text} (full : start ≠ []) : start ++ rest ≠ [] :=
  List.append_ne_nil_of_left_ne_nil full rest

section Frames

variable {u : CompileUnit} {attributes : List Text} {P : Text → Prop}

namespace CSharp

def entryLine (u : CompileUnit) : Text :=
  "        public override void ".toList ++ u.type.entryMethod.name ++ "()".toList

def middle (u : CompileUnit) (attributes : List Text) : List Text :=
  attributes.map attributeLine ++ ["    ".toList ++ declaration u.type, "    \x7b".toList] ++
    u.type.constructors.flatMap (constructorLines u.type.name) ++ [entryLine u]

theorem forall_constructorLines {c : Constructor} {name : Text}
    (first : P ("        public ".toList ++ name ++
      '(' :: Text.joinWith ", ".toList c.parameters ++ [')']))
    (opened : P "        \x7b".toList) (body : ∀ line ∈ c.body, P (Spelling.bodyIndent ++ line))
    (closed : P "        \x7d".toList) : ∀ line ∈ constructorLines name c, P line := by
  unfold constructorLines
  exact List.forall_mem_append.2 ⟨List.forall_mem_cons.2 ⟨first, List.forall_mem_cons.2
    ⟨opened, List.forall_mem_map.2 body⟩⟩, List.forall_mem_singleton.2 closed⟩

theorem forall_middle (marked : ∀ form ∈ attributes, P (attributeLine form))
    (declared : P ("    ".toList ++ declaration u.type)) (opened : P "    \x7b".toList)
    (made : ∀ c ∈ u.type.constructors, ∀ line ∈ constructorLines u.type.name c, P line)
    (entry : P (entryLine u)) : ∀ line ∈ middle u attributes, P line := by
  unfold middle
  refine List.forall_mem_append.2 ⟨List.forall_mem_append.2 ⟨List.forall_mem_append.2
    ⟨List.forall_mem_map.2 marked, ?_⟩, ?_⟩, List.forall_mem_singleton.2 entry⟩
  · exact List.forall_mem_cons.2 ⟨declared, List.forall_mem_singleton.2 opened⟩
  · intro line inside
    obtain ⟨c, given, here⟩ := List.mem_flatMap.1 inside
    exact made c given line here

theorem middle_full : ∀ line ∈ middle u attributes, line ≠ [] := by
  refine forall_middle (fun form _ => ?_) ?_ (by decide) (fun c _ => ?_) ?_
  · exact Text.ne_nil_of_start (Text.ne_nil_of_start (by decide))
  · exact Text.ne_nil_of_start (by decide)
  · refine forall_constructorLines ?_ (by decide) (fun line _ => ?_) (by decide)
    · exact Text.ne_nil_of_start (Text.ne_nil_of_start (Text.ne_nil_of_start (by decide)))
    · exact Text.ne_nil_of_start (by decide)
  · exact Text.ne_nil_of_start (Text.ne_nil_of_start (by decide))

def closing : List Text := ["        \x7d".toList, "    \x7d".toList, ['\x7d']]

def frame (u : CompileUnit) (attributes : List Text) : Language.csharp.reading.Frame where
  opening := ["namespace ".toList ++ u.namespaceName, ['\x7b']]
  middle := middle u attributes
  last := "        \x7b".toList
  closing := closing
  opening_length := rfl
  closing_length := rfl
  middle_full := middle_full
  last_full := by decide
  closing_full := by decide
  last_apart := by decide

theorem layout_eq (u : CompileUnit) (attributes : List Text) :
    layout u attributes = (frame u attributes).lines u.imports.names (spelling.body u) := by
  have grouped (o i s a d c m z : List Text) (e b : Text) :
      o ++ i ++ s ++ a ++ d ++ c ++ [e, b] ++ m ++ z =
        o ++ ((i ++ s) ++ ((a ++ d ++ c ++ [e]) ++ b :: (m ++ z))) := by
    simp
  have imports : u.imports.names.map importLine =
      u.imports.names.map fun name => "    using ".toList ++ (name ++ [';']) :=
    List.map_congr_left fun name _ => List.append_assoc ..
  unfold layout
  rw [imports]
  exact grouped ..

theorem declaration_unbroken (single : u.SingleLine) : (declaration u.type).Unbroken := by
  have kind : Text.Unbroken
      (if u.type.isPartial then " partial class ".toList else " class ".toList) := by
    split <;> decide
  have base : Text.Unbroken
      (if u.type.baseType.truthy then " : ".toList ++ u.type.baseType.display else []) := by
    split
    · exact Text.Unbroken.append (by decide) single.baseType
    · exact Text.unbroken_nil
  exact ((single.visibility.append kind).append single.typeName).append base

theorem frame_unbroken (single : u.SingleLine) (forms : ∀ form ∈ attributes, form.Unbroken) :
    (frame u attributes).Unbroken := by
  have opening : Text.Unbroken ("namespace ".toList ++ u.namespaceName) :=
    Text.Unbroken.append (by decide) single.namespaceName
  have entry : (entryLine u).Unbroken :=
    (Text.Unbroken.append (by decide) single.entryMethod).append (by decide)
  have middle : ∀ line ∈ middle u attributes, line.Unbroken := by
    refine forall_middle (fun form given => ?_) ?_ (by decide) (fun c given => ?_) entry
    · exact (Text.Unbroken.append (by decide) (forms form given)).append (by decide)
    · exact Text.Unbroken.append (by decide) (declaration_unbroken single)
    · obtain ⟨parameters, body⟩ := single.constructors c given
      refine forall_constructorLines ?_ (by decide) (fun line here => ?_) (by decide)
      · have listed : Text.Unbroken ('(' :: Text.joinWith ", ".toList c.parameters) :=
          Text.unbroken_cons_iff.2 ⟨by decide, Text.unbroken_joinWith (by decide) parameters⟩
        exact ((Text.Unbroken.append (by decide) single.typeName).append listed).append (by decide)
      · exact Text.Unbroken.append (by decide) (body line here)
  have brace : ∀ line ∈ [['\x7b']], Text.Unbroken line := by decide
  have closing : ∀ line ∈ "        \x7b".toList :: closing, Text.Unbroken line := by decide
  exact List.forall_mem_append.2 ⟨List.forall_mem_cons.2 ⟨opening, brace⟩,
    List.forall_mem_append.2 ⟨middle, closing⟩⟩

theorem attributeForm_unbroken {name : Text} {arguments : List Text} (named : name.Unbroken)
    (unbroken : ∀ t ∈ arguments, t.Unbroken) : (attributeForm name arguments).Unbroken := by
  have listed : Text.Unbroken ('(' :: Text.joinWith ", ".toList arguments) :=
    Text.unbroken_cons_iff.2 ⟨by decide, Text.unbroken_joinWith (by decide) unbroken⟩
  unfold attributeForm
  split
  · exact named
  · exact (named.append listed).append (by decide)

end CSharp

namespace VisualBasic

def entryLine (u : CompileUnit) : Text :=
  "        Public Overrides Sub ".toList ++ u.type.entryMethod.name ++ "()".toList

def middle (u : CompileUnit) (attributes : List Text) : List Text :=
  ["Namespace ".toList ++ u.namespaceName] ++ attributes.map attributeLine ++
    ["    ".toList ++ declaration u.type] ++ baseLines u.type.baseType ++
    u.type.constructors.flatMap constructorLines

theorem forall_constructorLines {c : Constructor}
    (first : P ("        Public Sub New(".toList ++
      Text.joinWith ", ".toList c.parameters ++ [')']))
    (base : P "            MyBase.New".toList)
    (body : ∀ line ∈ c.body, P (Spelling.bodyIndent ++ line))
    (closed : P "        End Sub".toList) : ∀ line ∈ constructorLines c, P line := by
  unfold constructorLines
  exact List.forall_mem_append.2 ⟨List.forall_mem_cons.2 ⟨first, List.forall_mem_cons.2
    ⟨base, List.forall_mem_map.2 body⟩⟩, List.forall_mem_singleton.2 closed⟩

theorem forall_middle (opened : P ("Namespace ".toList ++ u.namespaceName))
    (marked : ∀ form ∈ attributes, P (attributeLine form))
    (declared : P ("    ".toList ++ declaration u.type))
    (base : P ("        Inherits ".toList ++ u.type.baseType.display))
    (made : ∀ c ∈ u.type.constructors, ∀ line ∈ constructorLines c, P line) :
    ∀ line ∈ middle u attributes, P line := by
  unfold middle
  refine List.forall_mem_append.2 ⟨List.forall_mem_append.2 ⟨List.forall_mem_append.2
    ⟨List.forall_mem_append.2 ⟨List.forall_mem_singleton.2 opened, List.forall_mem_map.2 marked⟩,
      List.forall_mem_singleton.2 declared⟩, ?_⟩, ?_⟩
  · unfold baseLines
    split
    · exact List.forall_mem_singleton.2 base
    · exact List.forall_mem_nil P
  · intro line inside
    obtain ⟨c, given, here⟩ := List.mem_flatMap.1 inside
    exact made c given line here

theorem middle_full : ∀ line ∈ middle u attributes, line ≠ [] := by
  refine forall_middle ?_ (fun form _ => ?_) ?_ ?_ (fun c _ => ?_)
  · exact Text.ne_nil_of_start (by decide)
  · exact Text.ne_nil_of_start (Text.ne_nil_of_start (by decide))
  · exact Text.ne_nil_of_start (by decide)
  · exact Text.ne_nil_of_start (by decide)
  · refine forall_constructorLines ?_ (by decide) (fun line _ => ?_) (by decide)
    · exact Text.ne_nil_of_start (Text.ne_nil_of_start (by decide))
    · exact Text.ne_nil_of_start (by decide)

def opening : List Text := ["Option Strict Off".toList, "Option Explicit On".toList, []]

def closing : List Text :=
  ["        End Sub".toList, "    End Class".toList, "End Namespace".toList]

def frame (u : CompileUnit) (attributes : List Text) : Language.visualBasic.reading.Frame where
  opening := opening
  middle := middle u attributes
  last := entryLine u
  closing := closing
  opening_length := rfl
  closing_length := rfl
  middle_full := middle_full
  last_full := Text.ne_nil_of_start (Text.ne_nil_of_start (by decide))
  closing_full := by decide
  last_apart := rfl

theorem layout_eq (u : CompileUnit) (attributes : List Text) :
    layout u attributes = (frame u attributes).lines u.imports.names (spelling.body u) := by
  have grouped (o i s n a d b c m z : List Text) (e : Text) :
      o ++ i ++ s ++ n ++ a ++ d ++ b ++ c ++ [e] ++ m ++ z =
        o ++ ((i ++ s) ++ ((n ++ a ++ d ++ b ++ c) ++ e :: (m ++ z))) := by
    simp
  have imports : u.imports.names.map importLine =
      u.imports.names.map fun name => "Imports ".toList ++ (name ++ []) :=
    List.map_congr_left fun name _ => congrArg ("Imports ".toList ++ ·) (List.append_nil name).symm
  unfold layout
  rw [imports]
  exact grouped ..

theorem declaration_unbroken (single : u.SingleLine) : (declaration u.type).Unbroken := by
  have partially : Text.Unbroken (if u.type.isPartial then "Partial ".toList else []) := by
    split <;> decide
  have visibility : (visibilityWord u.type.visibility).Unbroken := by
    unfold visibilityWord
    split <;> decide
  exact ((partially.append visibility).append (by decide)).append single.typeName

theorem frame_unbroken (single : u.SingleLine) (forms : ∀ form ∈ attributes, form.Unbroken) :
    (frame u attributes).Unbroken := by
  have entry : (entryLine u).Unbroken :=
    (Text.Unbroken.append (by decide) single.entryMethod).append (by decide)
  have middle : ∀ line ∈ middle u attributes, line.Unbroken := by
    refine forall_middle ?_ (fun form given => ?_) ?_ ?_ (fun c given => ?_)
    · exact Text.Unbroken.append (by decide) single.namespaceName
    · exact (Text.Unbroken.append (by decide) (forms form given)).append (by decide)
    · exact Text.Unbroken.append (by decide) (declaration_unbroken single)
    · exact Text.Unbroken.append (by decide) single.baseType
    · obtain ⟨parameters, body⟩ := single.constructors c given
      refine forall_constructorLines ?_ (by decide) (fun line here => ?_) (by decide)
      · exact (Text.Unbroken.append (by decide)
          (Text.unbroken_joinWith (by decide) parameters)).append (by decide)
      · exact Text.Unbroken.append (by decide) (body line here)
  have opening : ∀ line ∈ opening, Text.Unbroken line := by decide
  have closing : ∀ line ∈ closing, Text.Unbroken line := by decide
  exact List.forall_mem_append.2 ⟨opening, List.forall_mem_append.2 ⟨middle,
    List.forall_mem_cons.2 ⟨entry, closing⟩⟩⟩

theorem attributeForm_unbroken {name : Text} {arguments : List Text} (named : name.Unbroken)
    (unbroken : ∀ t ∈ arguments, t.Unbroken) : (attributeForm name arguments).Unbroken := by
  have listed : Text.Unbroken ('(' :: Text.joinWith ", ".toList arguments) :=
    Text.unbroken_cons_iff.2 ⟨by decide, Text.unbroken_joinWith (by decide) unbroken⟩
  exact (named.append listed).append (by decide)

end VisualBasic

end Frames

end TemplateCompiler
