import TemplateCompiler.Language.Render
import TemplateCompiler.Proofs.Language.Quoting

/-! Reading a compile unit's imports and statements back from its code. The code is split at line
feeds. An empty line ends the imports, and the lines of the entry method are found from the end:
they are indented further than the line before them, or are pragmas. -/

namespace TemplateCompiler

namespace Text

def Unbroken (t : Text) : Prop := '\n' ∉ t

instance (t : Text) : Decidable t.Unbroken := inferInstanceAs (Decidable (_ ∉ _))

theorem unbroken_nil : Unbroken [] := List.not_mem_nil

theorem unbroken_cons_iff {c : Char} {t : Text} : Unbroken (c :: t) ↔ c ≠ '\n' ∧ t.Unbroken := by
  simp [Unbroken, eq_comm]

theorem unbroken_append_iff {s t : Text} : Unbroken (s ++ t) ↔ s.Unbroken ∧ t.Unbroken := by
  simp [Unbroken]

theorem Unbroken.append {s t : Text} (first : s.Unbroken) (second : t.Unbroken) :
    Unbroken (s ++ t) :=
  unbroken_append_iff.2 ⟨first, second⟩

theorem unbroken_flatMap {α : Type} {f : α → Text} {xs : List α}
    (each : ∀ x ∈ xs, (f x).Unbroken) : Unbroken (xs.flatMap f) := by
  intro broken
  obtain ⟨x, inside, here⟩ := List.mem_flatMap.1 broken
  exact each x inside here

theorem unbroken_joinWith {separator : Text} (separates : separator.Unbroken) {ts : List Text}
    (each : ∀ t ∈ ts, t.Unbroken) : Unbroken (joinWith separator ts) := by
  induction ts with
  | nil => exact unbroken_nil
  | cons t ts ih =>
    obtain ⟨first, others⟩ := List.forall_mem_cons.1 each
    cases ts with
    | nil => exact first
    | cons u ts => exact (first.append separates).append (ih others)

theorem unbroken_ofInt (i : Int) : Unbroken (ofInt i) := fun broken =>
  bne_iff_ne.1 (ofInt_apart i (by decide) (by decide) _ broken) rfl

def physicalLines (t : Text) : List Text := (splitOn (· == '\n') t).dropLast

theorem splitOn_ne_nil (p : Char → Bool) (t : Text) : splitOn p t ≠ [] := by
  cases t with
  | nil => simp [splitOn]
  | cons c t =>
    rw [splitOn]
    split
    · simp
    · split <;> simp

theorem splitOn_append {p : Char → Bool} {separator : Char} (separates : p separator = true)
    {line : Text} (unbroken : ∀ c ∈ line, p c = false) (rest : Text) :
    splitOn p (line ++ separator :: rest) = line :: splitOn p rest := by
  induction line with
  | nil =>
    rw [List.nil_append, splitOn]
    cases pieces : splitOn p rest with
    | nil => exact absurd pieces (splitOn_ne_nil p rest)
    | cons piece pieces => exact if_pos separates
  | cons c line ih =>
    obtain ⟨first, others⟩ := List.forall_mem_cons.1 unbroken
    rw [List.cons_append, splitOn, ih others]
    simp [first]

theorem physicalLines_unlines {lines : List Text} (unbroken : ∀ line ∈ lines, line.Unbroken) :
    physicalLines (unlines lines) = lines := by
  have whole : splitOn (· == '\n') (unlines lines) = lines ++ [[]] := by
    induction lines with
    | nil => rfl
    | cons line lines ih =>
      obtain ⟨first, others⟩ := List.forall_mem_cons.1 unbroken
      have inside : ∀ c ∈ line, (c == '\n') = false := by
        intro c given
        exact beq_false_of_ne fun same => first (same ▸ given)
      rw [unlines, List.flatMap_cons, List.append_assoc, List.singleton_append,
        splitOn_append rfl inside, ← unlines, ih others, List.cons_append]
  rw [physicalLines, whole, List.dropLast_concat]

end Text

/-- What can be read back from code. -/
structure Listing where
  imports : List Text
  statements : List (StatementKind × Text)
  lines : List Int
deriving DecidableEq, Repr

/-- How the code of a language is read. -/
structure Reading where
  opening : Nat
  importStart : Text
  importEnd : Text
  unescape : Text → Text
  callEnd : Text
  pragmaLine? : Text → Option Int

namespace Reading

def imports (r : Reading) (lines : List Text) : Option (List Text) :=
  let rest := lines.drop r.opening
  if rest.contains [] then
    (rest.takeWhile fun line => !line.isEmpty).mapM (Text.between? r.importStart r.importEnd)
  else some []

def isPragma (line : Text) : Bool := line.head? == some '#'

def isOfMethod (line : Text) : Bool := Spelling.bodyIndent.isPrefixOf line || isPragma line

def methodLines (lines : List Text) : List Text :=
  ((lines.reverse.drop 3).takeWhile isOfMethod).reverse

def statement (r : Reading) (line : Text) : Option (StatementKind × Text) :=
  (Text.afterStart Spelling.bodyIndent line).bind fun call =>
    match Text.between? "WriteLiteral(\"".toList ('"' :: ')' :: r.callEnd) call with
    | some t => some (.literal, r.unescape t)
    | none => (Text.between? "Write(".toList (')' :: r.callEnd) call).map (.expression, ·)

def listing (r : Reading) (pragmas : Bool) (code : Text) : Option Listing := do
  let lines := Text.physicalLines code
  let method := methodLines lines
  let imports ← r.imports lines
  if pragmas then
    let statements ← (method.filter fun line => !isPragma line).mapM r.statement
    return ⟨imports, statements, method.filterMap r.pragmaLine?⟩
  else
    let statements ← method.mapM r.statement
    return ⟨imports, statements, []⟩

end Reading

def CSharp.pragmaLine? (line : Text) : Option Int :=
  (Text.afterStart "#line ".toList line).bind fun rest =>
    Text.integer? (rest.takeWhile fun c => c != ' ')

/-- The line number behind the last comma: the file may have commas in its name. -/
def VisualBasic.pragmaLine? (line : Text) : Option Int :=
  (Text.between? "#ExternalSource(".toList [')'] line).bind fun inner =>
    Text.integer? (inner.reverse.takeWhile fun c => c != ',').reverse

def Language.reading : Language → Reading
  | .csharp =>
    { opening := 2
      importStart := "    using ".toList
      importEnd := [';']
      unescape := CSharp.unescape
      callEnd := [';']
      pragmaLine? := CSharp.pragmaLine? }
  | .visualBasic =>
    { opening := 3
      importStart := "Imports ".toList
      importEnd := []
      unescape := VisualBasic.unescape
      callEnd := []
      pragmaLine? := VisualBasic.pragmaLine? }

/-- What can be read back from code of a language with or without line pragmas. -/
def Language.readBack (l : Language) (pragmas : Bool) (code : Text) : Option Listing :=
  l.reading.listing pragmas code

end TemplateCompiler
