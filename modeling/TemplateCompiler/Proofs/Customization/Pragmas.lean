import Mathlib.Data.List.Forall2
import TemplateCompiler.Customization.Pragmas
import TemplateCompiler.Proofs.Language.Statements
import TemplateCompiler.Proofs.Text.Trim

/-! Making pragmas relative changes a text line by line. A line that begins with a pragma gets another
path, and a line that begins with none stays as it is. -/

namespace TemplateCompiler

theorem Text.isDecimal_ofNat (n : Nat) : ∀ c ∈ ofNat n, isDecimal c = true := by
  have digits : ∀ k < 10, decimalRanges.hasCode (0x30 + k) = true := by decide +kernel
  intro c inside
  obtain ⟨low, high⟩ := Char.isDigit_iff_toNat.1 (isDigit_ofNat n c inside)
  have zero : '0'.toNat = 0x30 := rfl
  have nine : '9'.toNat = 0x39 := rfl
  have found := digits (c.toNat - 0x30) (by omega)
  rwa [Nat.add_sub_cancel' (by omega)] at found

theorem Text.subset_of_afterStart {start t rest : Text}
    (found : afterStart start t = some rest) : rest ⊆ t := by
  rw [afterStart_eq_some_iff.1 found]
  exact List.subset_append_right start rest

namespace Pragma

variable {find : Text → Option Parts} {directory : Text}

theorem relativizeFrom_skip (passed rest : Text) :
    relativizeFrom find directory false passed.length (passed ++ rest) =
      relativizeFrom find directory false 0 rest := by
  induction passed with
  | nil => rfl
  | cons c passed ih => exact ih

theorem relativizeFrom_append {line : Text} (unbroken : line.Unbroken) (tail : Text) :
    relativizeFrom find directory false 0 (line ++ tail) =
      line ++ relativizeFrom find directory false 0 tail := by
  induction line with
  | nil => rfl
  | cons c line ih =>
    obtain ⟨other, others⟩ := Text.unbroken_cons_iff.1 unbroken
    have inside : (c == '\n') = false := beq_false_of_ne other
    rw [List.cons_append, relativizeFrom]
    simp only [Bool.false_eq_true, if_false, inside, ih others, List.cons_append]

theorem relativizeFrom_line {line : Text} (unbroken : line.Unbroken) (rest : Text) :
    relativizeFrom find directory false 0 (line ++ '\n' :: rest) =
      line ++ '\n' :: relativizeFrom find directory true 0 rest :=
  relativizeFrom_append unbroken ('\n' :: rest)

theorem relativizeFrom_none {t : Text} (nothing : find t = none) :
    relativizeFrom find directory true 0 t = relativizeFrom find directory false 0 t := by
  cases t with
  | nil => rfl
  | cons c t =>
    rw [relativizeFrom, relativizeFrom]
    simp only [if_true, nothing, Bool.false_eq_true, if_false]

theorem relativizeFrom_found {p : Parts} (full : p.opening ≠ []) {rest : Text}
    (found : find (p.source ++ rest) = some p) :
    relativizeFrom find directory true 0 (p.source ++ rest) =
      { p with path := relativeTo directory p.path }.source ++
        relativizeFrom find directory false 0 rest := by
  obtain ⟨c, opening, opened⟩ := List.exists_cons_of_ne_nil full
  have source : p.source = c :: (opening ++ p.path ++ p.closing) := by
    rw [Parts.source, opened]
    rfl
  have passed : relativizeFrom find directory false (opening ++ p.path ++ p.closing).length
      (opening ++ p.path ++ p.closing ++ rest) = relativizeFrom find directory false 0 rest :=
    relativizeFrom_skip _ _
  rw [source, List.cons_append] at found
  rw [source, List.cons_append, relativizeFrom]
  simp only [if_true, found, source, List.length_cons, Nat.add_sub_cancel]
  rw [passed]
  rfl

/-- What becomes of a line, whatever follows it. -/
inductive Rewrites (find : Text → Option Parts) (directory : Text) : Text → Text → Prop
  | kept {line : Text} (unbroken : line.Unbroken)
      (nothing : ∀ rest, find (line ++ '\n' :: rest) = none) :
      Rewrites find directory line line
  | changed {p : Parts} (full : p.opening ≠ [])
      (found : ∀ rest, find (p.source ++ '\n' :: rest) = some p) :
      Rewrites find directory p.source { p with path := relativeTo directory p.path }.source

theorem Rewrites.relativizeFrom {line written : Text}
    (rewrites : Rewrites find directory line written) (rest : Text) :
    relativizeFrom find directory true 0 (line ++ '\n' :: rest) =
      written ++ '\n' :: relativizeFrom find directory true 0 rest := by
  cases rewrites with
  | kept unbroken nothing =>
    rw [relativizeFrom_none (nothing rest), relativizeFrom_line unbroken]
  | changed full found =>
    rw [relativizeFrom_found full (found rest)]
    rfl

theorem relativizeWith_unlines {lines written : List Text}
    (rewritten : List.Forall₂ (Rewrites find directory) lines written) :
    relativizeWith find directory (Text.unlines lines) = Text.unlines written := by
  induction rewritten with
  | nil => rfl
  | @cons line line' lines written first _ ih =>
    have cut (line : Text) (lines : List Text) :
        Text.unlines (line :: lines) = line ++ '\n' :: Text.unlines lines := by
      simp [Text.unlines]
    rw [cut, cut, ← ih]
    exact first.relativizeFrom _

/-- What becomes of a line when the pragmas of one form are changed, and then those of the other. -/
def Relativizes (directory line written : Text) : Prop :=
  ∃ between, Rewrites lineFirst? directory line between ∧
    Rewrites pathFirst? directory between written

theorem Relativizes.kept {line : Text} (unbroken : line.Unbroken)
    (noLine : ∀ rest, lineFirst? (line ++ '\n' :: rest) = none)
    (noPath : ∀ rest, pathFirst? (line ++ '\n' :: rest) = none) :
    Relativizes directory line line :=
  ⟨line, .kept unbroken noLine, .kept unbroken noPath⟩

theorem relativize_unlines {lines written : List Text}
    (rewritten : List.Forall₂ (Relativizes directory) lines written) :
    relativize directory (Text.unlines lines) = Text.unlines written := by
  have steps : ∃ between, List.Forall₂ (Rewrites lineFirst? directory) lines between ∧
      List.Forall₂ (Rewrites pathFirst? directory) between written := by
    induction rewritten with
    | nil => exact ⟨[], .nil, .nil⟩
    | cons first _ ih =>
      obtain ⟨line, one, two⟩ := first
      obtain ⟨lines, ones, twos⟩ := ih
      exact ⟨line :: lines, .cons one ones, .cons two twos⟩
  obtain ⟨between, first, second⟩ := steps
  rw [relativize, relativizeWith_unlines first, relativizeWith_unlines second]

section Forms

def IsNumber (n : Text) : Prop := n ≠ [] ∧ ∀ c ∈ n, Text.isDecimal c = true

/-- The pragmas of the languages: the path ends at the next quotation mark. -/
inductive Form : Language → Parts → Prop
  | line {n path : Text} (number : IsNumber n) (quoted : '"' ∉ path) :
      Form .csharp ⟨"#line ".toList ++ n ++ " \"".toList, path, ['"']⟩
  | externalSource {n path : Text} (number : IsNumber n) (quoted : '"' ∉ path) :
      Form .visualBasic ⟨"#ExternalSource(\"".toList, path, "\",".toList ++ n ++ [')']⟩

def first? : Language → Text → Option Parts
  | .csharp => lineFirst?
  | .visualBasic => pathFirst?

theorem isNumber_ofNat (n : Nat) : IsNumber (Text.ofNat n) :=
  ⟨by simp [Text.ofNat], Text.isDecimal_ofNat n⟩

theorem takeDigits_eq_some_iff {t number rest : Text} :
    takeDigits t = some (number, rest) ↔
      IsNumber number ∧ t = number ++ rest ∧ ∀ c ∈ rest.head?, Text.isDecimal c = false := by
  unfold takeDigits
  constructor
  · intro taken
    split at taken
    · cases taken
    · next some =>
      cases taken
      exact ⟨⟨by simpa using some, fun c inside => List.mem_takeWhile_imp inside⟩,
        List.takeWhile_append_dropWhile.symm, Text.head_dropWhile _ t⟩
  · rintro ⟨⟨some, digits⟩, rfl, stop⟩
    rw [Text.takeWhile_append_of_stop digits stop, Text.dropWhile_append_of_stop digits stop,
      if_neg (by simpa using some)]

theorem takePath_eq_iff {t path rest : Text} :
    takePath t = (path, rest) ↔ t = path ++ rest ∧ '"' ∉ path ∧ ∀ c ∈ rest.head?, c = '"' := by
  unfold takePath
  constructor
  · intro taken
    cases taken
    refine ⟨List.takeWhile_append_dropWhile.symm, fun inside => ?_, fun c first => ?_⟩
    · exact absurd (List.mem_takeWhile_imp inside) (by decide)
    · simpa using Text.head_dropWhile (· != '"') t c first
  · rintro ⟨rfl, quoted, stop⟩
    have free : ∀ c ∈ path, (c != '"') = true := fun c inside =>
      bne_iff_ne.2 fun same => quoted (same ▸ inside)
    have ends : ∀ c ∈ rest.head?, (c != '"') = false := fun c first => by simp [stop c first]
    rw [Text.takeWhile_append_of_stop free ends, Text.dropWhile_append_of_stop free ends]

theorem lineFirst?_eq_some_iff {t : Text} {p : Parts} :
    lineFirst? t = some p ↔ Form .csharp p ∧ p.source <+: t := by
  constructor
  · intro found
    simp only [lineFirst?, bind, Option.bind_eq_some_iff, Text.afterStart_eq_some_iff] at found
    obtain ⟨_, rfl, ⟨number, _⟩, digits, afterQuote, rfl, mark, follows, same⟩ := found
    obtain ⟨isNumber, rfl, -⟩ := takeDigits_eq_some_iff.1 digits
    cases same
    cases taken : takePath afterQuote with
    | mk path rest =>
      rw [taken] at follows
      obtain ⟨rfl, quoted, stop⟩ := takePath_eq_iff.1 taken
      obtain ⟨rest, rfl⟩ := List.head?_eq_some_iff.1 follows
      cases stop mark rfl
      refine ⟨.line isNumber quoted, rest, ?_⟩
      simp only [Parts.source, List.append_assoc, List.singleton_append]
  · rintro ⟨form, rest, rfl⟩
    cases form with
    | @line n path number quoted =>
      have written : Parts.source ⟨"#line ".toList ++ n ++ " \"".toList, path, ['"']⟩ ++ rest =
          "#line ".toList ++ (n ++ (" \"".toList ++ (path ++ '"' :: rest))) := by
        simp only [Parts.source, List.append_assoc, List.singleton_append]
      have digits : takeDigits (n ++ (" \"".toList ++ (path ++ '"' :: rest))) =
          some (n, " \"".toList ++ (path ++ '"' :: rest)) := by
        refine takeDigits_eq_some_iff.2 ⟨number, rfl, fun c first => ?_⟩
        cases first
        decide +kernel
      have ends : takePath (path ++ '"' :: rest) = (path, '"' :: rest) :=
        takePath_eq_iff.2 ⟨rfl, quoted, fun c first => (Option.some.inj first).symm⟩
      rw [lineFirst?, written, Text.afterStart_append]
      simp only [bind, Option.bind_some, digits, Text.afterStart_append, ends]
      rfl

theorem pathFirst?_eq_some_iff {t : Text} {p : Parts} :
    pathFirst? t = some p ↔ Form .visualBasic p ∧ p.source <+: t := by
  constructor
  · intro found
    simp only [pathFirst?, bind, Option.bind_eq_some_iff, Text.afterStart_eq_some_iff] at found
    obtain ⟨afterQuote, rfl, _, behind, ⟨number, _⟩, digits, rest, rfl, same⟩ := found
    obtain ⟨isNumber, rfl, -⟩ := takeDigits_eq_some_iff.1 digits
    cases same
    cases taken : takePath afterQuote with
    | mk path closing =>
      rw [taken] at behind
      obtain ⟨rfl, quoted, -⟩ := takePath_eq_iff.1 taken
      obtain rfl : closing = _ := behind
      refine ⟨.externalSource isNumber quoted, rest, ?_⟩
      simp only [Parts.source, List.append_assoc]
  · rintro ⟨form, rest, rfl⟩
    cases form with
    | @externalSource n path number quoted =>
      have written : Parts.source ⟨"#ExternalSource(\"".toList, path, "\",".toList ++ n ++ [')']⟩ ++
          rest = "#ExternalSource(\"".toList ++
            (path ++ ("\",".toList ++ (n ++ ([')'] ++ rest)))) := by
        simp only [Parts.source, List.append_assoc]
      have digits : takeDigits (n ++ ([')'] ++ rest)) = some (n, [')'] ++ rest) := by
        refine takeDigits_eq_some_iff.2 ⟨number, rfl, fun c first => ?_⟩
        cases first
        decide +kernel
      have ends : takePath (path ++ ("\",".toList ++ (n ++ ([')'] ++ rest)))) =
          (path, "\",".toList ++ (n ++ ([')'] ++ rest))) := by
        refine takePath_eq_iff.2 ⟨rfl, quoted, fun c first => ?_⟩
        cases first
        rfl
      rw [pathFirst?, written, Text.afterStart_append]
      simp only [bind, Option.bind_some, ends, Text.afterStart_append, digits]
      rfl

theorem first?_eq_some_iff (l : Language) {t : Text} {p : Parts} :
    first? l t = some p ↔ Form l p ∧ p.source <+: t :=
  match l with
  | .csharp => lineFirst?_eq_some_iff
  | .visualBasic => pathFirst?_eq_some_iff

end Forms

section Lines

variable {line : Text}

theorem afterStart_eq_none {start : Text} {c : Char} (starts : start.head? = some c)
    {t : Text} (other : t.head? ≠ some c) : Text.afterStart start t = none := by
  cases start with
  | nil => cases starts
  | cons d start =>
    cases starts
    cases t with
    | nil => rfl
    | cons e t => exact if_neg fun same => other (congrArg some same.symm)

theorem relativizes_plain (unbroken : line.Unbroken) (plain : Reading.isPragma line = false) :
    Relativizes directory line line := by
  have plain : line.head? ≠ some '#' := ne_of_beq_false plain
  have head : ∀ rest, (line ++ '\n' :: rest).head? ≠ some '#' := by
    intro rest
    cases line with
    | nil => exact fun same => absurd (Option.some.inj same) (by decide)
    | cons c line => exact plain
  refine .kept unbroken (fun rest => ?_) fun rest => ?_
  · rw [lineFirst?, afterStart_eq_none rfl (head rest)]
    rfl
  · rw [pathFirst?, afterStart_eq_none rfl (head rest)]
    rfl

def parts (l : Language) (path : Text) (number : Nat) : Parts :=
  match l with
  | .csharp => ⟨"#line ".toList ++ Text.ofNat number ++ " \"".toList, path, ['"']⟩
  | .visualBasic =>
    ⟨"#ExternalSource(\"".toList, path, "\",".toList ++ Text.ofNat number ++ [')']⟩

theorem source_parts (l : Language) (path : Text) (number : Nat) :
    (parts l path number).source = l.spelling.pragmaOpen path number := by
  cases l with
  | csharp => rfl
  | visualBasic =>
    change "#ExternalSource(\"".toList ++ path ++ ("\",".toList ++ Text.ofNat number ++ [')']) =
      "#ExternalSource(\"".toList ++ path ++ "\",".toList ++ Text.ofNat number ++ [')']
    simp only [List.append_assoc]

theorem form_parts (l : Language) {path : Text} (quoted : '"' ∉ path) (number : Nat) :
    Form l (parts l path number) :=
  match l with
  | .csharp => .line (isNumber_ofNat number) quoted
  | .visualBasic => .externalSource (isNumber_ofNat number) quoted

theorem relativizes_pragmaOpen (l : Language) {path : Text} (quoted : '"' ∉ path) (number : Nat)
    (unbroken : path.Unbroken) (below : (relativeTo directory path).Unbroken) :
    Relativizes directory (l.spelling.pragmaOpen path number)
      (l.spelling.pragmaOpen (relativeTo directory path) number) := by
  have before : (l.spelling.pragmaOpen path number).Unbroken :=
    l.fits.unbroken_open _ unbroken
  have after : (l.spelling.pragmaOpen (relativeTo directory path) number).Unbroken :=
    l.fits.unbroken_open _ below
  rw [← source_parts] at before after
  rw [← source_parts, ← source_parts]
  have found (rest : Text) : first? l ((parts l path number).source ++ '\n' :: rest) =
      some (parts l path number) :=
    (first?_eq_some_iff l).2 ⟨form_parts l quoted number, List.prefix_append ..⟩
  cases l with
  | csharp => exact ⟨_, .changed (List.cons_ne_nil _ _) found, .kept after fun rest => rfl⟩
  | visualBasic => exact ⟨_, .kept before fun rest => rfl, .changed (List.cons_ne_nil _ _) found⟩

end Lines

theorem lineFirst?_word {c : Char} (other : Text.isDecimal c = false) (t : Text) :
    lineFirst? ("#line ".toList ++ c :: t) = none := by
  have digits : takeDigits (c :: t) = none := by simp [takeDigits, other]
  rw [lineFirst?, Text.afterStart_append]
  simp only [bind, Option.bind_some, digits, Option.bind_none]

theorem relativizes_pragmaClose (l : Language) :
    ∀ line ∈ l.spelling.pragmaClose, Relativizes directory line line := by
  cases l with
  | csharp =>
    have word (c : Char) (t : Text) (other : Text.isDecimal c = false)
        (unbroken : Text.Unbroken ("#line ".toList ++ c :: t)) :
        Relativizes directory ("#line ".toList ++ c :: t) ("#line ".toList ++ c :: t) :=
      .kept unbroken (fun _ => lineFirst?_word other _) fun _ => rfl
    refine List.forall_mem_cons.2 ⟨?_, List.forall_mem_singleton.2 ?_⟩
    · exact word 'd' "efault".toList (by decide +kernel) (by decide)
    · exact word 'h' "idden".toList (by decide +kernel) (by decide)
  | visualBasic =>
    exact List.forall_mem_singleton.2 (.kept (by decide) (fun _ => rfl) fun _ => rfl)

section Paths

theorem mem_normalPath {c : Char} {path : Text} (inside : c ∈ normalPath path) :
    c ≠ '\\' ∧ (c ∈ path ∨ c = '/') := by
  obtain ⟨d, given, same⟩ := List.mem_map.1 inside
  by_cases back : d = '\\'
  · rw [if_pos back] at same
    exact ⟨same ▸ by decide, .inr same.symm⟩
  · rw [if_neg back] at same
    exact same ▸ ⟨back, .inl given⟩

theorem normalPath_eq_self {path : Text} (forward : '\\' ∉ path) : normalPath path = path := by
  refine (List.map_congr_left fun c inside => ?_).trans (List.map_id path)
  exact if_neg fun (back : c = '\\') => forward (back ▸ inside)

theorem mem_normalDirectory {c : Char} {path : Text} (inside : c ∈ normalDirectory path) :
    c ∈ normalPath path := by
  have found := List.dropWhile_subset _ (List.mem_reverse.1 inside)
  exact List.mem_reverse.1 found

theorem relativeTo_below {directory : Text} (full : directory ≠ []) (forward : '\\' ∉ directory)
    (path : Text) : relativeTo directory (directory ++ '/' :: path) = normalPath path := by
  have normal : normalPath (directory ++ '/' :: path) = (directory ++ ['/']) ++ normalPath path := by
    have before := normalPath_eq_self forward
    simp only [normalPath, Text.replaceChar, List.map_append, List.map_cons] at before ⊢
    rw [before, List.append_assoc]
    rfl
  have some : directory.isEmpty = false := by simpa using full
  rw [relativeTo, normal, Text.afterStart_append]
  simp [some]

theorem mem_relativeTo {directory path : Text} {c : Char} (inside : c ∈ relativeTo directory path) :
    c ∈ path ∨ c = '/' := by
  have normal : c ∈ normalPath path := by
    unfold relativeTo at inside
    split at inside
    · exact inside
    · cases found : Text.afterStart (directory ++ ['/']) (normalPath path) with
      | none =>
        simp only [found, Option.getD_none] at inside
        exact inside
      | some rest =>
        simp only [found, Option.getD_some] at inside
        exact Text.subset_of_afterStart found inside
  exact (mem_normalPath normal).2

theorem unbroken_relativeTo {directory path : Text} (unbroken : path.Unbroken) :
    (relativeTo directory path).Unbroken :=
  fun broken => (mem_relativeTo broken).elim unbroken (by decide)

end Paths

end Pragma

end TemplateCompiler
