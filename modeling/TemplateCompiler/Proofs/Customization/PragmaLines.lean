import TemplateCompiler.Customization.Build
import TemplateCompiler.Proofs.Customization.Pragmas
import TemplateCompiler.Proofs.Language.Verbatim

/-! Making pragmas relative in any text. Where every line that opens the path of a pragma also closes
it, each line is changed by itself: a pragma gets another path, and all else stays. A path that is
left open goes on to the next quotation mark, whichever line that stands on. -/

namespace TemplateCompiler

namespace Text

/-- The lines of a text, one more than there are line feeds. -/
def feedLines (t : Text) : List Text := splitOn (· == '\n') t

theorem feedLines_unbroken {line : Text} (unbroken : line.Unbroken) : line.feedLines = [line] :=
  splitOn_unbroken unbroken

theorem feedLines_feed {line : Text} (unbroken : line.Unbroken) (rest : Text) :
    feedLines (line ++ '\n' :: rest) = line :: rest.feedLines :=
  splitOn_feed unbroken rest

theorem length_feedLines (t : Text) : t.feedLines.length = t.count '\n' + 1 :=
  length_splitOn _ t

theorem line_induction {motive : Text → Prop}
    (last : ∀ line : Text, line.Unbroken → motive line)
    (feed : ∀ line : Text, line.Unbroken → ∀ rest, motive rest → motive (line ++ '\n' :: rest))
    (t : Text) : motive t := by
  by_cases unbroken : t.Unbroken
  · exact last t unbroken
  · obtain ⟨line, rest, split, first⟩ := List.eq_append_cons_of_mem (not_not.1 unbroken)
    subst split
    exact feed line first rest (line_induction last feed rest)
termination_by t.length
decreasing_by
  subst split
  simp
  omega

end Text

namespace Pragma

/-- The line opens the path of a pragma and does not close it. -/
def LeavesOpen (line : Text) : Prop :=
  ∃ l p rest, Form l p ∧ line = p.opening ++ rest ∧ '"' ∉ rest

/-- A path with forward slashes, and if it lies below the directory, without that and the slash in
front. -/
def Shortened (directory path short : Text) : Prop :=
  directory ≠ [] ∧ normalPath path = directory ++ '/' :: short ∨
    (directory = [] ∨ ¬ directory ++ ['/'] <+: normalPath path) ∧ short = normalPath path

/-- What becomes of a line: a pragma that it begins with gets another path, and all else stays. -/
inductive Relativized (directory : Text) : Text → Text → Prop
  | pragma {l : Language} {p : Parts} {short : Text} (form : Form l p)
      (shortened : Shortened directory p.path short) (rest : Text) :
      Relativized directory (p.source ++ rest) ({ p with path := short }.source ++ rest)
  | other {line : Text} (none : ∀ l p, Form l p → ¬ p.source <+: line) :
      Relativized directory line line

theorem Relativized.eq_of_head {directory line written : Text}
    (relativized : Relativized directory line written) (plain : line.head? ≠ some '#') :
    written = line := by
  cases relativized with
  | other => rfl
  | pragma form => cases form <;> exact absurd rfl plain

theorem shortened_relativeTo (directory path : Text) :
    Shortened directory path (relativeTo directory path) := by
  unfold relativeTo Shortened
  by_cases none : directory = []
  · subst none
    exact .inr ⟨.inl rfl, rfl⟩
  have some : directory.isEmpty = false := by simpa using none
  simp only [some, Bool.false_eq_true, if_false]
  cases found : Text.afterStart (directory ++ ['/']) (normalPath path) with
  | some rest =>
    refine .inl ⟨none, ?_⟩
    rw [Text.afterStart_eq_some_iff.1 found, List.append_assoc]
    rfl
  | none =>
    refine .inr ⟨.inr ?_, rfl⟩
    rintro ⟨rest, split⟩
    rw [← split, Text.afterStart_append] at found
    cases found

section Forms

variable {l : Language} {p : Parts}

theorem IsNumber.notMem {n : Text} (number : IsNumber n) {c : Char}
    (other : Text.isDecimal c = false) : c ∉ n := by
  intro inside
  rw [number.2 c inside] at other
  cases other

theorem Form.opening_ne_nil (form : Form l p) : p.opening ≠ [] := by
  cases form <;> exact List.cons_ne_nil _ _

theorem Form.unbroken (form : Form l p) : p.opening.Unbroken ∧ p.closing.Unbroken := by
  cases form with
  | line number =>
    have digits : Text.Unbroken _ := number.notMem (c := '\n') (by decide +kernel)
    exact ⟨(Text.Unbroken.append (by decide) digits).append (by decide),
      show Text.Unbroken ['"'] by decide⟩
  | externalSource number =>
    have digits : Text.Unbroken _ := number.notMem (c := '\n') (by decide +kernel)
    exact ⟨show Text.Unbroken "#ExternalSource(\"".toList by decide,
      (Text.Unbroken.append (by decide) digits).append (by decide)⟩

theorem Form.count_opening (form : Form l p) : p.opening.count '"' = 1 := by
  cases form with
  | line number =>
    have digits := List.count_eq_zero.2 (number.notMem (c := '"') (by decide +kernel))
    rw [List.count_append, List.count_append, digits]
    decide
  | externalSource => exact show "#ExternalSource(\"".toList.count '"' = 1 by decide

theorem Form.mem_closing (form : Form l p) : '"' ∈ p.closing := by
  cases form <;> simp

theorem Form.quoted (form : Form l p) : '"' ∉ p.path := by
  cases form <;> assumption

theorem Form.withPath (form : Form l p) {path : Text} (quoted : '"' ∉ path) :
    Form l { p with path := path } := by
  cases form with
  | line number => exact .line number quoted
  | externalSource number => exact .externalSource number quoted

end Forms

section Closed

variable {l : Language} {p : Parts} {directory line tail : Text}

theorem exists_behind {front back rest : Text} (unbroken : front.Unbroken)
    (same : front ++ back = line ++ '\n' :: rest) :
    ∃ behind, line = front ++ behind ∧ back = behind ++ '\n' :: rest := by
  rcases List.append_eq_append_iff.1 same with ⟨behind, split, split'⟩ | ⟨behind, split, split'⟩
  · exact ⟨behind, split, split'⟩
  · cases behind with
    | nil => exact ⟨[], by simpa using split.symm, split'.symm⟩
    | cons c behind =>
      obtain ⟨rfl, -⟩ := List.cons.inj split'
      exact absurd (split ▸ List.mem_append_right line List.mem_cons_self) unbroken

theorem Form.source_prefix_iff (form : Form l p) (closed : ¬ LeavesOpen line)
    (ends : ∀ c ∈ tail.head?, c = '\n') : p.source <+: line ++ tail ↔ p.source <+: line := by
  refine ⟨fun starts => ?_, fun starts => starts.trans (List.prefix_append line tail)⟩
  rcases List.prefix_or_prefix_of_prefix starts (List.prefix_append line tail) with
    within | ⟨beyond, split⟩
  · exact within
  cases beyond with
  | nil => exact ⟨[], by rw [← split, List.append_nil, List.append_nil]⟩
  | cons c beyond =>
    rw [← split, List.prefix_append_right_inj] at starts
    obtain ⟨_, rfl⟩ := starts
    cases ends c rfl
    rw [Parts.source, List.append_assoc] at split
    obtain ⟨rest, opened, behind⟩ := exists_behind form.unbroken.1 split.symm
    refine absurd ⟨l, p, rest, form, opened, fun quote => ?_⟩ closed
    rcases List.append_eq_append_iff.1 behind with ⟨more, rfl, closing⟩ | ⟨more, path, -⟩
    · exact form.unbroken.2 (closing ▸ List.mem_append_right more List.mem_cons_self)
    · exact form.quoted (path ▸ List.mem_append_left more quote)

theorem first?_line (closed : ¬ LeavesOpen line) (ends : ∀ c ∈ tail.head?, c = '\n') :
    first? l (line ++ tail) = first? l line := by
  refine Option.ext fun p => ?_
  rw [first?_eq_some_iff, first?_eq_some_iff]
  exact and_congr_right fun form => form.source_prefix_iff closed ends

end Closed

section Lines

variable {l : Language} {directory line : Text}

theorem relativize_eq (directory t : Text) : relativize directory t =
    relativizeWith (first? .visualBasic) directory
      (relativizeWith (first? .csharp) directory t) := rfl

def relativizeLine (l : Language) (directory line : Text) : Text :=
  match first? l line with
  | some p => { p with path := relativeTo directory p.path }.source ++ line.drop p.source.length
  | none => line

theorem relativizeLine_pragma {p : Parts} (form : Form l p) (rest : Text) :
    relativizeLine l directory (p.source ++ rest) =
      { p with path := relativeTo directory p.path }.source ++ rest := by
  have found : first? l (p.source ++ rest) = some p :=
    (first?_eq_some_iff l).2 ⟨form, List.prefix_append ..⟩
  simp only [relativizeLine, found, List.drop_left]

theorem relativizeLine_none (none : first? l line = none) :
    relativizeLine l directory line = line := by
  simp only [relativizeLine, none]

theorem relativizeFrom_closed (unbroken : line.Unbroken) (closed : ¬ LeavesOpen line)
    {tail : Text} (ends : ∀ c ∈ tail.head?, c = '\n') :
    relativizeFrom (first? l) directory true 0 (line ++ tail) =
      relativizeLine l directory line ++ relativizeFrom (first? l) directory false 0 tail := by
  have same : first? l (line ++ tail) = first? l line := first?_line closed ends
  cases found : first? l line with
  | none =>
    rw [relativizeFrom_none (same.trans found), relativizeFrom_append unbroken,
      relativizeLine_none found]
  | some p =>
    obtain ⟨form, rest, rfl⟩ := (first?_eq_some_iff l).1 found
    rw [List.append_assoc] at same ⊢
    rw [relativizeFrom_found form.opening_ne_nil (same.trans found), relativizeLine_pragma form,
      relativizeFrom_append (Text.unbroken_append_iff.1 unbroken).2, List.append_assoc]

theorem unbroken_relativizeLine (unbroken : line.Unbroken) :
    (relativizeLine l directory line).Unbroken := by
  cases found : first? l line with
  | none => rwa [relativizeLine_none found]
  | some p =>
    obtain ⟨form, rest, rfl⟩ := (first?_eq_some_iff l).1 found
    rw [relativizeLine_pragma form]
    simp only [Parts.source, Text.unbroken_append_iff] at unbroken ⊢
    obtain ⟨⟨⟨opening, path⟩, closing⟩, behind⟩ := unbroken
    exact ⟨⟨⟨opening, unbroken_relativeTo path⟩, closing⟩, behind⟩

theorem feedLines_relativizeWith (l : Language) {t : Text}
    (closed : ∀ line ∈ t.feedLines, ¬ LeavesOpen line) :
    (relativizeWith (first? l) directory t).feedLines =
      t.feedLines.map (relativizeLine l directory) := by
  unfold relativizeWith
  induction t using Text.line_induction with
  | last line unbroken =>
    rw [Text.feedLines_unbroken unbroken] at closed ⊢
    have only : relativizeFrom (first? l) directory true 0 (line ++ []) =
        relativizeLine l directory line ++ [] :=
      relativizeFrom_closed unbroken (closed line List.mem_cons_self) fun c head => nomatch head
    rw [List.append_nil, List.append_nil] at only
    rw [only, Text.feedLines_unbroken (unbroken_relativizeLine unbroken), List.map_singleton]
  | feed line unbroken rest ih =>
    rw [Text.feedLines_feed unbroken] at closed ⊢
    obtain ⟨first, others⟩ := List.forall_mem_cons.1 closed
    have whole : relativizeFrom (first? l) directory true 0 (line ++ '\n' :: rest) =
        relativizeLine l directory line ++
          '\n' :: relativizeFrom (first? l) directory true 0 rest :=
      relativizeFrom_closed unbroken first fun c head => (Option.some.inj head).symm
    rw [whole, Text.feedLines_feed (unbroken_relativizeLine unbroken), ih others, List.map_cons]

theorem first?_eq_none_iff : first? l line = none ↔ ∀ p, Form l p → ¬ p.source <+: line := by
  simp [Option.eq_none_iff_forall_ne_some, first?_eq_some_iff]

theorem LeavesOpen.count (leavesOpen : LeavesOpen line) : line.count '"' = 1 := by
  obtain ⟨l, p, rest, form, rfl, quoted⟩ := leavesOpen
  rw [List.count_append, form.count_opening, List.count_eq_zero.2 quoted]

theorem closed_relativizeLine (closed : ¬ LeavesOpen line) :
    ¬ LeavesOpen (relativizeLine l directory line) := by
  cases found : first? l line with
  | none => rwa [relativizeLine_none found]
  | some p =>
    obtain ⟨form, rest, rfl⟩ := (first?_eq_some_iff l).1 found
    rw [relativizeLine_pragma form]
    intro leavesOpen
    have marks := leavesOpen.count
    have closing := List.count_pos_iff.2 form.mem_closing
    simp only [Parts.source, List.count_append, form.count_opening] at marks
    omega

theorem Form.not_prefix {p q : Parts} (first : Form .csharp p) (second : Form .visualBasic q)
    (rest : Text) : ¬ q.source <+: p.source ++ rest := by
  rintro ⟨behind, same⟩
  cases first
  cases second
  cases same

theorem relativized_relativizeLine (directory line : Text) :
    Relativized directory line
      (relativizeLine .visualBasic directory (relativizeLine .csharp directory line)) := by
  have changed (l : Language) {p : Parts} (form : Form l p) (rest : Text) :
      Relativized directory (p.source ++ rest) (relativizeLine l directory (p.source ++ rest)) := by
    rw [relativizeLine_pragma form]
    exact .pragma form (shortened_relativeTo directory p.path) rest
  cases found : first? .csharp line with
  | some p =>
    obtain ⟨form, rest, rfl⟩ := (first?_eq_some_iff .csharp).1 found
    have written : Form .csharp { p with path := relativeTo directory p.path } :=
      form.withPath fun quote => (mem_relativeTo quote).elim form.quoted (by decide)
    have none : first? .visualBasic (relativizeLine .csharp directory (p.source ++ rest)) = none := by
      rw [relativizeLine_pragma form]
      exact first?_eq_none_iff.2 fun q other => written.not_prefix other rest
    rw [relativizeLine_none none]
    exact changed .csharp form rest
  | none =>
    rw [relativizeLine_none found]
    cases found' : first? .visualBasic line with
    | some p =>
      obtain ⟨form, rest, rfl⟩ := (first?_eq_some_iff .visualBasic).1 found'
      exact changed .visualBasic form rest
    | none =>
      rw [relativizeLine_none found']
      refine .other fun l => ?_
      cases l with
      | csharp => exact first?_eq_none_iff.1 found
      | visualBasic => exact first?_eq_none_iff.1 found'

theorem forall₂_relativize {t : Text} (closed : ∀ line ∈ t.feedLines, ¬ LeavesOpen line) :
    List.Forall₂ (Relativized directory) t.feedLines (relativize directory t).feedLines := by
  have first : (relativizeWith (first? .csharp) directory t).feedLines =
      t.feedLines.map (relativizeLine .csharp directory) := feedLines_relativizeWith .csharp closed
  have still : ∀ line ∈ (relativizeWith (first? .csharp) directory t).feedLines,
      ¬ LeavesOpen line := by
    rw [first]
    exact List.forall_mem_map.2 fun line inside => closed_relativizeLine (closed line inside)
  rw [relativize_eq, feedLines_relativizeWith .visualBasic still, first, List.map_map]
  exact List.forall₂_map_right_iff.2
    (List.forall₂_same.2 fun line _ => relativized_relativizeLine directory line)

end Lines

section Counts

variable {directory : Text}

theorem count_normalPath (path : Text) : (normalPath path).count '\n' = path.count '\n' := by
  rw [normalPath, Text.replaceChar, List.count_eq_countP, List.countP_map, List.count_eq_countP]
  refine List.countP_congr fun c _ => ?_
  by_cases back : c = '\\'
  · subst back
    decide
  · simp [back]

theorem count_relativeTo (single : directory.Unbroken) (path : Text) :
    (relativeTo directory path).count '\n' = path.count '\n' := by
  rw [← count_normalPath path]
  rcases shortened_relativeTo directory path with ⟨-, below⟩ | ⟨-, whole⟩
  · rw [below, List.count_append, List.count_eq_zero.2 single, List.count_cons_of_ne (by decide),
      Nat.zero_add]
  · rw [whole]

theorem count_relativizeFrom (l : Language) (single : directory.Unbroken) (start : Bool) (t : Text) :
    (relativizeFrom (first? l) directory start 0 t).count '\n' = t.count '\n' := by
  match t with
  | [] => rfl
  | c :: t =>
    have behind : (relativizeFrom (first? l) directory false 0 (c :: t)).count '\n' =
        (c :: t).count '\n' := by
      have further : relativizeFrom (first? l) directory false 0 (c :: t) =
        c :: relativizeFrom (first? l) directory (c == '\n') 0 t := rfl
      rw [further, List.count_cons, List.count_cons, count_relativizeFrom l single _ t]
    cases start with
    | false => exact behind
    | true =>
      cases found : first? l (c :: t) with
      | none => rw [relativizeFrom_none found, behind]
      | some p =>
        obtain ⟨form, rest, split⟩ := (first?_eq_some_iff l).1 found
        have full := form.opening_ne_nil
        rw [← split] at found ⊢
        have shorter : rest.length < (c :: t).length := by
          rw [← split, List.length_append, Parts.source, List.length_append, List.length_append]
          have := List.length_pos_iff.2 full
          omega
        -- The path may go on over several lines; making it relative keeps their line feeds.
        rw [relativizeFrom_found full found, List.count_append, List.count_append,
          count_relativizeFrom l single false rest]
        simp only [Parts.source, List.count_append, count_relativeTo single]
termination_by t.length
decreasing_by
  · exact Nat.lt_succ_self t.length
  · exact shorter

theorem length_feedLines_relativize (single : directory.Unbroken) (t : Text) :
    (relativize directory t).feedLines.length = t.feedLines.length := by
  rw [Text.length_feedLines, Text.length_feedLines, relativize_eq, relativizeWith, relativizeWith,
    count_relativizeFrom .visualBasic single, count_relativizeFrom .csharp single]

end Counts

end Pragma

namespace Customization

open Pragma

/-- The number of lines stays if the directory has no line feed. Where no line leaves a path open,
whatever the directory, pragmas are given other paths line by line, and nothing else changes. -/
theorem mutateText_relativizePragmas (profile base : Text) :
    ∃ c, build profile "rewrite_line_pragmas".toList [("base_dir".toList, .text base)] = .ok c ∧
      ∀ t, ∃ written, c.mutateText t = .done c written ∧
        (base.Unbroken → written.feedLines.length = t.feedLines.length) ∧
        ((∀ line ∈ t.feedLines, ¬ LeavesOpen line) →
          List.Forall₂ (Relativized (normalDirectory base)) t.feedLines written.feedLines) := by
  refine ⟨.relativizePragmas (normalDirectory base), rfl, fun t => ?_⟩
  refine ⟨relativize (normalDirectory base) t, rfl, fun single => ?_, forall₂_relativize⟩
  have directory : (normalDirectory base).Unbroken := fun broken =>
    (mem_normalPath (mem_normalDirectory broken)).2.elim single (by decide)
  exact length_feedLines_relativize directory t

def closedPragmas : Text :=
  "#line 7 \"C:\\w\\a\\b\"\"c\\d\"\n\\e #line 8 \"C:\\w\\f\"\n".toList ++
    "#ExternalSource(\"D:\\w\",9) \\".toList

theorem mutateText_relativizePragmas_closed :
    (∀ line ∈ closedPragmas.feedLines, ¬ LeavesOpen line) ∧ Text.Unbroken "C:\\w\\".toList ∧
    ∃ c, build [] "rewrite_line_pragmas".toList [("base_dir".toList, .text "C:\\w\\".toList)] =
        .ok c ∧
      ∃ written, c.mutateText closedPragmas = .done c written ∧ written.feedLines.length = 3 ∧
        List.Forall₂ (Relativized "C:/w".toList) closedPragmas.feedLines written.feedLines := by
  have marks : ∀ line ∈ closedPragmas.feedLines, line.count '"' ≠ 1 := by decide +kernel
  have closed : ∀ line ∈ closedPragmas.feedLines, ¬ LeavesOpen line := fun line inside leavesOpen =>
    marks line inside leavesOpen.count
  have single : Text.Unbroken "C:\\w\\".toList := by decide
  obtain ⟨c, built, does⟩ := mutateText_relativizePragmas [] "C:\\w\\".toList
  obtain ⟨written, done, lines, each⟩ := does closedPragmas
  exact ⟨closed, single, c, built, written, done, lines single, each closed⟩

def openPath : Text := "#line 1 \"a\n\\b\"".toList

/-- The second line is changed, although it does not begin with a pragma. -/
theorem mutateText_openPath :
    let written : Text := "#line 1 \"a\n/b\"".toList
    mutateText (.relativizePragmas "/w".toList) openPath =
        .done (.relativizePragmas "/w".toList) written ∧
      ¬ List.Forall₂ (Relativized "/w".toList) openPath.feedLines written.feedLines := by
  intro written
  have before : openPath.feedLines = ["#line 1 \"a".toList, "\\b\"".toList] := by decide +kernel
  have after : written.feedLines = ["#line 1 \"a".toList, "/b\"".toList] := by decide +kernel
  refine ⟨?_, ?_⟩
  · have changed : relativize "/w".toList openPath = written := by decide +kernel
    rw [mutateText, changed]
  · rw [before, after]
    intro each
    have second := (List.forall₂_cons.1 (List.forall₂_cons.1 each).2).1
    exact absurd (second.eq_of_head (by decide)) (by decide)

end Customization

end TemplateCompiler
