import TemplateCompiler.Proofs.Language.RoundTrip
import TemplateCompiler.Proofs.Template.Location
import TemplateCompiler.Proofs.Text.Returns
import TemplateCompiler.Template.Unit

/-! How the code of a template is written: line by line and indented, where not only line feeds and
carriage returns begin a line but also eight other characters. -/

namespace TemplateCompiler

namespace Text

/-- The text with a line feed for every carriage return and for both together. -/
def feeds (t : Text) : Text := replaceChar '\r' '\n' t.withoutReturns

/-- The text with a line feed for every line end. -/
def allFeeds (t : Text) : Text := t.withoutReturns.map fun c => if isLineEnd c then '\n' else c

def isOtherEnd (c : Char) : Bool := isLineEnd c && c != '\n' && c != '\r'

def emptied (t : Text) : Text :=
  joinWith ['\n'] ((splitOn (· == '\n') t).map fun line => if line.isBlank then [] else line)

section Pieces

theorem length_splitOn (p : Char → Bool) (t : Text) : (splitOn p t).length = t.countP p + 1 := by
  induction t with
  | nil => rfl
  | cons c t ih =>
    rw [splitOn]
    split
    · next none => exact absurd none (splitOn_ne_nil p t)
    · next piece pieces some =>
      rw [some] at ih
      cases separates : p c <;> simp_all

theorem splitOn_unbroken {line : Text} (unbroken : line.Unbroken) :
    splitOn (· == '\n') line = [line] := by
  induction line with
  | nil => rfl
  | cons c line ih =>
    obtain ⟨other, others⟩ := unbroken_cons_iff.1 unbroken
    rw [splitOn, ih others]
    simp [other]

theorem splitOn_feed {line : Text} (unbroken : line.Unbroken) (rest : Text) :
    splitOn (· == '\n') (line ++ '\n' :: rest) = line :: splitOn (· == '\n') rest := by
  refine splitOn_append rfl (fun c inside => ?_) rest
  exact beq_false_of_ne fun feed => unbroken (feed ▸ inside)

theorem unbroken_splitOn (t : Text) : ∀ piece ∈ splitOn (· == '\n') t, piece.Unbroken := by
  induction t with
  | nil => simp [splitOn, unbroken_nil]
  | cons c t ih =>
    rw [splitOn]
    split
    · next none => exact absurd none (splitOn_ne_nil _ t)
    · next piece pieces some =>
      rw [some] at ih
      obtain ⟨first, others⟩ := List.forall_mem_cons.1 ih
      split
      · exact List.forall_mem_cons.2 ⟨unbroken_nil, ih⟩
      · next other =>
        exact List.forall_mem_cons.2 ⟨unbroken_cons_iff.2 ⟨by simpa using other, first⟩, others⟩

theorem splitOn_joinWith {pieces : List Text} (some : pieces ≠ [])
    (unbroken : ∀ piece ∈ pieces, piece.Unbroken) :
    splitOn (· == '\n') (joinWith ['\n'] pieces) = pieces := by
  induction pieces with
  | nil => exact absurd rfl some
  | cons piece pieces ih =>
    obtain ⟨first, others⟩ := List.forall_mem_cons.1 unbroken
    cases pieces with
    | nil => exact splitOn_unbroken first
    | cons next pieces =>
      rw [joinWith, List.append_assoc, List.singleton_append, splitOn_feed first,
        ih (by simp) others]

theorem splitOn_emptied (t : Text) : splitOn (· == '\n') t.emptied =
    (splitOn (· == '\n') t).map fun line => if line.isBlank then [] else line := by
  refine splitOn_joinWith (by simp [splitOn_ne_nil]) (List.forall_mem_map.2 fun piece inside => ?_)
  split
  · exact unbroken_nil
  · exact unbroken_splitOn t piece inside

theorem count_emptied (t : Text) : t.emptied.count '\n' = t.count '\n' := by
  have pieces := congrArg List.length t.splitOn_emptied
  rw [List.length_map, length_splitOn, length_splitOn] at pieces
  exact Nat.succ.inj pieces

end Pieces

section Lines

def dropFeed : Text → Text
  | '\n' :: t => t
  | t => t

theorem withoutReturns_return (t : Text) :
    withoutReturns ('\r' :: t) =
      (if t.head? = some '\n' then '\n' else '\r') :: t.dropFeed.withoutReturns := by
  cases t with
  | nil => rfl
  | cons c t =>
    by_cases feed : c = '\n'
    · subst feed
      rfl
    · have kept : dropFeed (c :: t) = c :: t := by simp [dropFeed, feed]
      rw [kept, withoutReturns, replace, replaceFrom, if_neg]
      · simp [feed, withoutReturns, replace]
      · simp [List.isPrefixOf, Ne.symm feed]

theorem withoutReturns_cons {c : Char} (other : c ≠ '\r') (t : Text) :
    withoutReturns (c :: t) = c :: t.withoutReturns := by
  rw [withoutReturns, replace, replaceFrom, if_neg]
  · rfl
  · simp [List.isPrefixOf, Ne.symm other]

theorem allFeeds_return (t : Text) : allFeeds ('\r' :: t) = '\n' :: t.dropFeed.allFeeds := by
  rw [allFeeds, withoutReturns_return, List.map_cons]
  split <;> rfl

theorem allFeeds_cons {c : Char} (other : c ≠ '\r') (t : Text) :
    allFeeds (c :: t) = (if isLineEnd c then '\n' else c) :: t.allFeeds := by
  rw [allFeeds, withoutReturns_cons other, List.map_cons, ← allFeeds]

theorem linesFrom_return (t : Text) : linesFrom [] true t = linesFrom [] false t.dropFeed := by
  cases t with
  | nil => rfl
  | cons c t =>
    by_cases feed : c = '\n'
    · subst feed
      rfl
    · simp [linesFrom, dropFeed, feed]

theorem length_dropFeed_le (t : Text) : t.dropFeed.length ≤ t.length := by
  unfold dropFeed
  split <;> simp

theorem isLineEnd_return : isLineEnd '\r' = true := rfl

/-- The last character of a text is no line end. -/
def Closes (t : Text) : Prop := ∃ c, t.getLast? = some c ∧ isLineEnd c = false

theorem not_isLineEnd_of_visible {c : Char} (visible : isBlankChar c = false) :
    isLineEnd c = false := by
  refine Bool.eq_false_iff.2 fun ends => Bool.eq_false_iff.1 visible ?_
  simp only [isLineEnd, Bool.or_eq_true, beq_iff_eq, or_assoc] at ends
  rcases ends with rfl | rfl | rfl | rfl | rfl | rfl | rfl | rfl | rfl | rfl <;> rfl

theorem Closes.behind {front t : Text} {c : Char} (closes : Closes (front ++ c :: t))
    (ends : isLineEnd c = true) : t.Closes := by
  obtain ⟨d, last, other⟩ := closes
  rw [List.getLast?_append_cons] at last
  cases t with
  | nil =>
    cases last
    simp [ends] at other
  | cons e t => exact ⟨d, by rwa [List.getLast?_cons_cons] at last, other⟩

theorem Closes.dropFeed {t : Text} (closes : t.Closes) : t.dropFeed.Closes := by
  unfold Text.dropFeed
  split
  · exact @Closes.behind [] _ _ closes rfl
  · exact closes

theorem linesFrom_eq_splitOn {line t : Text} (unbroken : line.Unbroken)
    (closes : Closes (line.reverse ++ t)) :
    linesFrom line false t = splitOn (· == '\n') (line.reverse ++ t.allFeeds) := by
  -- On the length, since a carriage return and the feed behind it go in one step.
  induction size : t.length using Nat.strongRecOn generalizing line t with
  | ind n ih =>
    have reversed : Unbroken line.reverse := by simpa [Unbroken] using unbroken
    cases t with
    | nil =>
      have full : line.isEmpty = false := by
        obtain ⟨c, last, -⟩ := closes
        cases line with
        | nil => cases last
        | cons c line => rfl
      have nothing : allFeeds [] = [] := rfl
      rw [nothing, List.append_nil, splitOn_unbroken reversed, linesFrom, full]
      rfl
    | cons c t =>
      rw [List.length_cons] at size
      have shorter : t.length < n := by omega
      rw [linesFrom, if_neg (by simp)]
      by_cases carriage : c = '\r'
      · subst carriage
        have without : (dropFeed t).length < n := (length_dropFeed_le t).trans_lt shorter
        rw [if_pos isLineEnd_return, allFeeds_return, splitOn_feed reversed]
        refine congrArg (line.reverse :: ·) ((linesFrom_return t).trans ?_)
        exact ih _ without unbroken_nil (closes.behind isLineEnd_return).dropFeed rfl
      · rw [allFeeds_cons carriage]
        by_cases ends : isLineEnd c = true
        · have single : (c == '\r') = false := by simpa using carriage
          rw [if_pos ends, if_pos ends, splitOn_feed reversed, single]
          exact congrArg (line.reverse :: ·)
            (ih _ shorter unbroken_nil (closes.behind ends) rfl)
        · have other : c ≠ '\n' := by
            rintro rfl
            exact ends rfl
          rw [if_neg ends, if_neg ends,
            ih _ shorter (unbroken_cons_iff.2 ⟨other, unbroken⟩) (by simpa using closes) rfl]
          simp

theorem lines_eq_splitOn {t : Text} (closes : t.Closes) :
    t.lines = splitOn (· == '\n') t.allFeeds :=
  linesFrom_eq_splitOn unbroken_nil closes

end Lines

section Counts

theorem countP_withoutReturns {p : Char → Bool} (feed : p '\n' = false) (carriage : p '\r' = false)
    (t : Text) : t.withoutReturns.countP p = t.countP p := by
  match t with
  | [] => rfl
  | c :: t =>
    by_cases same : c = '\r'
    · subst same
      have shorter := length_dropFeed_le t
      have dropped : (dropFeed t).countP p = t.countP p := by
        unfold dropFeed
        split <;> simp [feed]
      have first : p (if t.head? = some '\n' then '\n' else '\r') = false := by
        split
        · exact feed
        · exact carriage
      rw [withoutReturns_return, List.countP_cons, first, countP_withoutReturns feed carriage,
        dropped, List.countP_cons, carriage]
    · rw [withoutReturns_cons same, List.countP_cons, countP_withoutReturns feed carriage,
        List.countP_cons]
termination_by t.length

theorem isLineEnd_eq (c : Char) : isLineEnd c = (c == '\n' || c == '\r' || isOtherEnd c) := by
  by_cases feed : c = '\n'
  · subst feed
    rfl
  by_cases carriage : c = '\r'
  · subst carriage
    rfl
  · rw [isOtherEnd, bne, bne, beq_false_of_ne feed, beq_false_of_ne carriage]
    simp

theorem count_allFeeds (t : Text) :
    t.allFeeds.count '\n' = t.feeds.count '\n' + t.countP isOtherEnd := by
  have feed : isOtherEnd '\n' = false := rfl
  have carriage : isOtherEnd '\r' = false := rfl
  rw [← countP_withoutReturns feed carriage, allFeeds, feeds, replaceChar]
  induction t.withoutReturns with
  | nil => rfl
  | cons c t ih =>
    rw [List.map_cons, List.map_cons, List.count_cons, List.count_cons, List.countP_cons, ih,
      isLineEnd_eq]
    by_cases feed : c = '\n'
    · subst feed
      simp [isOtherEnd]
      omega
    by_cases carriage : c = '\r'
    · subst carriage
      simp [isOtherEnd]
      omega
    · cases isOtherEnd c <;> simp [feed, carriage]
      omega

theorem allFeeds_eq_feeds {t : Text} (none : t.any isOtherEnd = false) : t.allFeeds = t.feeds := by
  have nowhere : t.withoutReturns.countP isOtherEnd = 0 := by
    rw [countP_withoutReturns rfl rfl]
    simpa using none
  refine List.map_congr_left fun c inside => ?_
  have other : isOtherEnd c = false := by
    simpa using List.countP_eq_zero.1 nowhere c inside
  rw [isLineEnd_eq, other]
  by_cases feed : c = '\n' <;> simp [feed]

end Counts

end Text

namespace Spelling

/-- The lines of code as they are written. -/
def codeLines (text : Text) : List Text := (Text.splitOn (· == '\n') text.allFeeds).map bodyLine

def unindented (lines : List Text) : Text :=
  Text.joinWith ['\n'] (lines.map fun line => line.drop bodyIndent.length)

theorem unindented_codeLines (text : Text) :
    unindented (codeLines text) = text.allFeeds.emptied := by
  have each (line : Text) :
      (bodyLine line).drop bodyIndent.length = if line.isBlank then [] else line := by
    unfold bodyLine
    split
    · rfl
    · exact List.drop_left
  rw [unindented, codeLines, List.map_map]
  exact congrArg (Text.joinWith ['\n']) (List.map_congr_left fun line _ => each line)

theorem length_codeLines (text : Text) :
    (codeLines text).length = text.feeds.count '\n' + text.countP Text.isOtherEnd + 1 := by
  rw [codeLines, List.length_map, Text.length_splitOn, ← Text.count_allFeeds]
  rfl

theorem unindented_eq_iff (text : Text) :
    unindented (codeLines text) = text.feeds.emptied ↔ text.any Text.isOtherEnd = false := by
  rw [unindented_codeLines]
  constructor
  · intro same
    have count := congrArg (List.count '\n') same
    rw [Text.count_emptied, Text.count_emptied, Text.count_allFeeds] at count
    have none : text.countP Text.isOtherEnd = 0 := by omega
    simpa using none
  · intro none
    rw [Text.allFeeds_eq_feeds none]

end Spelling

namespace Template

theorem closes_of_code {t : Text} {s : Statement} (inside : s ∈ statements t)
    (code : s.kind = .code) : s.text.Closes := by
  obtain ⟨x, -, stated⟩ := mem_statements_code inside (by simp [code])
  obtain ⟨text, full, -⟩ := mem_codeStatement stated
  obtain ⟨c, last⟩ : ∃ c, s.text.getLast? = some c := ⟨_, List.getLast?_eq_some_getLast full⟩
  refine ⟨c, last, Text.not_isLineEnd_of_visible ?_⟩
  rw [text] at last
  exact Text.getLast_trim x.2.inside c last

theorem statementBody_code (l : Language) (source : Text) (pragmas : Bool) {t : Text}
    {s : Statement} (inside : s ∈ statements t) (code : s.kind = .code) :
    l.spelling.statementBody source pragmas s =
      if pragmas then
        l.spelling.pragmaOpen source s.line :: Spelling.codeLines s.text ++ l.spelling.pragmaClose
      else Spelling.codeLines s.text := by
  have lines : (l.spelling.statementLines s).map Spelling.bodyLine = Spelling.codeLines s.text := by
    rw [Spelling.statementLines, code, Text.lines_eq_splitOn (closes_of_code inside code)]
    rfl
  rw [Spelling.statementBody, lines]

/-- In the code of a template every statement of code takes the lines of its text, one for each line
feed, carriage return or other line end in it and one more, indented and between its pragmas if
there are any. They are the lines that feeds and returns end if and only if no other character that
ends a line is in the text. -/
theorem code_statements_rendered (l : Language) (host : HostDefaults) (names : UnitNames)
    (t : Text) :
    ∃ front back,
      l.render (compileUnit host names t) = .ok (Text.unlines (front ++ (statements t).flatMap
        (l.spelling.statementBody names.sourceFile names.linePragmas) ++ back)) ∧
      ∀ s ∈ statements t, s.kind = .code → ∃ lines,
        l.spelling.statementBody names.sourceFile names.linePragmas s =
          (if names.linePragmas then
            l.spelling.pragmaOpen names.sourceFile s.line :: lines ++ l.spelling.pragmaClose
          else lines) ∧
        lines = (Text.splitOn (· == '\n') s.text.allFeeds).map Spelling.bodyLine ∧
        Spelling.unindented lines = s.text.allFeeds.emptied ∧
        lines.length = s.text.feeds.count '\n' + s.text.countP Text.isOtherEnd + 1 ∧
        (Spelling.unindented lines = s.text.feeds.emptied ↔
          s.text.any Text.isOtherEnd = false) := by
  let u := compileUnit host names t
  let frame := l.frame u []
  let imports := l.reading.importLines u.imports.names
  refine ⟨frame.opening ++ imports ++ frame.middle ++ [frame.last], frame.closing, ?_,
    fun s inside code => ⟨Spelling.codeLines s.text, ?_, rfl, Spelling.unindented_codeLines s.text,
      Spelling.length_codeLines s.text, Spelling.unindented_eq_iff s.text⟩⟩
  · have laid : l.renderLines u = .ok (l.layout u []) :=
      Language.renderLines_eq_ok_iff.2
        ⟨[], rfl, Language.checkBaseType_eq_ok_iff.2 fun _ => rfl, rfl⟩
    rw [Language.render, laid, l.layout_eq, Reading.Frame.lines]
    refine congrArg (fun lines => Except.ok (Text.unlines lines)) ?_
    simp only [List.append_assoc, List.singleton_append]
    rfl
  · exact statementBody_code l names.sourceFile names.linePragmas inside code

/-- A form feed in code begins a new line. -/
theorem formFeed_splits_code :
    statements "@\x7b a\x0cb \x7d".toList = [⟨.code, "a\x0cb".toList, 1, 3⟩] ∧
      Language.csharp.spelling.statementBody [] false ⟨.code, "a\x0cb".toList, 1, 3⟩ =
        ["            a".toList, "            b".toList] ∧
      Spelling.unindented ["            a".toList, "            b".toList] ≠
        (Text.feeds "a\x0cb".toList).emptied := by
  decide +kernel

end Template

end TemplateCompiler
