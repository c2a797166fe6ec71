import Mathlib.Algebra.Group.Nat.Defs
import Mathlib.Data.List.Induction
import TemplateCompiler.Proofs.Language.Quoting

/-! A string of Visual Basic, read the way its lexer and its compiler read it: literals and the
characters that are joined to them. Three characters are quotes, and two of them in a row inside a
literal stand for a straight one. The code doubles straight quotes only and joins only the line ends
of one byte, so that exactly the texts without the other two quotes and the other three line ends
are read back. -/

namespace TemplateCompiler.VisualBasic

def isCurlyQuote (c : Char) : Bool := c == '\u201c' || c == '\u201d'

def isQuote (c : Char) : Bool := c == '"' || isCurlyQuote c

theorem isQuote_straight : isQuote '"' = true := rfl

/-- The characters that end a line and are not joined. -/
def isWideTerminator (c : Char) : Bool := c == '\u0085' || c == '\u2028' || c == '\u2029'

/-- The characters that mean something in code or in a literal and are written as they are. -/
def isOverlooked (c : Char) : Bool := isCurlyQuote c || isWideTerminator c

def link? (t : Text) : Option (Char × Nat) :=
  (Text.afterStart joinOpening t).bind fun rest =>
    let digits := rest.takeWhile Char.isDigit
    (Text.afterStart ") & ".toList (rest.drop digits.length)).bind fun next =>
      (next.head?.filter isQuote).bind fun quote =>
        ((Text.number? digits).filter (· < 0x10000)).map fun n =>
          (Text.charOfCode n, (joinOpening ++ digits ++ ") & ".toList ++ [quote]).length)

/-- Reads up to the end of the last literal and gives what is left. `skip` characters belong to what
was read last. -/
def readFrom : Nat → Text → Option (Text × Text)
  | _, [] => none
  | skip + 1, _ :: rest => readFrom skip rest
  | 0, c :: rest =>
    if isQuote c then
      if rest.head?.any isQuote then (readFrom 1 rest).map (Text.before '"')
      else
        match link? rest with
        | some (d, length) => (readFrom length rest).map (Text.before d)
        | none => some ([], rest)
    else if Text.isTerminator c then none
    else (readFrom 0 rest).map (Text.before c)

def readString : Text → Option (Text × Text)
  | c :: rest => if isQuote c then readFrom 0 rest else none
  | [] => none

section Written

def escaped : List Char := ['"', '\n', '\r', '\t']

theorem escape_plain {c : Char} (plain : c ∉ escaped) : escape c = [c] := by
  simp only [escaped, List.mem_cons, List.not_mem_nil, or_false, not_or] at plain
  simp [escape, plain]

/-- What may follow a string so that the string does not go on. -/
def Ends (w : Text) : Prop := w.head?.any isQuote = false ∧ link? w = none

theorem readFrom_append (piece rest : Text) :
    readFrom piece.length (piece ++ rest) = readFrom 0 rest := by
  induction piece with
  | nil => rfl
  | cons c piece ih => exact ih

theorem link?_append {c : Char} (small : c.toNat < 0xD800) (rest : Text) :
    link? (joinOpening ++ (Text.ofNat c.toNat ++ (joinClosing ++ rest))) =
      some (c, (joinOpening ++ (Text.ofNat c.toNat ++ joinClosing)).length) := by
  have closing : joinClosing ++ rest = ") & ".toList ++ '"' :: rest := rfl
  have digits : (Text.ofNat c.toNat ++ (joinClosing ++ rest)).takeWhile Char.isDigit =
      Text.ofNat c.toNat := by
    rw [List.takeWhile_append_of_pos (Text.isDigit_ofNat _)]
    exact List.append_nil _
  have character : Text.charOfCode c.toNat = c := by
    have whole : Text.isSurrogateCode c.toNat = false := by
      simp only [Text.isSurrogateCode, Bool.and_eq_false_iff, decide_eq_false_iff_not]
      omega
    simp [Text.charOfCode, whole]
  have code : c.toNat < 0x10000 := by omega
  rw [link?, Text.afterStart_append]
  simp only [Option.bind_some, digits, List.drop_left]
  rw [closing, Text.afterStart_append]
  simp [Option.filter_some, isQuote_straight, Text.number?_ofNat, code, character, joinClosing]

theorem readFrom_joinedCharacter {c : Char} (small : c.toNat < 0xD800) (rest : Text) :
    readFrom 0 (joinedCharacter c ++ rest) = (readFrom 0 rest).map (Text.before c) := by
  have piece := readFrom_append (joinOpening ++ (Text.ofNat c.toNat ++ joinClosing)) rest
  have found := link?_append small rest
  have blank : (joinOpening ++ (Text.ofNat c.toNat ++ (joinClosing ++ rest))).head?.any isQuote =
      false := rfl
  simp only [List.append_assoc] at piece
  rw [joinedCharacter_eq, List.cons_append, List.append_assoc, List.append_assoc, readFrom,
    if_pos isQuote_straight, blank, found]
  exact congrArg (Option.map (Text.before c)) piece

theorem readFrom_escape {c : Char} (known : isOverlooked c = false) (rest : Text) :
    readFrom 0 (escape c ++ rest) = (readFrom 0 rest).map (Text.before c) := by
  by_cases special : c ∈ escaped
  · simp only [escaped, List.mem_cons, List.not_mem_nil, or_false] at special
    rcases special with rfl | rfl | rfl | rfl
    · rfl
    all_goals exact readFrom_joinedCharacter (by decide) rest
  · rw [escape_plain special, List.singleton_append, readFrom]
    simp only [escaped, List.mem_cons, List.not_mem_nil, or_false, not_or] at special
    simp only [isOverlooked, isWideTerminator, Bool.or_eq_false_iff] at known
    have inside : isQuote c = false := by simp [isQuote, special, known]
    have onLine : Text.isTerminator c = false := by simp [Text.isTerminator, special, known]
    rw [inside, onLine]
    rfl

theorem readFrom_flatMap {v w : Text} (known : v.any isOverlooked = false) (ends : Ends w) :
    readFrom 0 (v.flatMap escape ++ '"' :: w) = some (v, w) := by
  induction v with
  | nil => simp [readFrom, isQuote_straight, ends.1, ends.2]
  | cons c v ih =>
    rw [List.any_cons, Bool.or_eq_false_iff] at known
    rw [List.flatMap_cons, List.append_assoc, readFrom_escape known.1, ih known.2]
    rfl

end Written

section Read

/-! What a reading takes from the code. A reading gives back no curly quote but one that a joined
number stands for, and of such a number a digit five or eight is used up. No number without them
stands for one of these digits, so that a reading does not make up for what it loses. -/

def isMark (c : Char) : Bool := c == '5' || c == '8'

def marks (t : Text) : Nat := t.countP isMark

def curls (t : Text) : Nat := t.countP isCurlyQuote

theorem marks_append (s t : Text) : marks (s ++ t) = marks s + marks t := List.countP_append

theorem curls_cons (c : Char) (t : Text) : curls (c :: t) = curls [c] + curls t := by
  rw [← List.singleton_append]
  exact List.countP_append

theorem marks_cons (c : Char) (t : Text) : marks (c :: t) = marks [c] + marks t :=
  marks_append [c] t

theorem digitChar_of_isDigit {c : Char} (digit : c.isDigit = true) :
    c.toNat - '0'.toNat < 10 ∧ Nat.digitChar (c.toNat - '0'.toNat) = c := by
  have zero : '0'.toNat = 48 := rfl
  have nine : '9'.toNat = 57 := rfl
  rw [Char.isDigit_iff_toNat] at digit
  have small : c.toNat - '0'.toNat < 10 := by omega
  refine ⟨small, Char.toNat_inj.1 ?_⟩
  rw [Nat.toNat_digitChar_of_lt_ten small]
  omega

theorem mem_of_ofDigitChars {digits : Text} (each : ∀ c ∈ digits, c.isDigit = true) (place : Nat)
    (counts : Nat.ofDigitChars 10 digits 0 / 10 ^ place % 10 ≠ 0) :
    Nat.digitChar (Nat.ofDigitChars 10 digits 0 / 10 ^ place % 10) ∈ digits := by
  induction digits using List.reverseRecOn generalizing place with
  | nil => simp [Nat.ofDigitChars] at counts
  | append_singleton front c ih =>
    obtain ⟨small, same⟩ := digitChar_of_isDigit (each c (by simp))
    have others : ∀ d ∈ front, d.isDigit = true := fun d inside => each d (by simp [inside])
    have number : Nat.ofDigitChars 10 (front ++ [c]) 0 =
        10 * Nat.ofDigitChars 10 front 0 + (c.toNat - '0'.toNat) := by
      simp [Nat.ofDigitChars]
    rw [number] at counts ⊢
    cases place with
    | zero =>
      have last : (10 * Nat.ofDigitChars 10 front 0 + (c.toNat - '0'.toNat)) / 10 ^ 0 % 10 =
          c.toNat - '0'.toNat := by omega
      rw [last, same]
      simp
    | succ place =>
      have shorter : (10 * Nat.ofDigitChars 10 front 0 + (c.toNat - '0'.toNat)) / 10 ^ (place + 1) =
          Nat.ofDigitChars 10 front 0 / 10 ^ place := by
        rw [Nat.pow_succ', ← Nat.div_div_eq_div_mul]
        congr 1
        omega
      rw [shorter] at counts ⊢
      exact List.mem_append_left _ (ih others place counts)

theorem marks_pos {t : Text} {c : Char} (inside : c ∈ t) (mark : isMark c = true) : 1 ≤ marks t :=
  List.countP_pos_iff.2 ⟨c, inside, mark⟩

theorem charOfCode_toNat {n : Nat} (small : n < 0x10000) :
    (Text.charOfCode n).toNat = if 0xD800 ≤ n ∧ n < 0xE000 then n + 0xD1800 else n := by
  by_cases surrogate : 0xD800 ≤ n ∧ n < 0xE000
  · have code : Text.isSurrogateCode n = true := by simpa [Text.isSurrogateCode] using surrogate
    rw [if_pos surrogate, Text.charOfCode, if_pos code, Char.ofNat,
      dif_pos (by rw [Nat.isValidChar, Text.surrogateBase]; omega)]
    change Text.surrogateBase + (n - 0xD800) = _
    simp only [Text.surrogateBase]
    omega
  · have code : ¬Text.isSurrogateCode n = true := by simpa [Text.isSurrogateCode] using surrogate
    rw [if_neg surrogate, Text.charOfCode, if_neg code, Char.ofNat, dif_pos]
    · rfl
    · rw [Nat.isValidChar]
      omega

theorem marks_charOfCode {n : Nat} {digits : Text} (small : n < 0x10000)
    (number : Text.number? digits = some n) :
    marks [Text.charOfCode n] + curls [Text.charOfCode n] ≤ marks digits := by
  obtain ⟨-, each, rfl⟩ := Text.number?_eq_some_iff.1 number
  have digit := mem_of_ofDigitChars each
  have code := charOfCode_toNat small
  generalize Nat.ofDigitChars 10 digits 0 = n at *
  have same {c : Char} (found : Text.charOfCode n = c) (low : c.toNat < 0xD800) :
      n = c.toNat := by
    rw [found] at code
    split at code <;> omega
  by_cases five : Text.charOfCode n = '5'
  · obtain rfl : n = 53 := same five (by decide)
    exact marks_pos (digit 1 (by decide)) (by decide)
  by_cases eight : Text.charOfCode n = '8'
  · obtain rfl : n = 56 := same eight (by decide)
    exact marks_pos (digit 1 (by decide)) (by decide)
  by_cases left : Text.charOfCode n = '\u201c'
  · obtain rfl : n = 8220 := same left (by decide)
    exact marks_pos (digit 3 (by decide)) (by decide)
  by_cases right : Text.charOfCode n = '\u201d'
  · obtain rfl : n = 8221 := same right (by decide)
    exact marks_pos (digit 3 (by decide)) (by decide)
  simp [marks, curls, isMark, isCurlyQuote, five, eight, left, right]

theorem isTerminator_of_isDigit {c : Char} (digit : c.isDigit = true) :
    Text.isTerminator c = false := by
  refine Bool.eq_false_iff.2 fun ends => ?_
  simp only [Text.isTerminator, Bool.or_eq_true, beq_iff_eq] at ends
  rcases ends with (((rfl | rfl) | rfl) | rfl) | rfl <;> exact absurd digit (by decide)

theorem isTerminator_of_quote {c : Char} (quote : isQuote c = true) :
    Text.isTerminator c = false := by
  simp only [isQuote, isCurlyQuote, Bool.or_eq_true, beq_iff_eq] at quote
  rcases quote with rfl | rfl | rfl <;> rfl

theorem link?_taken {t : Text} {d : Char} {length : Nat} (found : link? t = some (d, length)) :
    (t.take length).any Text.isTerminator = false ∧
      marks [d] + curls [d] ≤ marks (t.take length) := by
  obtain ⟨rest, opening, found⟩ := Option.bind_eq_some_iff.1 found
  obtain ⟨next, closing, found⟩ := Option.bind_eq_some_iff.1 found
  obtain ⟨quote, first, found⟩ := Option.bind_eq_some_iff.1 found
  obtain ⟨n, number, linked⟩ := Option.map_eq_some_iff.1 found
  obtain ⟨first, quoted⟩ := Option.filter_eq_some_iff.1 first
  obtain ⟨number, small⟩ := Option.filter_eq_some_iff.1 number
  obtain ⟨more, rfl⟩ := List.head?_eq_some_iff.1 first
  cases linked
  rw [Text.afterStart_eq_some_iff] at opening closing
  obtain ⟨tail, whole⟩ := List.takeWhile_prefix (l := rest) Char.isDigit
  generalize rest.takeWhile Char.isDigit = digits at *
  have digits_rest : digits ++ rest.drop digits.length = rest := by
    rw [← whole, List.drop_left]
  have parts : t = joinOpening ++ digits ++ ") & ".toList ++ [quote] ++ more := by
    rw [opening, ← digits_rest, closing]
    simp only [List.append_assoc, List.singleton_append]
  have counted := marks_charOfCode (of_decide_eq_true small) number
  rw [parts, List.take_left]
  have openingOnLine : joinOpening.any Text.isTerminator = false := rfl
  have closingOnLine : (") & ".toList ++ [quote]).any Text.isTerminator = false := by
    rw [List.any_append, List.any_cons, isTerminator_of_quote quoted]
    rfl
  have numeralOnLine : digits.any Text.isTerminator = false :=
    List.any_eq_false.2 fun c inside => by
      simp [isTerminator_of_isDigit ((Text.number?_eq_some_iff.1 number).2.1 c inside)]
  constructor
  · rw [List.append_assoc, List.any_append, List.any_append, openingOnLine, closingOnLine,
      numeralOnLine]
    rfl
  · simp only [marks_append]
    omega

theorem map_before_eq_some_iff {read : Option (Text × Text)} {c : Char} {v w : Text} :
    read.map (Text.before c) = some (v, w) ↔ ∃ u, read = some (u, w) ∧ v = c :: u := by
  cases read with
  | none => simp
  | some read =>
    obtain ⟨u, rest⟩ := read
    simp only [Option.map_some, Text.before, Option.some.injEq, Prod.mk.injEq]
    constructor
    · rintro ⟨rfl, rfl⟩
      exact ⟨u, ⟨rfl, rfl⟩, rfl⟩
    · rintro ⟨_, ⟨rfl, rfl⟩, rfl⟩
      exact ⟨rfl, rfl⟩

theorem readFrom_taken {skip : Nat} {t v w : Text} (read : readFrom skip t = some (v, w)) :
    ∃ front, t.drop skip = front ++ w ∧ front.any Text.isTerminator = false ∧
      marks v + curls v ≤ marks front := by
  induction t generalizing skip v with
  | nil => simp [readFrom] at read
  | cons c rest ih =>
    cases skip with
    | succ skip => exact ih read
    | zero =>
      rw [readFrom] at read
      by_cases quote : isQuote c = true
      · have onLine := isTerminator_of_quote quote
        rw [if_pos quote] at read
        -- A quote is the first of two that stand for one, or begins a join, or ends the string.
        by_cases doubled : rest.head?.any isQuote = true
        · rw [if_pos doubled] at read
          obtain ⟨u, goes, rfl⟩ := map_before_eq_some_iff.1 read
          obtain ⟨front, found, others, kept⟩ := ih goes
          obtain ⟨d, second, rfl⟩ : ∃ d more, rest = d :: more := by
            cases rest with
            | nil => cases doubled
            | cons d more => exact ⟨d, more, rfl⟩
          have other := isTerminator_of_quote (c := d) doubled
          have straight : marks ['"'] + curls ['"'] = 0 := rfl
          refine ⟨c :: d :: front, ?_, by simp [onLine, other, others], ?_⟩
          · exact congrArg (fun rest => c :: d :: rest) found
          · rw [marks_cons '"' u, curls_cons '"' u, marks_cons c, marks_cons d]
            omega
        · rw [if_neg doubled] at read
          cases link : link? rest with
          | none =>
            rw [link] at read
            cases read
            exact ⟨[c], rfl, by simp [onLine], Nat.zero_le _⟩
          | some linked =>
            obtain ⟨d, length⟩ := linked
            rw [link] at read
            obtain ⟨u, goes, rfl⟩ := map_before_eq_some_iff.1 read
            obtain ⟨front, found, others, kept⟩ := ih goes
            obtain ⟨clean, used⟩ := link?_taken link
            refine ⟨c :: (rest.take length ++ front), ?_, by simp [onLine, clean, others], ?_⟩
            · rw [List.drop_zero, List.cons_append, List.append_assoc, ← found,
                List.take_append_drop]
            · rw [marks_cons d u, curls_cons d u, marks_cons c, marks_append]
              omega
      · rw [if_neg quote] at read
        by_cases onLine : Text.isTerminator c = true
        · rw [if_pos onLine] at read
          cases read
        · rw [if_neg onLine] at read
          obtain ⟨u, goes, rfl⟩ := map_before_eq_some_iff.1 read
          obtain ⟨front, found, others, kept⟩ := ih goes
          have straight : isCurlyQuote c = false := by
            simp only [isQuote, Bool.or_eq_true, not_or] at quote
            exact Bool.eq_false_iff.2 quote.2
          have none : curls [c] = 0 := by simp [curls, straight]
          refine ⟨c :: front, congrArg (c :: ·) found, by simp [onLine, others], ?_⟩
          rw [marks_cons c u, marks_cons c front, curls_cons c u]
          omega

end Read

section Strings

theorem any_escape (c : Char) : (escape c).any Text.isTerminator = isWideTerminator c := by
  have each : escaped.all (fun c =>
      (escape c).any Text.isTerminator == isWideTerminator c) = true := by decide
  by_cases special : c ∈ escaped
  · exact beq_iff_eq.1 (List.all_eq_true.1 each c special)
  · rw [escape_plain special]
    simp only [escaped, List.mem_cons, List.not_mem_nil, or_false, not_or] at special
    have feed : (c == '\n') = false := by simp [special]
    have carriage : (c == '\r') = false := by simp [special]
    rw [List.any_cons, Text.isTerminator, feed, carriage, List.any_nil, Bool.or_false]
    rfl

theorem any_string (v : Text) :
    (spelling.string v).any Text.isTerminator = v.any isWideTerminator := by
  have characters : (v.flatMap escape).any Text.isTerminator = v.any isWideTerminator := by
    simp only [List.any_flatMap, any_escape]
  have quote : Text.isTerminator '"' = false := rfl
  simp [Spelling.string, spelling, characters, quote]

theorem countP_string {p : Char → Bool}
    (outside : escaped.all (fun c => !p c && (escape c).countP p == 0) = true) (v : Text) :
    (spelling.string v).countP p = v.countP p := by
  have each_outside : ∀ c ∈ escaped, p c = false ∧ (escape c).countP p = 0 := by
    simpa using outside
  have each (c : Char) : (escape c).countP p = [c].countP p := by
    by_cases special : c ∈ escaped
    · obtain ⟨none, nowhere⟩ := each_outside c special
      simp [none, nowhere]
    · rw [escape_plain special]
  have quote : p '"' = false := (each_outside '"' (by simp [escaped])).1
  have characters : (v.flatMap escape).countP p = v.countP p := by
    induction v with
    | nil => rfl
    | cons c v ih =>
      rw [List.flatMap_cons, List.countP_append, each, ih, ← List.countP_append]
      rfl
  simp [Spelling.string, spelling, characters, quote]

theorem marks_string (v : Text) : marks (spelling.string v) = marks v :=
  countP_string (by decide) v

theorem count_string {quote : Char} (curly : isCurlyQuote quote = true) (v : Text) :
    (spelling.string v).count quote = v.count quote := by
  simp only [isCurlyQuote, Bool.or_eq_true, beq_iff_eq] at curly
  rcases curly with rfl | rfl
  · exact countP_string (by decide) v
  · exact countP_string (by decide) v

theorem any_isOverlooked (v : Text) :
    v.any isOverlooked = false ↔ v.any isCurlyQuote = false ∧ v.any isWideTerminator = false := by
  induction v with
  | nil => simp
  | cons c v ih =>
    simp only [List.any_cons, Bool.or_eq_false_iff, ih, isOverlooked]
    exact and_and_and_comm

theorem readString_string_iff {v w : Text} (ends : Ends w) :
    readString (spelling.string v ++ w) = some (v, w) ↔ v.any isOverlooked = false := by
  have written : spelling.string v ++ w = '"' :: (v.flatMap escape ++ '"' :: w) := by
    simp [Spelling.string, spelling]
  constructor
  · intro read
    rw [written, readString, if_pos isQuote_straight] at read
    obtain ⟨front, found, onLine, kept⟩ := readFrom_taken read
    rw [List.drop_zero] at found
    have consumed : spelling.string v = '"' :: front := by
      rw [← List.append_left_inj w, written, found, List.cons_append]
    have same := marks_string v
    have lines := any_string v
    rw [consumed, marks_cons] at same
    rw [consumed, List.any_cons, onLine] at lines
    have none : curls v = 0 := by omega
    exact (any_isOverlooked v).2 ⟨by simpa [curls] using none, lines.symm⟩
  · intro known
    rw [written, readString, if_pos isQuote_straight]
    exact readFrom_flatMap known ends

/-- A text is read back from what is written for it if and only if it has neither a curly quote nor
a line end that is not joined. Each of these characters stands in the string as often as in the
text. The calls for template text and the arguments of attributes are read so. -/
theorem strings_read_back (v : Text) :
    (readString (spelling.string v) = some (v, []) ↔ v.any isOverlooked = false) ∧
      (spelling.string v).any Text.isTerminator = v.any isWideTerminator ∧
      (spelling.string v).count '\u201c' = v.count '\u201c' ∧
      (spelling.string v).count '\u201d' = v.count '\u201d' ∧
      (∀ line column, ∃ code,
        spelling.statementLines ⟨.literal, v, line, column⟩ = ["WriteLiteral(".toList ++ code] ∧
          (readString code = some (v, [')']) ↔ v.any isOverlooked = false)) ∧
      ∃ code, spelling.argument (.text v) = .ok code ∧ ∀ rest,
        (readString (code ++ ')' :: rest) = some (v, ')' :: rest) ↔ v.any isOverlooked = false) ∧
        (readString (code ++ ", ".toList ++ rest) = some (v, ", ".toList ++ rest) ↔
          v.any isOverlooked = false) := by
  have alone : readString (spelling.string v) = some (v, []) ↔ v.any isOverlooked = false := by
    simpa using readString_string_iff (v := v) (w := []) ⟨rfl, rfl⟩
  refine ⟨alone, any_string v, count_string rfl v, count_string rfl v,
    fun line column => ⟨spelling.string v ++ [')'], ?_, readString_string_iff ⟨rfl, rfl⟩⟩,
    spelling.string v, rfl, fun rest => ⟨readString_string_iff ⟨rfl, rfl⟩, ?_⟩⟩
  · simp [Spelling.statementLines, spelling]
  · rw [List.append_assoc]
    exact readString_string_iff ⟨rfl, rfl⟩

/-- A line separator breaks the line of its literal, and a curly quote ends its literal early. -/
theorem overlooked_not_read :
    '\u2028' ∈ spelling.string "a\u2028b".toList ∧
      readString (spelling.string "a\u2028b".toList) = none ∧
      spelling.string "\u201ca".toList = "\"\u201ca\"".toList ∧
      readString (spelling.string "\u201ca".toList) = some ([], "a\"".toList) := by
  decide

end Strings

end TemplateCompiler.VisualBasic
