import TemplateCompiler.Proofs.Language.Quoting

/-! A regular string literal of C#, read the way its lexer reads it. What is written for a text is
read as that text wherever it stands, so that no text ends its literal early or breaks its line. -/

namespace TemplateCompiler.CSharp

def simpleEscape? : Char → Option Char
  | '\\' => some '\\'
  | '"' => some '"'
  | 'n' => some '\n'
  | 'r' => some '\r'
  | 't' => some '\t'
  | '0' => some '\x00'
  | _ => none

/-- Reads up to the closing quote and gives what is left. -/
def readCharacters : Text → Option (Text × Text)
  | [] => none
  | '"' :: rest => some ([], rest)
  | '\\' :: 'u' :: a :: b :: c :: d :: rest =>
    (Text.hexNumber? [a, b, c, d]).bind fun n =>
      (readCharacters rest).map (Text.before (Text.charOfCode n))
  | '\\' :: c :: rest => (simpleEscape? c).bind fun d => (readCharacters rest).map (Text.before d)
  | c :: rest =>
    if c = '\\' ∨ Text.isTerminator c then none else (readCharacters rest).map (Text.before c)

def readLiteral : Text → Option (Text × Text)
  | '"' :: rest => readCharacters rest
  | _ => none

def escaped : List Char :=
  ['\\', '"', '\n', '\r', '\t', '\x00', '\u0085', '\u2028', '\u2029']

theorem escape_plain {c : Char} (plain : c ∉ escaped) : escape c = [c] := by
  simp only [escaped, List.mem_cons, List.not_mem_nil, or_false, not_or] at plain
  simp [escape, plain]

theorem readCharacters_escape (c : Char) (rest : Text) :
    readCharacters (escape c ++ rest) = (readCharacters rest).map (Text.before c) := by
  by_cases special : c ∈ escaped
  · simp only [escaped, List.mem_cons, List.not_mem_nil, or_false] at special
    rcases special with rfl | rfl | rfl | rfl | rfl | rfl | rfl | rfl | rfl <;> rfl
  · rw [escape_plain special]
    simp only [escaped, List.mem_cons, List.not_mem_nil, or_false, not_or] at special
    simp [readCharacters, Text.isTerminator, special]

theorem readCharacters_flatMap (v w : Text) :
    readCharacters (v.flatMap escape ++ '"' :: w) = some (v, w) := by
  induction v with
  | nil => rfl
  | cons c v ih =>
    rw [List.flatMap_cons, List.append_assoc, readCharacters_escape, ih]
    rfl

theorem readLiteral_string (v w : Text) :
    readLiteral (spelling.string v ++ w) = some (v, w) := by
  have written : spelling.string v ++ w = '"' :: (v.flatMap escape ++ '"' :: w) := by
    simp [Spelling.string, spelling]
  rw [written]
  exact readCharacters_flatMap v w

theorem escape_onLine (c : Char) : (escape c).any Text.isTerminator = false := by
  have each : escaped.all (fun c => !(escape c).any Text.isTerminator) = true := by decide
  by_cases special : c ∈ escaped
  · simpa using List.all_eq_true.1 each c special
  · rw [escape_plain special]
    simp only [escaped, List.mem_cons, List.not_mem_nil, or_false, not_or] at special
    simp [Text.isTerminator, special]

theorem string_onLine (v : Text) : (spelling.string v).any Text.isTerminator = false := by
  have characters : (v.flatMap escape).any Text.isTerminator = false := by
    simp [List.any_flatMap, escape_onLine]
  have quote : Text.isTerminator '"' = false := by decide
  simp [Spelling.string, spelling, characters, quote]

/-- What is written for a text is read as the text and nothing behind it is consumed. So a literal
neither ends early nor breaks its line, and code that begins with the literals of two texts begins
with the same one. The calls for template text and the arguments of attributes are read so. -/
theorem literals_read_back (v w : Text) :
    readLiteral (spelling.string v ++ w) = some (v, w) ∧
      (spelling.string v).any Text.isTerminator = false ∧
      (∀ v' w', spelling.string v ++ w = spelling.string v' ++ w' ↔ v = v' ∧ w = w') ∧
      (∀ line column, ∃ code,
        spelling.statementLines ⟨.literal, v, line, column⟩ = ["WriteLiteral(".toList ++ code] ∧
          readLiteral code = some (v, ");".toList)) ∧
      ∃ code, spelling.argument (.text v) = .ok code ∧ readLiteral (code ++ w) = some (v, w) := by
  refine ⟨readLiteral_string v w, string_onLine v, fun v' w' => ⟨fun same => ?_, ?_⟩,
    fun line column => ⟨spelling.string v ++ ");".toList, ?_, readLiteral_string v _⟩,
    spelling.string v, rfl, readLiteral_string v w⟩
  · have read := readLiteral_string v w
    rw [same, readLiteral_string v' w'] at read
    cases read
    exact ⟨rfl, rfl⟩
  · rintro ⟨rfl, rfl⟩
    rfl
  · simp [Spelling.statementLines, spelling]

/-- A backslash before a quote at the end of a text, where the code goes on like an escape. -/
example : readLiteral (spelling.string "\x00 \u2028\\\"".toList ++ "u0041\"".toList) =
    some ("\x00 \u2028\\\"".toList, "u0041\"".toList) := by decide

end TemplateCompiler.CSharp
