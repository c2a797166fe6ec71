import TemplateCompiler.Language.CSharp
import TemplateCompiler.Language.VisualBasic

/-! Reading what the languages write inside a string literal, and the numbers in their code. Each
reader undoes its writer. -/

namespace TemplateCompiler

namespace Text

def between? (start stop t : Text) : Option Text :=
  (afterStart start t).bind fun rest =>
    if stop.isSuffixOf rest then some (rest.take (rest.length - stop.length)) else none

@[simp] theorem afterStart_append (start t : Text) : afterStart start (start ++ t) = some t := by
  induction start with
  | nil => rfl
  | cons c start ih => simp [afterStart, ih]

theorem afterStart_eq_some_iff {start t rest : Text} :
    afterStart start t = some rest ↔ t = start ++ rest := by
  constructor
  · intro found
    induction start generalizing t with
    | nil => exact Option.some.inj found
    | cons c start ih =>
      cases t with
      | nil => cases found
      | cons d t =>
        rw [afterStart] at found
        split at found
        · next same => rw [same, ih found, List.cons_append]
        · cases found
  · rintro rfl
    exact afterStart_append start rest

theorem between?_append (start t stop : Text) :
    between? start stop (start ++ (t ++ stop)) = some t := by
  simp [between?]

def number? (t : Text) : Option Nat :=
  if t.isEmpty then none
  else if t.all Char.isDigit then some (Nat.ofDigitChars 10 t 0) else none

def integer? : Text → Option Int
  | '-' :: t => (number? t).map fun n => -(n : Int)
  | t => (number? t).map fun n => (n : Int)

theorem isDigit_ofNat (n : Nat) : ∀ c ∈ ofNat n, c.isDigit = true := fun _ inside =>
  Nat.isDigit_of_mem_toDigits (by decide) (by decide) inside

theorem number?_eq_some_iff {t : Text} {n : Nat} :
    number? t = some n ↔ t ≠ [] ∧ (∀ c ∈ t, c.isDigit = true) ∧ Nat.ofDigitChars 10 t 0 = n := by
  cases t <;> simp [number?]

theorem number?_ofNat (n : Nat) : number? (ofNat n) = some n := by
  have digits : (ofNat n).all Char.isDigit = true := List.all_eq_true.2 (isDigit_ofNat n)
  have some : (ofNat n).isEmpty = false := by simp [ofNat]
  rw [number?, some, digits, ofNat, Nat.ofDigitChars_toDigits (by decide) (by decide)]
  rfl

theorem mem_ofInt {i : Int} {c : Char} (inside : c ∈ ofInt i) : c = '-' ∨ c.isDigit = true := by
  cases i with
  | ofNat n => exact .inr (isDigit_ofNat n c inside)
  | negSucc n =>
    rcases List.mem_cons.1 inside with sign | digit
    · exact .inl sign
    · exact .inr (isDigit_ofNat (n + 1) c digit)

theorem ofInt_apart (i : Int) {stop : Char} (apart : stop ≠ '-') (other : stop.isDigit = false) :
    ∀ c ∈ ofInt i, (c != stop) = true := by
  intro c inside
  refine bne_iff_ne.2 ?_
  rintro rfl
  rcases mem_ofInt inside with sign | digit
  · exact apart sign
  · simp [other] at digit

theorem integer?_ofInt (i : Int) : integer? (ofInt i) = some i := by
  cases i with
  | ofNat n =>
    have unsigned : ∀ rest, ofNat n ≠ '-' :: rest := by
      intro rest same
      have digit := isDigit_ofNat n '-' (by simp [same])
      revert digit
      decide
    rw [ofInt, integer?, number?_ofNat]
    · rfl
    · exact unsigned
  | negSucc n =>
    rw [ofInt, integer?, number?_ofNat]
    rfl

/-- The characters that end a line of code, in either language. -/
def isTerminator (c : Char) : Bool :=
  c == '\r' || c == '\n' || c == '\u0085' || c == '\u2028' || c == '\u2029'

def before (c : Char) (read : Text × Text) : Text × Text := (c :: read.1, read.2)

end Text

namespace CSharp

def hexCharacter (t : Text) : Char := Char.ofNat ((Text.hexNumber? t).getD 0)

def named : Char → Char
  | 'n' => '\n'
  | 'r' => '\r'
  | 't' => '\t'
  | '0' => '\x00'
  | c => c

def unescape : Text → Text
  | '\\' :: 'u' :: a :: b :: c :: d :: rest => hexCharacter [a, b, c, d] :: unescape rest
  | '\\' :: c :: rest => named c :: unescape rest
  | c :: rest => c :: unescape rest
  | [] => []

theorem unescape_escape (c : Char) (rest : Text) :
    unescape (escape c ++ rest) = c :: unescape rest := by
  unfold escape
  by_cases h₁ : c = '\\'
  · subst h₁; rfl
  by_cases h₂ : c = '"'
  · subst h₂; rfl
  by_cases h₃ : c = '\n'
  · subst h₃; rfl
  by_cases h₄ : c = '\r'
  · subst h₄; rfl
  by_cases h₅ : c = '\t'
  · subst h₅; rfl
  by_cases h₆ : c = '\x00'
  · subst h₆; rfl
  by_cases h₇ : c = '\u0085'
  · subst h₇; rfl
  by_cases h₈ : c = '\u2028'
  · subst h₈; rfl
  by_cases h₉ : c = '\u2029'
  · subst h₉; rfl
  simp [h₁, h₂, h₃, h₄, h₅, h₆, h₇, h₈, h₉, unescape]

theorem unescape_flatMap (t : Text) : unescape (t.flatMap escape) = t := by
  induction t with
  | nil => rfl
  | cons c t ih => rw [List.flatMap_cons, unescape_escape, ih]

end CSharp

namespace VisualBasic

def joinOpening : Text := " & Global.Microsoft.VisualBasic.ChrW(".toList

def joinClosing : Text := ") & \"".toList

/-- The character that is joined here, after the end of a literal, and the length of the piece up
to where the next literal goes on. -/
def joined? (t : Text) : Option (Char × Nat) :=
  (Text.afterStart joinOpening t).bind fun rest =>
    let digits := rest.takeWhile Char.isDigit
    if joinClosing.isPrefixOf (rest.drop digits.length) then
      (Text.number? digits).map fun n =>
        (Char.ofNat n, joinOpening.length + digits.length + joinClosing.length)
    else none

/-- `skip` characters belong to what was read last. -/
def unescapeFrom : Nat → Text → Text
  | _, [] => []
  | skip + 1, _ :: rest => unescapeFrom skip rest
  | 0, c :: rest =>
    if c = '"' then
      match joined? rest with
      | some (d, length) => d :: unescapeFrom length rest
      | none => c :: unescapeFrom 1 rest
    else c :: unescapeFrom 0 rest

def unescape (t : Text) : Text := unescapeFrom 0 t

theorem unescapeFrom_append (piece rest : Text) :
    unescapeFrom piece.length (piece ++ rest) = unescapeFrom 0 rest := by
  induction piece with
  | nil => rfl
  | cons c piece ih => exact ih

theorem joined?_append (c : Char) (rest : Text) :
    joined? (joinOpening ++ (Text.ofNat c.toNat ++ (joinClosing ++ rest))) =
      some (c, (joinOpening ++ (Text.ofNat c.toNat ++ joinClosing)).length) := by
  have digits : (Text.ofNat c.toNat ++ (joinClosing ++ rest)).takeWhile Char.isDigit =
      Text.ofNat c.toNat := by
    rw [List.takeWhile_append_of_pos (Text.isDigit_ofNat _)]
    exact List.append_nil _
  have closing : joinClosing.isPrefixOf (joinClosing ++ rest) = true :=
    List.isPrefixOf_iff_prefix.2 (List.prefix_append _ _)
  rw [joined?, Text.afterStart_append]
  simp only [Option.bind_some, digits, List.drop_left, closing, if_true, Text.number?_ofNat,
    Option.map_some, Char.ofNat_toNat, List.length_append, Nat.add_assoc]

theorem joinedCharacter_eq (c : Char) :
    joinedCharacter c = '"' :: (joinOpening ++ (Text.ofNat c.toNat ++ joinClosing)) := by
  have opening : "\" & Global.Microsoft.VisualBasic.ChrW(".toList = '"' :: joinOpening := by
    decide +kernel
  unfold joinedCharacter
  rw [opening, List.append_assoc]
  rfl

theorem unescapeFrom_joinedCharacter (c : Char) (rest : Text) :
    unescapeFrom 0 (joinedCharacter c ++ rest) = c :: unescapeFrom 0 rest := by
  have piece := unescapeFrom_append (joinOpening ++ (Text.ofNat c.toNat ++ joinClosing)) rest
  have found := joined?_append c rest
  simp only [List.append_assoc] at piece
  rw [joinedCharacter_eq, List.cons_append, List.append_assoc, List.append_assoc, unescapeFrom,
    if_pos rfl, found]
  exact congrArg (c :: ·) piece

theorem unescapeFrom_escape (c : Char) (rest : Text) :
    unescapeFrom 0 (escape c ++ rest) = c :: unescapeFrom 0 rest := by
  unfold escape
  by_cases quote : c = '"'
  · subst quote
    rfl
  rw [if_neg quote]
  split
  · exact unescapeFrom_joinedCharacter c rest
  · rw [List.singleton_append, unescapeFrom, if_neg quote]

theorem unescape_flatMap (t : Text) : unescape (t.flatMap escape) = t := by
  unfold unescape
  induction t with
  | nil => rfl
  | cons c t ih => rw [List.flatMap_cons, unescapeFrom_escape, ih]

end VisualBasic

end TemplateCompiler
