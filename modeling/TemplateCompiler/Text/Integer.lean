import TemplateCompiler.Text.Basic

/-! Reading a whole number from a text, in a base. Blanks may stand around it and single
underscores between its digits. -/

namespace TemplateCompiler.Text

/-- The value of a decimal digit of any script. Its digits follow one another from zero to nine. -/
def digitValue? (c : Char) : Option Nat :=
  (decimalRanges.find? fun r => r.1 ≤ c.toNat && c.toNat ≤ r.2).map fun r => (c.toNat - r.1) % 10

def asciiNumeral (c : Char) : Char :=
  if c.toNat < 127 then c
  else if isBlankChar c then ' '
  else
    match digitValue? c with
    | some d => Nat.digitChar d
    | none => c

def asciiNumerals (t : Text) : Text := t.map asciiNumeral

def isNumberGap (c : Char) : Bool := c == ' ' || ('\t' ≤ c && c ≤ '\r')

inductive IntegerProblem where
  | invalid
  | tooLong (digits : Nat)
deriving DecidableEq, Repr

/-- The greatest number of decimal digits that are read or written. -/
def digitLimit : Nat := 4300

def baseMark? : Nat → Option Char
  | 2 => some 'b'
  | 8 => some 'o'
  | 16 => some 'x'
  | _ => none

def afterMark (base : Nat) (t : Text) : Text :=
  match t with
  | '0' :: c :: rest =>
    if baseMark? base = some c.toLower then
      match rest with
      | '_' :: rest => rest
      | rest => rest
    else t
  | _ => t

def digitIn? (base : Nat) (c : Char) : Option Nat :=
  (hexValue c).bind fun d => if d < base then some d else none

/-- Digits from here on, after the value and number of those before: the value and number of all,
and what follows. `gap` says that the last character was an underscore, which a digit has to
follow. -/
def digitsFrom (base value count : Nat) (gap : Bool) : Text → Option (Nat × Nat × Text)
  | [] => if gap then none else some (value, count, [])
  | c :: rest =>
    match digitIn? base c with
    | some d => digitsFrom base (value * base + d) (count + 1) false rest
    | none =>
      if c = '_' then if gap then none else digitsFrom base value count true rest
      else if gap then none
      else some (value, count, c :: rest)

/-- Whether so many digits are too many; those of a base that is a power of two never are. -/
def isTooLong (base count : Nat) : Bool := base == 10 && digitLimit < count

def natural (base : Nat) (t : Text) : Except IntegerProblem Nat :=
  match digitsFrom base 0 0 true (afterMark base t) with
  | none => .error .invalid
  | some (value, count, rest) =>
    if isTooLong base count then .error (.tooLong count)
    else if (rest.dropWhile isNumberGap).isEmpty then .ok value
    else .error .invalid

def integer (base : Nat) (t : Text) : Except IntegerProblem Int :=
  match (asciiNumerals t).dropWhile isNumberGap with
  | '-' :: rest => (natural base rest).map fun n => -(n : Int)
  | '+' :: rest => (natural base rest).map Int.ofNat
  | rest => (natural base rest).map Int.ofNat

end TemplateCompiler.Text
