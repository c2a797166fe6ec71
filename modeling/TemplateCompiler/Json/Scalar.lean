import TemplateCompiler.Value

/-! The numbers and strings of JSON. Each reader takes the start of a text and gives what follows. -/

namespace TemplateCompiler.Json

def isBlankChar (c : Char) : Bool := c == ' ' || c == '\t' || c == '\n' || c == '\r'

def skipBlanks (t : Text) : Text := t.dropWhile isBlankChar

def isDigit (c : Char) : Bool := '0' ≤ c && c ≤ '9'

def digitsValue (digits : Text) : Nat := digits.foldl (fun n c => n * 10 + (c.toNat - 48)) 0

def readDigits : Text → Option (Text × Text)
  | [] => none
  | c :: rest =>
    if c = '0' then some (['0'], rest)
    else if isDigit c then some (c :: rest.takeWhile isDigit, rest.dropWhile isDigit)
    else none

def readFraction (t : Text) : Text × Text :=
  match t with
  | '.' :: rest =>
    if (rest.takeWhile isDigit).isEmpty then ([], t)
    else (rest.takeWhile isDigit, rest.dropWhile isDigit)
  | _ => ([], t)

def readExponentDigits (negative : Bool) (t : Text) : Option (Int × Text) :=
  let digits := t.takeWhile isDigit
  if digits.isEmpty then none
  else
    let n : Int := digitsValue digits
    some (if negative then -n else n, t.dropWhile isDigit)

def readExponent (t : Text) : Option (Int × Text) :=
  match t with
  | c :: rest =>
    if c = 'e' ∨ c = 'E' then
      match rest with
      | '+' :: rest => readExponentDigits false rest
      | '-' :: rest => readExponentDigits true rest
      | rest => readExponentDigits false rest
    else none
  | [] => none

inductive Problem where
  | malformed
  | longInteger
  | deep
deriving DecidableEq, Repr

/-- What is read at most: digits of a whole number, and levels of lists and mappings. -/
structure Limits where
  digits : Option Nat
  depth : Option Nat
deriving DecidableEq, Repr

def Limits.unlimited : Limits := ⟨none, none⟩

def exceeds (limit : Option Nat) (n : Nat) : Bool := limit.any (· < n)

def readUnsigned (limits : Limits) (negative : Bool) (t : Text) :
    Except Problem (Value × Text) :=
  match readDigits t with
  | none => .error .malformed
  | some (digits, rest) =>
    let (fraction, rest) := readFraction rest
    let float (e : Int) : Value :=
      .float (floatOfDecimal ⟨negative, digitsValue (digits ++ fraction), e - fraction.length⟩)
    match readExponent rest with
    | some (e, after) => .ok (float e, after)
    | none =>
      if !fraction.isEmpty then .ok (float 0, rest)
      else if exceeds limits.digits digits.length then .error .longInteger
      else
        let n : Int := digitsValue digits
        .ok (.int (if negative then -n else n), rest)

def readNumber (limits : Limits) : Text → Except Problem (Value × Text)
  | '-' :: rest => readUnsigned limits true rest
  | t => readUnsigned limits false t

def readUnit : Text → Option (Nat × Text)
  | a :: b :: c :: d :: rest => (Text.hexNumber? [a, b, c, d]).map fun n => (n, rest)
  | _ => none

/-- The character of a code unit and what follows it. Two surrogates that belong together are one
character. -/
def unitChar (unit : Nat) (rest : Text) : Char × Text :=
  match rest with
  | '\\' :: 'u' :: more =>
    match readUnit more with
    | some (low, after) =>
      if 0xD800 ≤ unit ∧ unit < 0xDC00 ∧ 0xDC00 ≤ low ∧ low < 0xE000 then
        (Char.ofNat (0x10000 + (unit - 0xD800) * 1024 + (low - 0xDC00)), after)
      else (Text.charOfCode unit, rest)
    | none => (Text.charOfCode unit, rest)
  | _ => (Text.charOfCode unit, rest)

def escapedChar? (c : Char) : Option Char :=
  [('"', '"'), ('\\', '\\'), ('/', '/'), ('b', '\x08'), ('f', '\x0c'), ('n', '\n'), ('r', '\r'),
    ('t', '\t')].lookup c

/-- The rest of a string whose opening quote was passed. `fuel` is at least the length of the
text. -/
def readString : (fuel : Nat) → Text → Option (Text × Text)
  | 0, _ => none
  | _ + 1, [] => none
  | _ + 1, '"' :: rest => some ([], rest)
  | fuel + 1, '\\' :: 'u' :: rest =>
    (readUnit rest).bind fun (unit, rest) =>
      let (c, rest) := unitChar unit rest
      (readString fuel rest).map fun (text, after) => (c :: text, after)
  | fuel + 1, '\\' :: c :: rest =>
    (escapedChar? c).bind fun c =>
      (readString fuel rest).map fun (text, after) => (c :: text, after)
  | fuel + 1, c :: rest =>
    if c.toNat < 0x20 ∨ c = '\\' then none
    else (readString fuel rest).map fun (text, after) => (c :: text, after)

end TemplateCompiler.Json
