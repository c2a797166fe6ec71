import TemplateCompiler.Text.Letters

/-! Text is a list of characters. This module has the operations on it that every other part
uses: trimming, splitting into lines, replacing, joining and writing numbers. -/

namespace TemplateCompiler

abbrev Text := List Char

namespace Text

/-- The characters that trimming removes: the Unicode white space and the four information
separators. -/
def blankRanges : CodeRanges :=
  [(0x9, 0xD), (0x1C, 0x20), (0x85, 0x85), (0xA0, 0xA0), (0x1680, 0x1680), (0x2000, 0x200A),
    (0x2028, 0x2029), (0x202F, 0x202F), (0x205F, 0x205F), (0x3000, 0x3000)]

def isBlankChar (c : Char) : Bool := blankRanges.has c

def isBlank (t : Text) : Bool := t.all isBlankChar

def trimLeft (t : Text) : Text := t.dropWhile isBlankChar

def dropEndWhile (p : Char → Bool) (t : Text) : Text := (t.reverse.dropWhile p).reverse

def trimRight (t : Text) : Text := t.dropEndWhile isBlankChar

def trim (t : Text) : Text := trimRight (trimLeft t)

def isLineEnd (c : Char) : Bool :=
  c == '\n' || c == '\r' || c == '\x0b' || c == '\x0c' || c == '\x1c' || c == '\x1d' ||
    c == '\x1e' || c == '\u0085' || c == '\u2028' || c == '\u2029'

/-- Lines without their ends; a carriage return and line feed together are one end, and a last
line that is empty does not count. `line` holds the current line, last character first, and
`afterReturn` says that the character before was a carriage return. -/
def linesFrom (line : Text) (afterReturn : Bool) : Text → List Text
  | [] => if line.isEmpty then [] else [line.reverse]
  | c :: rest =>
    if c = '\n' ∧ afterReturn then linesFrom [] false rest
    else if isLineEnd c then line.reverse :: linesFrom [] (c == '\r') rest
    else linesFrom (c :: line) false rest

def lines (t : Text) : List Text := linesFrom [] false t

def splitOn (isSeparator : Char → Bool) : Text → List Text
  | [] => [[]]
  | c :: rest =>
    match splitOn isSeparator rest with
    | [] => [[c]]
    | piece :: pieces =>
      if isSeparator c then [] :: piece :: pieces else (c :: piece) :: pieces

def afterStart : Text → Text → Option Text
  | [], t => some t
  | _ :: _, [] => none
  | s :: start, c :: t => if s = c then afterStart start t else none

/-- Replaces from left to right; `skip` characters of the last occurrence are still to be
passed. -/
def replaceFrom (old new : Text) : Nat → Text → Text
  | _, [] => []
  | skip + 1, _ :: rest => replaceFrom old new skip rest
  | 0, c :: rest =>
    if old.isPrefixOf (c :: rest) then new ++ replaceFrom old new (old.length - 1) rest
    else c :: replaceFrom old new 0 rest

def replace (old new t : Text) : Text := replaceFrom old new 0 t

def replaceChar (old new : Char) (t : Text) : Text := t.map fun c => if c = old then new else c

def joinWith (separator : Text) : List Text → Text
  | [] => []
  | [t] => t
  | t :: u :: rest => t ++ separator ++ joinWith separator (u :: rest)

def ofNat (n : Nat) : Text := Nat.toDigits 10 n

def ofInt : Int → Text
  | .ofNat n => ofNat n
  | .negSucc n => '-' :: ofNat (n + 1)

def hexDigit (n : Nat) : Char := Nat.digitChar n

def hex : (width n : Nat) → Text
  | 0, _ => []
  | width + 1, n => hex width (n / 16) ++ [hexDigit (n % 16)]

def hexValue (c : Char) : Option Nat :=
  if '0' ≤ c ∧ c ≤ '9' then some (c.toNat - 48)
  else if 'a' ≤ c ∧ c ≤ 'f' then some (c.toNat - 87)
  else if 'A' ≤ c ∧ c ≤ 'F' then some (c.toNat - 55)
  else none

def hexNumber? (t : Text) : Option Nat :=
  if t.isEmpty then none
  else t.foldlM (fun n c => (hexValue c).map (n * 16 + ·)) 0

end Text

/-- A place in a text, counted from one. -/
structure Position where
  line : Nat
  column : Nat
deriving DecidableEq, Repr

namespace Position

def start : Position := ⟨1, 1⟩

def next (p : Position) (c : Char) : Position :=
  if c = '\n' then ⟨p.line + 1, 1⟩ else ⟨p.line, p.column + 1⟩

def after (p : Position) (t : Text) : Position := t.foldl next p

end Position

end TemplateCompiler
