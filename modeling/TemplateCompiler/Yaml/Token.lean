import TemplateCompiler.Yaml.Scalar

/-! The tokens of a YAML text, and those that are read without regard to what is around them. -/

namespace TemplateCompiler.Yaml

inductive Token where
  | version (major : Nat)
  | handle (name start : Text)
  | otherDirective
  | documentStart
  | documentEnd
  | blockSequenceStart
  | blockMappingStart
  | blockEnd
  | flowSequenceStart
  | flowSequenceEnd
  | flowMappingStart
  | flowMappingEnd
  | flowEntry
  | blockEntry
  | key
  | value
  | alias (name : Text)
  | anchor (name : Text)
  | tag (handle : Option Text) (suffix : Text)
  | scalar (text : Text) (plain : Bool)
  /-- A quoted scalar with the number of no character, at which reading stops. -/
  | beyond (number : Nat)
deriving DecidableEq, Repr

def Token.beyond? : Token → Option Nat
  | .beyond n => some n
  | _ => none

def takeAnchor (c : Cursor) : Option (Text × Cursor) :=
  let (name, c) := c.takeWhile isWordChar
  if name.isEmpty then none
  else if atGap c.peek || c.peek.any "?:,]\x7d%@`".toList.contains then some (name, c)
  else none

def takeBytes : (fuel : Nat) → Cursor → Option (List UInt8 × Cursor)
  | 0, _ => none
  | fuel + 1, c =>
    match c.rest with
    | '%' :: a :: b :: _ =>
      (Text.hexNumber? [a, b]).bind fun n =>
        (takeBytes fuel (c.skip 3)).map fun (bytes, c) => (n.toUInt8 :: bytes, c)
    | '%' :: _ => none
    | _ => some ([], c)

def isUriChar (c : Char) : Bool := c.isAlphanum || "-;/?:@&=+$,_.!~*'()[]".toList.contains c

def takeUriFrom (decode : List UInt8 → Option Text) : (fuel : Nat) → Cursor →
    Option (Text × Cursor)
  | 0, _ => none
  | fuel + 1, c =>
    match c.peek with
    | none => some ([], c)
    | some ch =>
      if ch = '%' then do
        let (bytes, c) ← takeBytes (c.rest.length + 1) c
        let t ← decode bytes
        let (more, c) ← takeUriFrom decode fuel c
        return (t ++ more, c)
      else if isUriChar ch then
        (takeUriFrom decode fuel c.advance).map fun (more, c) => (ch :: more, c)
      else some ([], c)

def takeUri (decode : List UInt8 → Option Text) (c : Cursor) : Option (Text × Cursor) :=
  (takeUriFrom decode (c.rest.length + 1) c).bind fun (t, c) =>
    if t.isEmpty then none else some (t, c)

def takeHandle (c : Cursor) : Option (Text × Cursor) :=
  match c.rest with
  | '!' :: ' ' :: _ => some (['!'], c.advance)
  | '!' :: _ =>
    let (word, c) := c.advance.takeWhile isWordChar
    if c.peek = some '!' then some ('!' :: word ++ ['!'], c.advance) else none
  | _ => none

def takeTag (decode : List UInt8 → Option Text) (c : Cursor) : Option (Token × Cursor) := do
  let (token, c) ←
    if c.peekAt 1 = some '<' then do
      let (suffix, c) ← takeUri decode (c.skip 2)
      if c.peek = some '>' then pure (Token.tag none suffix, c.advance) else none
    else if atGap (c.peekAt 1) then pure (Token.tag none ['!'], c.advance)
    else do
      let word := c.rest.tail.takeWhile fun ch => !atSpaceOrEnd (some ch)
      let (handle, c) ← if word.contains '!' then takeHandle c else pure (['!'], c.advance)
      let (suffix, c) ← takeUri decode c
      pure (Token.tag (some handle) suffix, c)
  if atSpaceOrEnd c.peek then return (token, c) else none

def takeNumber (c : Cursor) : Option (Nat × Cursor) :=
  let (digits, c) := c.takeWhile Char.isDigit
  if digits.isEmpty then none
  else some (digits.foldl (fun n d => n * 10 + (d.toNat - 48)) 0, c)

def takeDirective (decode : List UInt8 → Option Text) (c : Cursor) : Option (Token × Cursor) := do
  let (name, c) := c.takeWhile isWordChar
  if name.isEmpty || !atSpaceOrEnd c.peek then none
  else if name = "YAML".toList then
    let (major, c) ← takeNumber (c.skipWhile isSpace)
    if c.peek ≠ some '.' then none
    else
      let (_, c) ← takeNumber c.advance
      if atSpaceOrEnd c.peek then return (.version major, ← c.finishLine) else none
  else if name = "TAG".toList then
    let (handle, c) ← takeHandle (c.skipWhile isSpace)
    if c.peek ≠ some ' ' then none
    else
      let (start, c) ← takeUri decode (c.skipWhile isSpace)
      if atSpaceOrEnd c.peek then return (.handle handle start, ← c.finishLine) else none
  else return (.otherDirective, ← c.skipToLineEnd.finishLine)

end TemplateCompiler.Yaml
