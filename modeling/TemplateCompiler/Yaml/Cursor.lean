import TemplateCompiler.Text.Basic

/-! A place in a YAML text, and the classes of characters that decide where things end. -/

namespace TemplateCompiler.Yaml

def isBreak (c : Char) : Bool :=
  c == '\n' || c == '\u0085' || c == '\u2028' || c == '\u2029'

def isSpace (c : Char) : Bool := c == ' '

def isSpaceOrTab (c : Char) : Bool := c == ' ' || c == '\t'

def atLineEnd (c : Option Char) : Bool := c.all isBreak

def atSpaceOrEnd (c : Option Char) : Bool := c.all fun c => isSpace c || isBreak c

def atGap (c : Option Char) : Bool := c.all fun c => isSpaceOrTab c || isBreak c

def isWordChar (c : Char) : Bool := c.isAlphanum || c == '-' || c == '_'

structure Cursor where
  rest : Text
  index : Nat
  line : Nat
  column : Nat
deriving DecidableEq, Repr

namespace Cursor

def start (t : Text) : Cursor := ⟨t, 0, 0, 0⟩

def peek (c : Cursor) : Option Char := c.rest.head?

def peekAt (c : Cursor) (n : Nat) : Option Char := c.rest[n]?

/-- Passes one character. A byte-order mark takes no column. -/
def advance (c : Cursor) : Cursor :=
  match c.rest with
  | [] => c
  | ch :: rest =>
    if isBreak ch then ⟨rest, c.index + 1, c.line + 1, 0⟩
    else ⟨rest, c.index + 1, c.line, if ch = '\ufeff' then c.column else c.column + 1⟩

def skip : (n : Nat) → Cursor → Cursor
  | 0, c => c
  | n + 1, c => skip n c.advance

def takeWhile (p : Char → Bool) (c : Cursor) : Text × Cursor :=
  let t := c.rest.takeWhile p
  (t, c.skip t.length)

def skipWhile (p : Char → Bool) (c : Cursor) : Cursor := (c.takeWhile p).2

def skipToLineEnd (c : Cursor) : Cursor := c.skipWhile fun ch => !isBreak ch

/-- Passes the end of a line. Only the two separators are kept as they are. -/
def takeBreak (c : Cursor) : Option (Char × Cursor) :=
  match c.peek with
  | some ch =>
    if ch = '\n' ∨ ch = '\u0085' then some ('\n', c.advance)
    else if isBreak ch then some (ch, c.advance)
    else none
  | none => none

def startsWith (c : Cursor) (t : Text) : Bool := t.isPrefixOf c.rest

def atMarker (c : Cursor) : Bool :=
  (c.startsWith "---".toList || c.startsWith "...".toList) && atGap (c.peekAt 3)

def finishLine (c : Cursor) : Option Cursor :=
  let c := c.skipWhile isSpace
  let c := if c.peek = some '#' then c.skipToLineEnd else c
  if atLineEnd c.peek then some (((c.takeBreak).map Prod.snd).getD c) else none

end Cursor

end TemplateCompiler.Yaml
