import TemplateCompiler.Text.Surrogate
import TemplateCompiler.Yaml.Cursor

/-! The texts of YAML scalars: quoted, plain and in blocks. Line ends inside a scalar are folded:
one becomes a space, more keep all but the first. -/

namespace TemplateCompiler.Yaml

def foldBreaks (lineBreak : Char) (more : Text) : Text :=
  if lineBreak ≠ '\n' then lineBreak :: more else if more.isEmpty then [' '] else more

/-- Empty lines inside a quoted scalar, in which no document may begin or end. `fuel` is more than
the number of characters. -/
def quotedBreaks : (fuel : Nat) → Cursor → Option (Text × Cursor)
  | 0, _ => none
  | fuel + 1, c =>
    if c.atMarker then none
    else
      let c := c.skipWhile isSpaceOrTab
      match c.takeBreak with
      | some (lineBreak, c) => (quotedBreaks fuel c).map fun (more, c) => (lineBreak :: more, c)
      | none => some ([], c)

def quotedSpaces (fuel : Nat) (c : Cursor) : Option (Text × Cursor) :=
  let (spaces, c) := c.takeWhile isSpaceOrTab
  match c.takeBreak with
  | some (lineBreak, c) =>
    (quotedBreaks fuel c).map fun (more, c) => (foldBreaks lineBreak more, c)
  | none => some (spaces, c)

def escapes : List (Char × Char) :=
  [('0', '\x00'), ('a', '\x07'), ('b', '\x08'), ('t', '\t'), ('\t', '\t'), ('n', '\n'),
    ('v', '\x0b'), ('f', '\x0c'), ('r', '\r'), ('e', '\x1b'), (' ', ' '), ('"', '"'),
    ('\\', '\\'), ('/', '/'), ('N', '\u0085'), ('_', '\u00a0'), ('L', '\u2028'),
    ('P', '\u2029')]

def escapeWidth? (c : Char) : Option Nat := [('x', 2), ('u', 4), ('U', 8)].lookup c

def takeHex (width : Nat) (c : Cursor) : Option (Nat × Cursor) :=
  let digits := c.rest.take width
  if digits.length < width then none
  else (Text.hexNumber? digits).map fun n => (n, c.skip width)

inductive QuoteProblem where
  | malformed
  | beyond (number : Nat)
deriving DecidableEq, Repr

def orMalformed {α : Type} (found : Option α) : Except QuoteProblem α :=
  match found with
  | some a => .ok a
  | none => .error .malformed

def takeCode (width : Nat) (c : Cursor) : Except QuoteProblem (Text × Cursor) :=
  match takeHex width c with
  | none => .error .malformed
  | some (n, c) => if 0x110000 ≤ n then .error (.beyond n) else .ok ([Text.charOfCode n], c)

def takeEscape (fuel : Nat) (c : Cursor) : Except QuoteProblem (Text × Cursor) :=
  match c.peek with
  | none => .error .malformed
  | some ch =>
    match escapes.lookup ch, escapeWidth? ch with
    | some e, _ => .ok ([e], c.advance)
    | none, some width => takeCode width c.advance
    | none, none =>
      match c.takeBreak with
      | some (_, c) => orMalformed (quotedBreaks fuel c)
      | none => .error .malformed

def takeQuoted (double : Bool) : (fuel : Nat) → Cursor → Except QuoteProblem (Text × Cursor)
  | 0, _ => .error .malformed
  | fuel + 1, c =>
    let piece : Except QuoteProblem (Text × Cursor) :=
      match c.peek with
      | none => .error .malformed
      | some ch =>
        if double && ch == '\\' then takeEscape fuel c.advance
        else if isSpaceOrTab ch || isBreak ch then orMalformed (quotedSpaces fuel c)
        else .ok ([ch], c.advance)
    let quote := if double then '"' else '\''
    if c.peek = some quote then
      if !double && c.peekAt 1 = some quote then
        (takeQuoted double fuel (c.skip 2)).map fun (t, c) => (quote :: t, c)
      else .ok ([], c.advance)
    else
      piece.bind fun (t, c) => (takeQuoted double fuel c).map fun (more, c) => (t ++ more, c)

def endsPlain (flow : Bool) (c : Char) (next : Option Char) : Bool :=
  atGap (some c) ||
    (c == ':' && (atGap next || (flow && next.any ",[]\x7b\x7d".toList.contains))) ||
    (flow && ",?[]\x7b\x7d".toList.contains c)

def plainRun (flow : Bool) : Text → Text
  | [] => []
  | c :: rest => if endsPlain flow c rest.head? then [] else c :: plainRun flow rest

def plainBreaks : (fuel : Nat) → Cursor → Option Text × Cursor
  | 0, c => (none, c)
  | fuel + 1, c =>
    let c := c.skipWhile isSpace
    match c.takeBreak with
    | some (lineBreak, c) =>
      if c.atMarker then (none, c)
      else
        let (more, c) := plainBreaks fuel c
        (more.map (lineBreak :: ·), c)
    | none => (some [], c)

def plainGap (fuel : Nat) (c : Cursor) : Text × Cursor × Bool :=
  let (spaces, c) := c.takeWhile isSpace
  match c.takeBreak with
  | some (lineBreak, c) =>
    if c.atMarker then ([], c, true)
    else
      let (more, c) := plainBreaks fuel c
      ((more.map (foldBreaks lineBreak)).getD [], c, true)
  | none => (spaces, c, false)

/-- A plain scalar that goes on after the gap given. The last part of the answer says whether a
line ended after its last character, so that a key may follow. -/
def takePlain (flow : Bool) (indent : Int) : (fuel : Nat) → (gap : Text) → (ended : Bool) →
    Cursor → Text × Cursor × Bool
  | 0, _, ended, c => ([], c, ended)
  | fuel + 1, gap, ended, c =>
    let run := if c.peek = some '#' then [] else plainRun flow c.rest
    if run.isEmpty then ([], c, ended)
    else
      let (next, c, ended) := plainGap fuel (c.skip run.length)
      if next.isEmpty || c.peek = some '#' || (!flow && (c.column : Int) < indent) then
        (gap ++ run, c, ended)
      else
        let (more, c, ended) := takePlain flow indent fuel next ended c
        (gap ++ run ++ more, c, ended)

inductive Chomping where
  | strip
  | clip
  | keep
deriving DecidableEq, Repr

def chompingOf? (c : Option Char) : Option Chomping :=
  match c with
  | some '+' => some .keep
  | some '-' => some .strip
  | _ => none

def indentDigit? (c : Option Char) : Option Nat :=
  c.bind fun c => if c.isDigit then some (c.toNat - 48) else none

def takeBlockSigns (c : Cursor) : Option (Chomping × Option Nat × Cursor) :=
  let checked (chomping : Chomping) (indent : Option Nat) (c : Cursor) :
      Option (Chomping × Option Nat × Cursor) :=
    if indent = some 0 || !atSpaceOrEnd c.peek then none else some (chomping, indent, c)
  match chompingOf? c.peek with
  | some chomping =>
    let c := c.advance
    match indentDigit? c.peek with
    | some n => checked chomping (some n) c.advance
    | none => checked chomping none c
  | none =>
    match indentDigit? c.peek with
    | some n =>
      let c := c.advance
      match chompingOf? c.peek with
      | some chomping => checked chomping (some n) c.advance
      | none => checked .clip (some n) c
    | none => checked .clip none c

/-- Empty lines at the start of a block scalar, and the greatest indent among them and of the
first line that is not empty. -/
def blockStart : (fuel : Nat) → (deepest : Nat) → Cursor → Text × Nat × Cursor
  | 0, deepest, c => ([], deepest, c)
  | fuel + 1, deepest, c =>
    let c := c.skipWhile isSpace
    let deepest := max deepest c.column
    match c.takeBreak with
    | some (lineBreak, c) =>
      let (more, deepest, c) := blockStart fuel deepest c
      (lineBreak :: more, deepest, c)
    | none => ([], deepest, c)

def skipIndent (indent : Nat) (c : Cursor) : Cursor :=
  c.skip (min (indent - c.column) (c.rest.takeWhile isSpace).length)

def blockBreaks (indent : Nat) : (fuel : Nat) → Cursor → Text × Cursor
  | 0, c => ([], c)
  | fuel + 1, c =>
    let c := skipIndent indent c
    match c.takeBreak with
    | some (lineBreak, c) =>
      let (more, c) := blockBreaks indent fuel c
      (lineBreak :: more, c)
    | none => ([], c)

/-- The line end between two lines of a block scalar: folded it is a space, unless one of the
lines begins with a blank or there are empty lines between them. -/
def blockJoint (folded : Bool) (lineBreak : Text) (before after : Option Char) (empty : Bool) :
    Text :=
  let solid (c : Option Char) : Bool := !c.any isSpaceOrTab
  if folded && lineBreak == ['\n'] && solid before && solid after then
    if empty then [] else [' ']
  else lineBreak

def blockLines (folded : Bool) (chomping : Chomping) (indent : Nat) :
    (fuel : Nat) → (breaks : Text) → (lineBreak : Text) → Cursor → Text × Cursor
  | 0, _, _, c => ([], c)
  | fuel + 1, breaks, lineBreak, c =>
    if c.column = indent && c.peek.isSome then
      let first := c.peek
      let (line, c) := c.takeWhile fun ch => !isBreak ch
      let (lineBreak, c) := match c.takeBreak with
        | some (b, c) => ([b], c)
        | none => ([], c)
      let (next, c) := blockBreaks indent fuel c
      let joint := if c.column = indent && c.peek.isSome then
        blockJoint folded lineBreak first c.peek (!next.isEmpty) else []
      let (more, c) := blockLines folded chomping indent fuel next lineBreak c
      (breaks ++ line ++ joint ++ more, c)
    else
      ((if chomping = .strip then [] else lineBreak) ++ (if chomping = .keep then breaks else []),
        c)

def takeBlock (folded : Bool) (indent : Int) (c : Cursor) : Option (Text × Cursor) := do
  let (chomping, increment, c) ← takeBlockSigns c
  let c ← c.finishLine
  let least := (max 1 (indent + 1)).toNat
  let fuel := c.rest.length + 1
  match increment with
  | none =>
    let (breaks, deepest, c) := blockStart fuel 0 c
    return blockLines folded chomping (max least deepest) fuel breaks [] c
  | some n =>
    let (breaks, c) := blockBreaks (least + n - 1) fuel c
    return blockLines folded chomping (least + n - 1) fuel breaks [] c

end TemplateCompiler.Yaml
