import TemplateCompiler.Encoding.Source
import TemplateCompiler.Yaml.Token

/-! Dividing a YAML text into tokens. Indentation opens and closes block collections. A key of a
mapping is known only by the colon after it, so each place where a key may begin is kept until the
colon comes, and the token for the key is put there then. -/

namespace TemplateCompiler.Yaml

/-- A place where a key may have begun. -/
structure PendingKey where
  place : Nat
  required : Bool
  index : Nat
  line : Nat
  column : Nat
deriving DecidableEq, Repr

structure Lexer where
  cursor : Cursor
  tokens : List Token
  indent : Int
  outer : List Int
  flow : Nat
  keyAllowed : Bool
  /-- The pending key of each depth of brackets. -/
  pending : List (Nat × PendingKey)

namespace Lexer

def start (t : Text) : Lexer :=
  let c := Cursor.start t
  ⟨if c.peek = some '\ufeff' then c.advance else c, [], -1, [], 0, true, []⟩

def inFlow (l : Lexer) : Bool := l.flow != 0

def push (l : Lexer) (token : Token) : Lexer := { l with tokens := token :: l.tokens }

def insertAt (place : Nat) (token : Token) (tokens : List Token) : List Token :=
  let later := tokens.length - place
  tokens.take later ++ token :: tokens.drop later

def pushPast (l : Lexer) (n : Nat) (token : Token) : Lexer :=
  { l.push token with cursor := l.cursor.skip n }

def skipGap : (fuel : Nat) → Lexer → Lexer
  | 0, l => l
  | fuel + 1, l =>
    match l.cursor.skipWhile isSpace with
    | c =>
      let c := if c.peek = some '#' then c.skipToLineEnd else c
      match c.takeBreak with
      | some (_, c) =>
        skipGap fuel { l with cursor := c, keyAllowed := l.keyAllowed || !l.inFlow }
      | none => { l with cursor := c }

def isStale (l : Lexer) (key : PendingKey) : Bool :=
  key.line != l.cursor.line || key.index + 1024 < l.cursor.index

def dropStale (l : Lexer) : Option Lexer :=
  if l.pending.any fun (_, key) => key.required && l.isStale key then none
  else some { l with pending := l.pending.filter fun (_, key) => !l.isStale key }

def forgetKey (l : Lexer) : Option Lexer :=
  if (l.pending.lookup l.flow).any (·.required) then none
  else some { l with pending := l.pending.filter fun (depth, _) => depth != l.flow }

def keepKey (l : Lexer) : Option Lexer :=
  if l.keyAllowed then
    l.forgetKey.map fun l =>
      let c := l.cursor
      let required := !l.inFlow && l.indent == c.column
      { l with pending :=
          (l.flow, ⟨l.tokens.length, required, c.index, c.line, c.column⟩) :: l.pending }
  else some l

def closeBlocks (column : Int) : (outer : List Int) → Lexer → Lexer
  | [], l => l
  | indent :: outer, l =>
    if column < l.indent then
      closeBlocks column outer { l.push .blockEnd with indent := indent, outer := outer }
    else l

def unwind (l : Lexer) (column : Int) : Lexer :=
  if l.inFlow then l else closeBlocks column l.outer l

def openBlock (l : Lexer) (column : Nat) (place : Nat) (token : Token) : Lexer :=
  if l.indent < column then
    { l with
      outer := l.indent :: l.outer
      indent := column
      tokens := insertAt place token l.tokens }
  else l

def directive (l : Lexer) : Option Lexer := do
  let l ← (l.unwind (-1)).forgetKey
  let (token, c) ← takeDirective
    (fun bytes => (Encoding.decodeStrict .utf8 [] bytes).toOption) l.cursor.advance
  return { l.push token with cursor := c, keyAllowed := false }

def marker (l : Lexer) (token : Token) : Option Lexer := do
  let l ← (l.unwind (-1)).forgetKey
  return { l.pushPast 3 token with keyAllowed := false }

def openFlow (l : Lexer) (token : Token) : Option Lexer := do
  let l ← l.keepKey
  return { l.pushPast 1 token with flow := l.flow + 1, keyAllowed := true }

def closeFlow (l : Lexer) (token : Token) : Option Lexer := do
  let l ← l.forgetKey
  if l.inFlow then return { l.pushPast 1 token with flow := l.flow - 1, keyAllowed := false }
  else none

def flowEntry (l : Lexer) : Option Lexer := do
  let l ← l.forgetKey
  return { l.pushPast 1 .flowEntry with keyAllowed := true }

def blockEntry (l : Lexer) : Option Lexer := do
  if !l.inFlow && !l.keyAllowed then none
  else
    let l := if l.inFlow then l
      else l.openBlock l.cursor.column l.tokens.length .blockSequenceStart
    let l ← l.forgetKey
    return { l.pushPast 1 .blockEntry with keyAllowed := true }

def explicitKey (l : Lexer) : Option Lexer := do
  if !l.inFlow && !l.keyAllowed then none
  else
    let l := if l.inFlow then l
      else l.openBlock l.cursor.column l.tokens.length .blockMappingStart
    let l ← l.forgetKey
    return { l.pushPast 1 .key with keyAllowed := !l.inFlow }

def value (l : Lexer) : Option Lexer := do
  match l.pending.lookup l.flow with
  | some key =>
    let l := { l with
      tokens := insertAt key.place .key l.tokens
      pending := l.pending.filter fun (depth, _) => depth != l.flow
      keyAllowed := false }
    let l := if l.inFlow then l else l.openBlock key.column key.place .blockMappingStart
    return l.pushPast 1 .value
  | none =>
    if !l.inFlow && !l.keyAllowed then none
    else
      let l := if l.inFlow then l
        else l.openBlock l.cursor.column l.tokens.length .blockMappingStart
      return { l.pushPast 1 .value with keyAllowed := !l.inFlow }

def keyLike (l : Lexer) (take : Cursor → Option (Token × Cursor)) : Option Lexer := do
  let l ← l.keepKey
  let (token, c) ← take l.cursor
  return { l.push token with cursor := c, keyAllowed := false }

def quoted (double : Bool) (c : Cursor) : Option (Token × Cursor) :=
  match takeQuoted double (c.rest.length + 1) c.advance with
  | .ok (t, c) => some (.scalar t false, c)
  | .error (.beyond n) => some (.beyond n, c)
  | .error .malformed => none

def anchored (token : Text → Token) (c : Cursor) : Option (Token × Cursor) :=
  (takeAnchor c.advance).map fun (name, c) => (token name, c)

def plain (l : Lexer) : Option Lexer := do
  let l ← l.keepKey
  let (t, c, ended) :=
    takePlain l.inFlow (l.indent + 1) (l.cursor.rest.length + 1) [] false l.cursor
  return { l.push (.scalar t true) with cursor := c, keyAllowed := ended }

def block (l : Lexer) (folded : Bool) : Option Lexer := do
  let l ← l.forgetKey
  let (t, c) ← takeBlock folded l.indent l.cursor.advance
  return { l.push (.scalar t false) with cursor := c, keyAllowed := true }

def startsPlain (l : Lexer) (c : Char) : Bool :=
  if "-?:,[]\x7b\x7d#&*!|>'\"%@`".toList.contains c then
    !atGap (l.cursor.peekAt 1) && (c == '-' || (!l.inFlow && (c == '?' || c == ':')))
  else !atGap (some c)

def token (l : Lexer) (c : Char) : Option Lexer :=
  let gapNext := atGap (l.cursor.peekAt 1)
  let lineStart := l.cursor.column = 0
  if lineStart && c == '%' then l.directive
  else if lineStart && c == '-' && l.cursor.atMarker then l.marker .documentStart
  else if lineStart && c == '.' && l.cursor.atMarker then l.marker .documentEnd
  else if c == '[' then l.openFlow .flowSequenceStart
  else if c == '\x7b' then l.openFlow .flowMappingStart
  else if c == ']' then l.closeFlow .flowSequenceEnd
  else if c == '\x7d' then l.closeFlow .flowMappingEnd
  else if c == ',' then l.flowEntry
  else if c == '-' && gapNext then l.blockEntry
  else if c == '?' && (l.inFlow || gapNext) then l.explicitKey
  else if c == ':' && (l.inFlow || gapNext) then l.value
  else if c == '*' then l.keyLike (anchored .alias)
  else if c == '&' then l.keyLike (anchored .anchor)
  else if c == '!' then
    l.keyLike (takeTag fun bytes => (Encoding.decodeStrict .utf8 [] bytes).toOption)
  else if c == '|' && !l.inFlow then l.block false
  else if c == '>' && !l.inFlow then l.block true
  else if c == '\'' then l.keyLike (quoted false)
  else if c == '"' then l.keyLike (quoted true)
  else if l.startsPlain c then l.plain
  else none

/-- The tokens up to here and then one at which reading stops. It is met as soon as the first token
is looked for that may still be a key: what follows such a token is divided before it is known. -/
def stopAt (l : Lexer) (last : Token) : List Token :=
  let keys := l.pending.filter fun (_, key) => !l.isStale key
  let place := keys.foldl (fun place (_, key) => min place key.place) l.tokens.length
  l.tokens.reverse.take place ++ [last]

/-- All tokens from here on, up to one at which reading stops. Every token passes a character, so
fuel beyond the length of the text is never used up. -/
def run : (fuel : Nat) → Lexer → Option (List Token)
  | 0, _ => none
  | fuel + 1, before => do
    let l ← (before.skipGap (before.cursor.rest.length + 1)).dropStale
    let l := l.unwind l.cursor.column
    match l.cursor.peek with
    | none =>
      let l ← (l.unwind (-1)).forgetKey
      return l.tokens.reverse
    | some c =>
      let l ← l.token c
      match l.tokens with
      | .beyond n :: _ => return before.stopAt (.beyond n)
      | _ => run fuel l

end Lexer

def tokens? (t : Text) : Option (List Token) := (Lexer.start t).run (t.length + 2)

end TemplateCompiler.Yaml
