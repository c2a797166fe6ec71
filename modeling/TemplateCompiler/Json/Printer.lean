import TemplateCompiler.Value

/-! Writing a value as a JSON text. -/

namespace TemplateCompiler.Json

def controlLetters : List (Char × Char) :=
  [('\n', 'n'), ('\r', 'r'), ('\t', 't'), ('\x08', 'b'), ('\x0c', 'f')]

def escapeControl (c : Char) : Text :=
  if c = '"' ∨ c = '\\' then ['\\', c]
  else
    match controlLetters.lookup c with
    | some letter => ['\\', letter]
    | none => if c.toNat < 0x20 then "\\u".toList ++ Text.hex 4 c.toNat else [c]

/-- A character inside a string. A surrogate is written by its number. -/
def escape (c : Char) : Text :=
  match Text.surrogate? c with
  | some n => "\\u".toList ++ Text.hex 4 n
  | none => escapeControl c

def string (t : Text) : Text := '"' :: t.flatMap escape ++ ['"']

def floatText (x : Float) : Text :=
  match Decimal.Binary.ofFloat? x with
  | some b => b.shortest.toText
  | none =>
    if x.isNaN then "NaN".toList
    else if x < 0.0 then "-Infinity".toList
    else "Infinity".toList

def keyText : Value → Text
  | .null => "null".toList
  | .bool b => if b then "true".toList else "false".toList
  | .float x => floatText x
  | .nan _ => "NaN".toList
  | v => v.display

mutual

def render : Value → Text
  | .null => "null".toList
  | .bool b => if b then "true".toList else "false".toList
  | .int n => Text.ofInt n
  | .float x => floatText x
  | .nan _ => "NaN".toList
  | .text t => string t
  | .bytes bs => string (Text.quotedBytes bs)
  | .moment m => string (m.toText 'T')
  | .list items => '[' :: Text.joinWith [','] (renderItems items) ++ [']']
  | .pair key value => '[' :: render key ++ ',' :: render value ++ [']']
  | .set items => '[' :: Text.joinWith [','] (renderItems items) ++ [']']
  | .map entries => '\x7b' :: Text.joinWith [','] (renderEntries entries) ++ ['\x7d']
  | .loop _ body => render body
  | .back _ isList => string (Value.loopLiteral isList)

def renderItems : List Value → List Text
  | [] => []
  | v :: rest => render v :: renderItems rest

def renderEntries : List (Value × Value) → List Text
  | [] => []
  | e :: rest => renderEntry e :: renderEntries rest

def renderEntry : Value × Value → Text
  | (key, value) => string (keyText key) ++ ':' :: render value

end

end TemplateCompiler.Json
