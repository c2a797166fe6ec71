import TemplateCompiler.Text.Basic
import TemplateCompiler.Text.Printable
import TemplateCompiler.Text.Surrogate

/-! Quoting a text for a message: in single quotes, or in double quotes when it holds a single
quote and no double one. What is not printable is written as an escape. -/

namespace TemplateCompiler.Text

def escapedCode (n : Nat) : Text :=
  if n < 0x100 then '\\' :: 'x' :: hex 2 n
  else if n < 0x10000 then '\\' :: 'u' :: hex 4 n
  else '\\' :: 'U' :: hex 8 n

def quotedChar (q c : Char) : Text :=
  if c = q ∨ c = '\\' then ['\\', c]
  else if c = '\n' then ['\\', 'n']
  else if c = '\r' then ['\\', 'r']
  else if c = '\t' then ['\\', 't']
  else if isPrintable c then [c]
  else escapedCode (codeOf c)

def quoteMark (t : Text) : Char :=
  if t.contains '\'' && !t.contains '"' then '"' else '\''

def quoted (t : Text) : Text :=
  let q := quoteMark t
  q :: t.flatMap (quotedChar q) ++ [q]

def quotedByte (q : Char) (b : UInt8) : Text :=
  let c := Char.ofNat b.toNat
  if b.toNat < 0x7F then quotedChar q c else '\\' :: 'x' :: hex 2 b.toNat

def quotedBytes (bytes : List UInt8) : Text :=
  let q := quoteMark (bytes.map fun b => Char.ofNat b.toNat)
  'b' :: q :: bytes.flatMap (quotedByte q) ++ [q]

end TemplateCompiler.Text
