import TemplateCompiler.Text.Basic

/-! Bytes written as characters of six bits each. Characters of no value are passed over, and two
equals signs, or one after three characters, end the bytes. -/

namespace TemplateCompiler.Encoding

def sixBits? (c : Char) : Option Nat :=
  if 'A' ≤ c ∧ c ≤ 'Z' then some (c.toNat - 65)
  else if 'a' ≤ c ∧ c ≤ 'z' then some (c.toNat - 71)
  else if '0' ≤ c ∧ c ≤ '9' then some (c.toNat + 4)
  else if c = '+' then some 62
  else if c = '/' then some 63
  else none

/-- The bytes of a text, after `place` characters of a group of four, the last of which left some
bits over, and after some equals signs. A group that is begun has to end. -/
def base64From (place left signs : Nat) : Text → Option (List UInt8)
  | [] => if place = 0 then some [] else none
  | c :: rest =>
    if c = '=' then
      if place < 2 then base64From place left signs rest
      else if 4 ≤ place + signs + 1 then some []
      else base64From place left (signs + 1) rest
    else
      match sixBits? c with
      | none => base64From place left signs rest
      | some bits =>
        match place with
        | 0 => base64From 1 bits 0 rest
        | 1 => (base64From 2 (bits % 16) 0 rest).map ((left * 4 + bits / 16).toUInt8 :: ·)
        | 2 => (base64From 3 (bits % 4) 0 rest).map ((left * 16 + bits / 4).toUInt8 :: ·)
        | _ => (base64From 0 0 0 rest).map ((left * 64 + bits).toUInt8 :: ·)

def base64? (t : Text) : Option (List UInt8) :=
  if t.all fun c => c.toNat < 128 then base64From 0 0 0 t else none

end TemplateCompiler.Encoding
