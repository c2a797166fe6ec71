import TemplateCompiler.Encoding.Utf16

/-! UTF-32 in either byte order: four bytes a character. -/

namespace TemplateCompiler

namespace ByteOrder

def word (order : ByteOrder) (a b c d : UInt8) : Nat :=
  match order with
  | .little => order.unit a b + order.unit c d * 65536
  | .big => order.unit a b * 65536 + order.unit c d

def wordBytes (order : ByteOrder) (n : Nat) : List UInt8 :=
  match order with
  | .little => order.unitBytes (n % 65536) ++ order.unitBytes (n / 65536)
  | .big => order.unitBytes (n / 65536) ++ order.unitBytes (n % 65536)

end ByteOrder

namespace Encoding

def utf32Step (order : ByteOrder) : Decoder := fun a rest =>
  match rest with
  | b :: c :: d :: _ =>
    let code := order.word a b c d
    if 0xD800 ≤ code ∧ code < 0xE000 then .rejected .surrogateCode 3
    else if 0x110000 ≤ code then .rejected .codeTooLarge 3
    else .accepted (Char.ofNat code) 3
  | rest => .rejected .truncated rest.length

def utf32Bytes (order : ByteOrder) (c : Char) : List UInt8 := order.wordBytes c.toNat

end Encoding

end TemplateCompiler
