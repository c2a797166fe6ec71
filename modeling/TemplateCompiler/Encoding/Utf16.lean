import TemplateCompiler.Encoding.Step

/-! UTF-16 in either byte order. A code beyond 0xFFFF is a pair of surrogates, high before low. -/

namespace TemplateCompiler

inductive ByteOrder where
  | little
  | big
deriving DecidableEq, Repr

namespace ByteOrder

def unit (order : ByteOrder) (a b : UInt8) : Nat :=
  match order with
  | .little => a.toNat + b.toNat * 256
  | .big => a.toNat * 256 + b.toNat

def unitBytes (order : ByteOrder) (n : Nat) : List UInt8 :=
  match order with
  | .little => [(n % 256).toUInt8, (n / 256).toUInt8]
  | .big => [(n / 256).toUInt8, (n % 256).toUInt8]

end ByteOrder

namespace Encoding

def isHighSurrogate (n : Nat) : Bool := 0xD800 ≤ n && n < 0xDC00

def isLowSurrogate (n : Nat) : Bool := 0xDC00 ≤ n && n < 0xE000

def utf16Pair (order : ByteOrder) (high : Nat) : List UInt8 → DecodeStep
  | a :: b :: _ =>
    if isLowSurrogate (order.unit a b) then
      .accepted (Char.ofNat (0x10000 + (high - 0xD800) * 1024 + (order.unit a b - 0xDC00))) 3
    else .rejected .unpairedHighSurrogate 1
  | rest => .rejected .unexpectedEnd (1 + rest.length)

def utf16Step (order : ByteOrder) : Decoder := fun a rest =>
  match rest with
  | [] => .rejected .truncated 0
  | b :: rest =>
    if isLowSurrogate (order.unit a b) then .rejected .loneLowSurrogate 1
    else if isHighSurrogate (order.unit a b) then utf16Pair order (order.unit a b) rest
    else .accepted (Char.ofNat (order.unit a b)) 1

def utf16Bytes (order : ByteOrder) (c : Char) : List UInt8 :=
  if c.toNat < 0x10000 then order.unitBytes c.toNat
  else order.unitBytes (0xD800 + (c.toNat - 0x10000) / 1024) ++
    order.unitBytes (0xDC00 + (c.toNat - 0x10000) % 1024)

end Encoding

end TemplateCompiler
