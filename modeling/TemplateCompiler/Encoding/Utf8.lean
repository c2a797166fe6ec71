import TemplateCompiler.Encoding.Step

/-! UTF-8. A rejected run is the longest start of a well-formed character, or one byte where there
is none. -/

namespace TemplateCompiler.Encoding

def isContinuation (b : UInt8) : Bool := b.toNat / 64 = 2

/-- The second byte of a longer form: it rules out a code that has a shorter form, a surrogate
and a code beyond the last. -/
def isSecond (first second : UInt8) : Bool :=
  isContinuation second &&
    !(first = 0xE0 && second.toNat < 0xA0) && !(first = 0xED && 0xA0 ≤ second.toNat) &&
    !(first = 0xF0 && second.toNat < 0x90) && !(first = 0xF4 && 0x90 ≤ second.toNat)

def lowBits (b : UInt8) : Nat := b.toNat % 64

def utf8Two (a : UInt8) : List UInt8 → DecodeStep
  | [] => .rejected .unexpectedEnd 0
  | b :: _ =>
    if isContinuation b then .accepted (Char.ofNat (a.toNat % 32 * 64 + lowBits b)) 1
    else .rejected .invalidContinuation 0

def utf8Three (a : UInt8) : List UInt8 → DecodeStep
  | [] => .rejected .unexpectedEnd 0
  | b :: rest =>
    if !isSecond a b then .rejected .invalidContinuation 0
    else match rest with
      | [] => .rejected .unexpectedEnd 1
      | c :: _ =>
        if isContinuation c then
          .accepted (Char.ofNat ((a.toNat % 16 * 64 + lowBits b) * 64 + lowBits c)) 2
        else .rejected .invalidContinuation 1

def utf8Four (a : UInt8) : List UInt8 → DecodeStep
  | [] => .rejected .unexpectedEnd 0
  | b :: rest =>
    if !isSecond a b then .rejected .invalidContinuation 0
    else match rest with
      | [] => .rejected .unexpectedEnd 1
      | c :: rest =>
        if !isContinuation c then .rejected .invalidContinuation 1
        else match rest with
          | [] => .rejected .unexpectedEnd 2
          | d :: _ =>
            if isContinuation d then
              .accepted (Char.ofNat
                (((a.toNat % 8 * 64 + lowBits b) * 64 + lowBits c) * 64 + lowBits d)) 3
            else .rejected .invalidContinuation 2

def utf8Step : Decoder := fun b rest =>
  if b.toNat < 0x80 then .accepted (Char.ofNat b.toNat) 0
  else if b.toNat < 0xC2 then .rejected .invalidStart 0
  else if b.toNat < 0xE0 then utf8Two b rest
  else if b.toNat < 0xF0 then utf8Three b rest
  else if b.toNat < 0xF5 then utf8Four b rest
  else .rejected .invalidStart 0

def utf8Form (code : Nat) : List UInt8 :=
  if code < 0x80 then [code.toUInt8]
  else if code < 0x800 then [(0xC0 + code / 64).toUInt8, (0x80 + code % 64).toUInt8]
  else if code < 0x10000 then
    [(0xE0 + code / 4096).toUInt8, (0x80 + code / 64 % 64).toUInt8, (0x80 + code % 64).toUInt8]
  else
    [(0xF0 + code / 262144).toUInt8, (0x80 + code / 4096 % 64).toUInt8,
      (0x80 + code / 64 % 64).toUInt8, (0x80 + code % 64).toUInt8]

def utf8Bytes (c : Char) : List UInt8 := utf8Form c.toNat

end TemplateCompiler.Encoding
