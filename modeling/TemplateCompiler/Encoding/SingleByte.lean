import TemplateCompiler.Encoding.Step

/-! The encodings with one byte a character: ASCII, Latin-1 and the Windows code page 1252. -/

namespace TemplateCompiler.Encoding

def asciiStep : Decoder := fun b _ =>
  if b.toNat < 0x80 then .accepted (Char.ofNat b.toNat) 0 else .rejected .notAscii 0

def asciiBytes? (c : Char) : Option (List UInt8) :=
  if c.toNat < 0x80 then some [c.toNat.toUInt8] else none

def latin1Step : Decoder := fun b _ => .accepted (Char.ofNat b.toNat) 0

def latin1Bytes? (c : Char) : Option (List UInt8) :=
  if c.toNat < 0x100 then some [c.toNat.toUInt8] else none

/-- The characters of the bytes 0x80 to 0x9F in code page 1252. Five bytes have none. -/
def windowsTable : List (Nat × Nat) :=
  [(0x80, 0x20AC), (0x82, 0x201A), (0x83, 0x192), (0x84, 0x201E), (0x85, 0x2026),
    (0x86, 0x2020), (0x87, 0x2021), (0x88, 0x2C6), (0x89, 0x2030), (0x8A, 0x160),
    (0x8B, 0x2039), (0x8C, 0x152), (0x8E, 0x17D), (0x91, 0x2018), (0x92, 0x2019),
    (0x93, 0x201C), (0x94, 0x201D), (0x95, 0x2022), (0x96, 0x2013), (0x97, 0x2014),
    (0x98, 0x2DC), (0x99, 0x2122), (0x9A, 0x161), (0x9B, 0x203A), (0x9C, 0x153),
    (0x9E, 0x17E), (0x9F, 0x178)]

def windowsStep : Decoder := fun b _ =>
  if b.toNat < 0x80 ∨ 0xA0 ≤ b.toNat then .accepted (Char.ofNat b.toNat) 0
  else
    match windowsTable.lookup b.toNat with
    | some code => .accepted (Char.ofNat code) 0
    | none => .rejected .undefinedByte 0

def windowsBytes? (c : Char) : Option (List UInt8) :=
  if c.toNat < 0x80 ∨ (0xA0 ≤ c.toNat ∧ c.toNat < 0x100) then some [c.toNat.toUInt8]
  else (windowsTable.find? fun entry => entry.2 = c.toNat).map fun entry => [entry.1.toUInt8]

end TemplateCompiler.Encoding
