import TemplateCompiler.Encoding.Basic

/-! The text of a template file. A byte-order mark decides its encoding, and then every byte has
to be right; without a mark the default encoding is read leniently. Encodings that are not among those
here are given as they are: by what they make of bytes. -/

namespace TemplateCompiler.Encoding

structure Mark where
  bytes : List UInt8
  encoding : Encoding
  codec : Text

/-- The marks, each before those it starts with. -/
def marks : List Mark :=
  [⟨[0xFF, 0xFE, 0x00, 0x00], .utf32 .little, "utf-32-le".toList⟩,
    ⟨[0x00, 0x00, 0xFE, 0xFF], .utf32 .big, "utf-32-be".toList⟩,
    ⟨[0xEF, 0xBB, 0xBF], .utf8, "utf-8".toList⟩,
    ⟨[0xFF, 0xFE], .utf16 .little, "utf-16-le".toList⟩,
    ⟨[0xFE, 0xFF], .utf16 .big, "utf-16-be".toList⟩]

def markOf? (bytes : List UInt8) : Option Mark :=
  marks.find? fun mark => mark.bytes.isPrefixOf bytes

def decodeStrict (encoding : Encoding) (codec : Text) (bytes : List UInt8) :
    Except Failure Text :=
  Decoder.strict codec encoding.step 0 bytes

def decodeLenient (encoding : Encoding) (bytes : List UInt8) : Text :=
  Decoder.lenient encoding.step bytes

def decodeReplacing (encoding : Encoding) (bytes : List UInt8) : Text :=
  Decoder.replacing encoding.step bytes

/-- What the name of an encoding stands for: one of the encodings here, or another codec. -/
inductive Codec where
  | known (encoding : Encoding)
  | other (decode : List UInt8 → Except Failure Text)

abbrev Codecs := Text → Option (List UInt8 → Except Failure Text)

def noCodecs : Codecs := fun _ => none

def Codec.decode : Codec → List UInt8 → Except Failure Text
  | .known encoding, bytes => .ok (encoding.decodeLenient bytes)
  | .other decode, bytes => decode bytes

def find (codecs : Codecs) (name : Text) (unknown : Text → Failure) : Except Failure Codec :=
  if name.contains '\x00' then .error .nullInName
  else
    match named? name, codecs name with
    | some encoding, _ => .ok (.known encoding)
    | none, some decode => .ok (.other decode)
    | none, none => .error (unknown name)

/-- Nothing to decode is the empty text whatever the encoding is called. -/
def decodeSource (codecs : Codecs) (defaultName : Text) (bytes : List UInt8) :
    Except Failure Text :=
  match markOf? bytes with
  | some mark => decodeStrict mark.encoding mark.codec (bytes.drop mark.bytes.length)
  | none =>
    if bytes.isEmpty then .ok []
    else (find codecs defaultName .unknownCodec).bind fun codec => codec.decode bytes

def checkName (codecs : Codecs) (name : Text) : Except Failure Unit :=
  (find codecs name .unknownEncoding).map fun _ => ()

end TemplateCompiler.Encoding
