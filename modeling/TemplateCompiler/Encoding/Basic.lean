import TemplateCompiler.Encoding.SingleByte
import TemplateCompiler.Encoding.Utf8
import TemplateCompiler.Encoding.Utf32

/-! The encodings a template file can have, and the names they are known by. -/

namespace TemplateCompiler

inductive Encoding where
  | ascii
  | latin1
  | windows1252
  | utf8
  | utf16 (order : ByteOrder)
  | utf32 (order : ByteOrder)
deriving DecidableEq, Repr

namespace Encoding

def step : Encoding → Decoder
  | .ascii => asciiStep
  | .latin1 => latin1Step
  | .windows1252 => windowsStep
  | .utf8 => utf8Step
  | .utf16 order => utf16Step order
  | .utf32 order => utf32Step order

def bytes? : Encoding → Char → Option (List UInt8)
  | .ascii, c => asciiBytes? c
  | .latin1, c => latin1Bytes? c
  | .windows1252, c => windowsBytes? c
  | .utf8, c => some (utf8Bytes c)
  | .utf16 order, c => some (utf16Bytes order c)
  | .utf32 order, c => some (utf32Bytes order c)

/-- A name is compared in lower case, with one underscore for each run of other characters than
ASCII letters, digits and periods, and none at its ends. `gap` says that such a run was just
passed, and `started` that something was kept before it. -/
def normalNameFrom (started gap : Bool) : Text → Text
  | [] => []
  | c :: rest =>
    if c.isAlphanum || c == '.' then
      if gap && started then '_' :: c.toLower :: normalNameFrom true false rest
      else c.toLower :: normalNameFrom true false rest
    else normalNameFrom started true rest

def normalName (name : Text) : Text := normalNameFrom false false name

def names : List (Text × Encoding) :=
  [("ascii".toList, .ascii), ("cp1252".toList, .windows1252), ("latin_1".toList, .latin1),
    ("utf_8".toList, .utf8), ("utf_8_sig".toList, .utf8),
    ("utf_16".toList, .utf16 .little), ("utf_16_le".toList, .utf16 .little),
    ("utf_16_be".toList, .utf16 .big),
    ("utf_32".toList, .utf32 .little), ("utf_32_le".toList, .utf32 .little),
    ("utf_32_be".toList, .utf32 .big)]

/-- Other names. In one of these a period may stand for an underscore. -/
def aliases : List (Text × Encoding) :=
  [("646".toList, .ascii), ("ansi_x3.4_1968".toList, .ascii), ("ansi_x3_4_1968".toList, .ascii),
    ("ansi_x3.4_1986".toList, .ascii), ("cp367".toList, .ascii), ("csascii".toList, .ascii),
    ("ibm367".toList, .ascii), ("iso646_us".toList, .ascii),
    ("iso_646.irv_1991".toList, .ascii), ("iso_ir_6".toList, .ascii), ("us".toList, .ascii),
    ("us_ascii".toList, .ascii),
    ("1252".toList, .windows1252), ("windows_1252".toList, .windows1252),
    ("8859".toList, .latin1), ("cp819".toList, .latin1), ("csisolatin1".toList, .latin1),
    ("ibm819".toList, .latin1), ("iso8859".toList, .latin1), ("iso8859_1".toList, .latin1),
    ("iso_8859_1".toList, .latin1), ("iso_8859_1_1987".toList, .latin1),
    ("iso_ir_100".toList, .latin1), ("l1".toList, .latin1), ("latin".toList, .latin1),
    ("latin1".toList, .latin1),
    ("u8".toList, .utf8), ("utf".toList, .utf8), ("utf8".toList, .utf8),
    ("utf8_ucs2".toList, .utf8), ("utf8_ucs4".toList, .utf8), ("cp65001".toList, .utf8),
    ("u16".toList, .utf16 .little), ("utf16".toList, .utf16 .little),
    ("unicodelittleunmarked".toList, .utf16 .little), ("utf_16le".toList, .utf16 .little),
    ("unicodebigunmarked".toList, .utf16 .big), ("utf_16be".toList, .utf16 .big),
    ("u32".toList, .utf32 .little), ("utf32".toList, .utf32 .little),
    ("utf_32le".toList, .utf32 .little), ("utf_32be".toList, .utf32 .big)]

def named? (name : Text) : Option Encoding :=
  let key := normalName name
  (aliases.lookup key).or ((aliases.lookup (Text.replaceChar '.' '_' key)).or (names.lookup key))

end Encoding

end TemplateCompiler
