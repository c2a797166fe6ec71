import TemplateCompiler.Text.Integer
import TemplateCompiler.Value

/-! Everything that can go wrong, by cause. `Failure.kind` and `Failure.message` say how a cause
is reported. -/

namespace TemplateCompiler

inductive DecodeReason where
  | invalidStart
  | invalidContinuation
  | unexpectedEnd
  | truncated
  | loneLowSurrogate
  | unpairedHighSurrogate
  | surrogateCode
  | codeTooLarge
  | notAscii
  | undefinedByte
deriving DecidableEq, Repr

inductive EncodeReason where
  | loneSurrogate
  | notAscii
deriving DecidableEq, Repr

inductive FileProblem where
  | missing
  | notDirectory
  | isDirectory
  | nameTooLong
deriving DecidableEq, Repr

inductive Failure where
  | notReentrant
  | underivableLanguage (path : Text)
  | unknownLanguage (name : Option Text)
  | noRenderer (language : Text)
  | unknownProfile (name : Text)
  | unknownTransformer (name profile : Text)
  | blankArgument (argument : Text)
  | misfitArguments
  | misshapenDocument
  | noOperation (valueKind operation : Text)
  | notIterable (valueKind : Text)
  | notTextArgument (index : Nat) (valueKind : Text)
  | notTextItem (index : Nat) (valueKind : Text)
  | notKey (valueKind : Text)
  | unknownDirective (key : Text)
  | badVisibility (value : Option Text)
  | malformedDirective (raw : Text)
  | unknownEncoding (name : Text)
  | unknownCodec (name : Text)
  | undecodable (codec : Text) (start : Nat) (bytes : List UInt8) (reason : DecodeReason)
  /-- A run of characters, by their numbers, that an encoding has no bytes for. -/
  | unencodable (start : Nat) (numbers : List Nat) (reason : EncodeReason)
  | badFile (problem : FileProblem) (path : Text)
  | nullInPath
  | nullInName
  | unknownLogLevel (level : Text)
  | badInteger (base : Nat) (literal : Text)
  | longInteger (digits : Nat)
  | unwritableInteger
  | infiniteAmount
  | undefinedAmount
  /-- A unit of a number that is greater than every number with a fraction. -/
  | hugeUnit
  | badFloat (literal : Text)
  | emptyNumber
  | outOfRange (problem : Text)
  | tooDeep
  | noCharacter (number : Nat)
  | badTarget (c : Char) (place : Nat)
  | longTarget
  | badTargetStart (start : Text)
  | unwritableResponse
  | other (kind message : Text)
deriving DecidableEq

namespace DecodeReason

def message : DecodeReason → Text
  | invalidStart => "invalid start byte".toList
  | invalidContinuation => "invalid continuation byte".toList
  | unexpectedEnd => "unexpected end of data".toList
  | truncated => "truncated data".toList
  | loneLowSurrogate => "illegal encoding".toList
  | unpairedHighSurrogate => "illegal UTF-16 surrogate".toList
  | surrogateCode => "code point in surrogate code point range(0xd800, 0xe000)".toList
  | codeTooLarge => "code point not in range(0x110000)".toList
  | notAscii => "ordinal not in range(128)".toList
  | undefinedByte => "character maps to <undefined>".toList

end DecodeReason

namespace EncodeReason

def codec : EncodeReason → Text
  | loneSurrogate => "utf-8".toList
  | notAscii => "ascii".toList

def message : EncodeReason → Text
  | loneSurrogate => "surrogates not allowed".toList
  | notAscii => "ordinal not in range(128)".toList

def covers (n : Nat) : EncodeReason → Bool
  | loneSurrogate => Text.isSurrogateCode n
  | notAscii => 0x80 ≤ n

end EncodeReason

namespace FileProblem

def kind : FileProblem → Text
  | missing => "FileNotFoundError".toList
  | notDirectory => "NotADirectoryError".toList
  | isDirectory => "IsADirectoryError".toList
  | nameTooLong => "OSError".toList

def message : FileProblem → Text
  | missing => "[Errno 2] No such file or directory: ".toList
  | notDirectory => "[Errno 20] Not a directory: ".toList
  | isDirectory => "[Errno 21] Is a directory: ".toList
  | nameTooLong => "[Errno 36] File name too long: ".toList

end FileProblem

namespace Failure

def kind : Failure → Text
  | notReentrant => "RuntimeError".toList
  | underivableLanguage _ => "UnknownLanguageError".toList
  | unknownLanguage _ => "UnknownLanguageError".toList
  | noRenderer _ => "ValueError".toList
  | unknownProfile _ => "UnknownProfileError".toList
  | unknownTransformer .. => "ValueError".toList
  | blankArgument _ => "ValueError".toList
  | misfitArguments => "TypeError".toList
  | misshapenDocument => "ValidationError".toList
  | noOperation .. => "AttributeError".toList
  | notIterable _ => "TypeError".toList
  | notTextArgument .. => "TypeError".toList
  | notTextItem .. => "TypeError".toList
  | notKey _ => "TypeError".toList
  | unknownDirective _ => "KeyError".toList
  | badVisibility _ => "ValueError".toList
  | malformedDirective _ => "ValueError".toList
  | unknownEncoding _ => "UnknownEncodingError".toList
  | unknownCodec _ => "LookupError".toList
  | undecodable .. => "UnicodeDecodeError".toList
  | unencodable .. => "UnicodeEncodeError".toList
  | badFile problem _ => problem.kind
  | nullInPath => "ValueError".toList
  | nullInName => "ValueError".toList
  | unknownLogLevel _ => "ValueError".toList
  | badInteger .. => "ValueError".toList
  | longInteger _ => "ValueError".toList
  | unwritableInteger => "ValueError".toList
  | infiniteAmount => "OverflowError".toList
  | undefinedAmount => "ValueError".toList
  | hugeUnit => "OverflowError".toList
  | badFloat _ => "ValueError".toList
  | emptyNumber => "IndexError".toList
  | outOfRange _ => "ValueError".toList
  | tooDeep => "RecursionError".toList
  | noCharacter n => if n < 1 <<< 31 then "ValueError".toList else "OverflowError".toList
  | badTarget .. => "InvalidURL".toList
  | longTarget => "InvalidURL".toList
  | badTargetStart _ => "InvalidURL".toList
  | unwritableResponse => "ValueError".toList
  | other kind _ => kind

def quotedName : Option Text → Text
  | some name => name.quoted
  | none => "None".toList

def undecodableMessage (codec : Text) (start : Nat) (bytes : List UInt8) (reason : DecodeReason) :
    Text :=
  codec.quoted ++ " codec can't decode ".toList ++
    (match bytes with
      | [b] => "byte 0x".toList ++ Text.hex 2 b.toNat ++ " in position ".toList ++ Text.ofNat start
      | _ => "bytes in position ".toList ++ Text.ofNat start ++ '-' ::
          Text.ofNat (start + bytes.length - 1)) ++
    ": ".toList ++ reason.message

def unencodableMessage (start : Nat) (numbers : List Nat) (reason : EncodeReason) : Text :=
  reason.codec.quoted ++ " codec can't encode ".toList ++
    (match numbers with
      | [n] => "character '".toList ++ Text.escapedCode n ++ "' in position ".toList ++
          Text.ofNat start
      | _ => "characters in position ".toList ++ Text.ofNat start ++ '-' ::
          Text.ofNat (start + numbers.length - 1)) ++
    ": ".toList ++ reason.message

def shownLength : Nat := 200

def digitLimitText : Text :=
  "Exceeds the limit (".toList ++ Text.ofNat Text.digitLimit ++
    " digits) for integer string conversion".toList

def raiseLimitText : Text := "use sys.set_int_max_str_digits() to increase the limit".toList

def message : Failure → Text
  | notReentrant => "GenerationOrchestrator.generate() is not reentrant".toList
  | underivableLanguage path =>
    "Cannot derive a target language from ".toList ++ path.quoted ++
      "; pass one explicitly".toList
  | unknownLanguage name => "Unknown target language: ".toList ++ quotedName name
  | noRenderer language => "No renderer syntax for language ".toList ++ language.quoted
  | unknownProfile name => "Unknown transformer profile: ".toList ++ name
  | unknownTransformer name profile =>
    "Unknown transformer ".toList ++ name.quoted ++ " in profile ".toList ++ profile.quoted
  | blankArgument argument => argument ++ " must be non-empty".toList
  | misfitArguments => []
  | misshapenDocument => []
  | noOperation valueKind operation =>
    valueKind.quoted ++ " object has no attribute ".toList ++ operation.quoted
  | notIterable valueKind => valueKind.quoted ++ " object is not iterable".toList
  | notTextArgument index valueKind =>
    "replace() argument ".toList ++ Text.ofNat index ++ " must be str, not ".toList ++
      (if valueKind = "NoneType".toList then "None".toList else valueKind)
  | notTextItem index valueKind =>
    "sequence item ".toList ++ Text.ofNat index ++ ": expected str instance, ".toList ++
      valueKind ++ " found".toList
  | notKey valueKind => "unhashable type: ".toList ++ valueKind.quoted
  | unknownDirective key => key
  | badVisibility value =>
    "TypeVisibility must be 'public' or 'internal', got ".toList ++ quotedName value
  | malformedDirective raw => "Directive must look like key=value, got ".toList ++ raw.quoted
  | unknownEncoding name => "Unknown source encoding: ".toList ++ name.quoted
  | unknownCodec name => "unknown encoding: ".toList ++ name
  | undecodable codec start bytes reason => undecodableMessage codec start bytes reason
  | unencodable start numbers reason => unencodableMessage start numbers reason
  | badFile problem path => problem.message ++ path.quoted
  | nullInPath => "embedded null byte".toList
  | nullInName => "embedded null character".toList
  | unknownLogLevel level => "Unknown level: ".toList ++ level.quoted
  | badInteger base literal =>
    "invalid literal for int() with base ".toList ++ Text.ofNat base ++ ": ".toList ++
      literal.quoted.take shownLength
  | longInteger digits =>
    digitLimitText ++ ": value has ".toList ++ Text.ofNat digits ++ " digits; ".toList ++
      raiseLimitText
  | unwritableInteger => digitLimitText ++ "; ".toList ++ raiseLimitText
  | infiniteAmount => "cannot convert float infinity to integer".toList
  | undefinedAmount => "cannot convert float NaN to integer".toList
  | hugeUnit => "int too large to convert to float".toList
  | badFloat literal => "could not convert string to float: ".toList ++ literal.quoted
  | emptyNumber => "string index out of range".toList
  | outOfRange problem => problem
  | tooDeep => "maximum recursion depth exceeded".toList
  | noCharacter n =>
    if n < 1 <<< 31 then "chr() arg not in range(0x110000)".toList
    else "Python int too large to convert to C int".toList
  | badTarget c place =>
    "Invalid non-printable ASCII character in URL, ".toList ++ Text.quoted [c] ++
      " at position ".toList ++ Text.ofNat place ++ ['.']
  | longTarget => "URL too long".toList
  | badTargetStart start =>
    "Relative URLs cannot have a path starting with ".toList ++ start.quoted
  | unwritableResponse => "Out of range float values are not JSON compliant".toList
  | other _ message => message

def readInteger (base : Nat) (t : Text) : Except Failure Int :=
  match Text.integer base t with
  | .ok n => .ok n
  | .error .invalid => .error (.badInteger base t)
  | .error (.tooLong digits) => .error (.longInteger digits)

def writeInteger (n : Int) : Except Failure Text :=
  if Value.isLongInteger n then .error .unwritableInteger else .ok (Text.ofInt n)

def checkEncodable (reason : EncodeReason) (passes : Nat → Bool) (t : Text) :
    Except Failure Unit :=
  let numbers := t.map Text.codeOf
  let before := numbers.takeWhile fun n => !reason.covers n || passes n
  match (numbers.drop before.length).takeWhile reason.covers with
  | [] => .ok ()
  | run => .error (.unencodable before.length run reason)

/-- The kinds whose message is a key that could not be found; it is quoted in a report. -/
def isLookup (f : Failure) : Bool :=
  f.kind == "KeyError".toList || f.kind == "UnknownProfileError".toList

/-- What was asked for does not exist; a request that asks for something else may succeed. -/
def isConfiguration : Failure → Bool
  | .unknownProfile _ => true
  | .underivableLanguage _ => true
  | .unknownLanguage _ => true
  | .unknownEncoding _ => true
  | _ => false

def report (f : Failure) : Text :=
  f.kind ++ ": ".toList ++ if f.isLookup then f.message.quoted else f.message

end Failure

end TemplateCompiler
