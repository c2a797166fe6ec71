import TemplateCompiler.Directive
import TemplateCompiler.Encoding.Source
import TemplateCompiler.Json.Reader
import TemplateCompiler.Shape

/-! The body of a request for code, and everything that is wrong with one. A body is JSON in UTF-8,
UTF-16 or UTF-32; its first bytes show in which. -/

namespace TemplateCompiler.Http

inductive BodyProblem where
  | missing
  | invalidJson
  | notObject
  | notText
  | emptyText
  | brokenText
  | notMapping
deriving DecidableEq, Repr

namespace BodyProblem

def name : BodyProblem → Text
  | .missing => "missing".toList
  | .invalidJson => "json_invalid".toList
  | .notObject => "model_attributes_type".toList
  | .notText => "string_type".toList
  | .emptyText => "string_too_short".toList
  | .brokenText => "string_unicode".toList
  | .notMapping => "dict_type".toList

end BodyProblem

structure BodyError where
  place : List Text
  problem : BodyProblem
  input : Value
deriving BEq, Repr

structure GenerateBody where
  template : Text
  relativePath : Text
  language : Option Text
  profile : Text
  directives : Directives
deriving DecidableEq, Repr

abbrev Checked (α : Type) := Except (List BodyError) α

def Checked.both {α β : Type} (a : Checked α) (b : Checked β) : Checked (α × β) :=
  match a, b with
  | .ok a, .ok b => .ok (a, b)
  | .ok _, .error es => .error es
  | .error es, .ok _ => .error es
  | .error es, .error more => .error (es ++ more)

def wrong {α : Type} (place : List Text) (problem : BodyProblem) (input : Value) : Checked α :=
  .error [⟨place, problem, input⟩]

def checkText (place : List Text) : Value → Checked Text
  | .text t => .ok t
  | v => wrong place .notText v

def checkFilledText (place : List Text) (v : Value) : Checked Text :=
  (checkText place v).bind fun t =>
    if !Text.isWhole t then wrong place .brokenText v
    else if t.isEmpty then wrong place .emptyText v
    else .ok t

def checkTextOrNull (place : List Text) : Value → Checked (Option Text)
  | .null => .ok none
  | v => (checkText place v).map some

def checkDirectives (place : List Text) : Value → Checked Directives
  | .map entries => entries.foldr (fun e checked =>
      let name := e.1.display
      (Checked.both (checkText (place ++ [name]) e.2) checked).map fun (t, ds) =>
        (name, t) :: ds) (.ok [])
  | v => wrong place .notMapping v

def checkField {α : Type} (v : Value) (name : Text) (default : Option α)
    (check : List Text → Value → Checked α) : Checked α :=
  match v.field? name, default with
  | some field, _ => check ["body".toList, name] field
  | none, some a => .ok a
  | none, none => wrong ["body".toList, name] .missing v

def checkObject (v : Value) : Checked GenerateBody :=
  let template := checkField v "template".toList none checkText
  let path := checkField v "project_relative_path".toList none checkFilledText
  let language := checkField v "language".toList (some none) checkTextOrNull
  let profile := checkField v "profile".toList (some "webpage".toList) checkText
  let directives := checkField v "directives".toList (some []) checkDirectives
  (template.both (path.both (language.both (profile.both directives)))).map
    fun (template, path, language, profile, directives) =>
      ⟨template, path, language, profile, directives⟩

inductive BodyRefusal where
  | unfit (errors : List BodyError)
  | unreadable

/-- The encoding of a body without a byte-order mark, by where null bytes are among the first
ones. -/
def encodingOf : List UInt8 → Encoding
  | a :: b :: c :: d :: _ =>
    if a = 0 then if b = 0 then .utf32 .big else .utf16 .big
    else if b = 0 then if c = 0 && d = 0 then .utf32 .little else .utf16 .little
    else .utf8
  | [a, b] => if a = 0 then .utf16 .big else if b = 0 then .utf16 .little else .utf8
  | _ => .utf8

def decodeBody (bytes : List UInt8) : Except Failure Text :=
  match Encoding.markOf? bytes with
  | some mark => Encoding.decodeStrict mark.encoding mark.codec (bytes.drop mark.bytes.length)
  | none => Encoding.decodeStrict (encodingOf bytes) [] bytes

/-- The longest whole numbers and the deepest lists and mappings that a body may have. -/
def bodyLimits : Json.Limits := ⟨some Text.digitLimit, some 960⟩

def readBody (bytes : List UInt8) : Except BodyRefusal Value :=
  match decodeBody bytes with
  | .error _ => .error .unreadable
  | .ok t =>
    match Json.read bodyLimits t with
    | .ok v => .ok v
    | .error .malformed => .error (.unfit [⟨["body".toList], .invalidJson, .map []⟩])
    | .error _ => .error .unreadable

def checkValue : Value → Checked GenerateBody
  | .map entries => checkObject (.map entries)
  | v => wrong ["body".toList] .notObject v

def checkBody (t : Text) : Except BodyRefusal GenerateBody :=
  if t.isEmpty then .error (.unfit [⟨["body".toList], .missing, .null⟩])
  else
    (readBody (t.flatMap Encoding.utf8Bytes)).bind fun v =>
      (checkValue v).mapError .unfit

end TemplateCompiler.Http
