import TemplateCompiler.FileTree
import TemplateCompiler.Profile
import TemplateCompiler.Text.Surrogate
import TemplateCompiler.Yaml.Construct

/-! The profiles by name: those built in, and those of a profiles file. An entry of the file that
cannot be used is skipped, and a file that cannot be read adds nothing. -/

namespace TemplateCompiler

inductive LoadNotice where
  | fileNotFound
  | fileUnreadable
  | noProfiles
  | skipped (name : Text)
  | loaded (count : Nat)
deriving DecidableEq, Repr

structure Registry where
  profiles : List Profile
deriving BEq

namespace Registry

def builtIn : Registry := ⟨Profile.builtIn⟩

def get? (r : Registry) (name : Text) : Option Profile :=
  r.profiles.find? fun p => p.name = name

def put (r : Registry) (p : Profile) : Registry :=
  ⟨(r.profiles.filter fun q => q.name ≠ p.name) ++ [p]⟩

def names (r : Registry) : List Text :=
  (r.profiles.map (·.name)).mergeSort Text.atMost

def resolve (r : Registry) (name : Text) : Except Failure (Chain Customization) :=
  match r.get? name with
  | some p => p.build
  | none => .error (.unknownProfile name)

def isSkippable : Failure → Bool
  | .noOperation .. => false
  | _ => true

def nameOf (key : Value) : Except Failure Text :=
  if key.isWritable then .ok key.display else .error .unwritableInteger

def checked (key body : Value) : Except Failure Profile := do
  let name ← nameOf key
  let p ← Profile.ofBody name body
  let _ ← p.build
  return p

def addEntries (r : Registry) (count : Nat) :
    List (Value × Value) → Except Failure (Registry × List LoadNotice)
  | [] => .ok (r, [.loaded count])
  | (key, body) :: rest =>
    match checked key body with
    | .ok p => addEntries (r.put p) (count + 1) rest
    | .error f =>
      if isSkippable f then
        (addEntries r count rest).map fun (r, notices) => (r, .skipped key.display :: notices)
      else .error f

def addDocument (r : Registry) (document : Value) : Except Failure (Registry × List LoadNotice) :=
  match (document.field? "profiles".toList).map Value.content with
  | some (.map entries) => addEntries r 0 entries
  | _ => .ok (r, [.noProfiles])

def addBytes (r : Registry) (bytes : List UInt8) : Except Failure (Registry × List LoadNotice) :=
  (Encoding.decodeStrict .utf8 "utf-8".toList bytes).bind fun text =>
    match Yaml.read text with
    | .ok document => addDocument r document
    | .error .malformed => .ok (r, [.fileUnreadable])
    | .error (.unusable f) => .error f

def load (files : FileTree) (file : Option Text) :
    Except Failure (Registry × List LoadNotice) :=
  match file with
  | none => .ok (builtIn, [])
  | some name =>
    let path := FilePath.ofText name
    (files.isThere path).bind fun there =>
      if !there then .ok (builtIn, [.fileNotFound])
      else
        match files.read path with
        | .ok bytes => addBytes builtIn bytes
        | .error _ => .ok (builtIn, [.fileUnreadable])

end Registry

end TemplateCompiler
