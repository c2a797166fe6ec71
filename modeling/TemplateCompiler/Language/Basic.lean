import TemplateCompiler.Failure
import TemplateCompiler.FilePath
import TemplateCompiler.Text.Case

/-! The languages that code can be generated in. -/

namespace TemplateCompiler

inductive Language where
  | csharp
  | visualBasic
deriving DecidableEq, Repr

namespace Language

def id : Language → Text
  | .csharp => "csharp".toList
  | .visualBasic => "vb".toList

def all : List Language := [.csharp, .visualBasic]

/-- What stands before the code of a file. Generated members have no documentation, so the warning
that misses it is turned off. -/
def preBlock : Language → Text
  | .csharp => "#pragma warning disable 1591\n".toList
  | .visualBasic => []

def postBlock : Language → Text
  | .csharp => "#pragma warning restore 1591\n".toList
  | .visualBasic => []

def layoutName : Language → Text
  | .csharp => "csharp/compile_unit.cs.j2".toList
  | .visualBasic => "vb/compile_unit.vb.j2".toList

def fileExtension : Language → Text
  | .csharp => ".cs".toList
  | .visualBasic => ".vb".toList

def templateExtension : Language → Text
  | .csharp => ".cshtml".toList
  | .visualBasic => ".vbhtml".toList

def ofId? (name : Text) : Option Language := all.find? fun l => l.id = name

def find (name : Option Text) : Except Failure Language :=
  match ofId? (Text.lower (name.getD []).trim) with
  | some l => .ok l
  | none => .error (.unknownLanguage name)

def ofPath? (path : Text) : Option Language :=
  let extension := Text.lower (FilePath.ofText path).suffix
  all.find? fun l => l.templateExtension = extension

def choose (asked : Option Text) (path : Text) : Except Failure Language :=
  match asked with
  | some (c :: rest) => find (some (c :: rest))
  | _ =>
    match ofPath? path with
    | some l => .ok l
    | none => .error (.underivableLanguage path)

end Language

end TemplateCompiler
