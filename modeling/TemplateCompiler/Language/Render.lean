import TemplateCompiler.Language.Basic
import TemplateCompiler.Language.CSharp
import TemplateCompiler.Language.VisualBasic

/-! The code of a compile unit. It fails only where an attribute's argument is not a text, or the
base type has no text. -/

namespace TemplateCompiler

def Text.unlines (lines : List Text) : Text := lines.flatMap (· ++ ['\n'])

namespace Language

def spelling : Language → Spelling
  | .csharp => CSharp.spelling
  | .visualBasic => VisualBasic.spelling

def layout : Language → CompileUnit → List Text → List Text
  | .csharp => CSharp.layout
  | .visualBasic => VisualBasic.layout

def checkBaseType (base : Value) : Except Failure Unit :=
  if base.truthy && !base.isWritable then .error .unwritableInteger else .ok ()

def renderLines (l : Language) (u : CompileUnit) : Except Failure (List Text) := do
  let attributes ← u.type.attributes.mapM l.spelling.attributeText
  checkBaseType u.type.baseType
  return l.layout u attributes

def render (l : Language) (u : CompileUnit) : Except Failure Text :=
  (l.renderLines u).map Text.unlines

def renderIn (name : Text) (u : CompileUnit) : Except Failure Text :=
  match ofId? name with
  | some l => l.render u
  | none => .error (.noRenderer name)

def wrap (l : Language) (code : Text) : Text := l.preBlock ++ code ++ l.postBlock

end Language

end TemplateCompiler
