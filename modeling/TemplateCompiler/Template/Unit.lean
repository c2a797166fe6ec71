import TemplateCompiler.Model.Basic
import TemplateCompiler.Template.Statements

/-! The compile unit of a template before it is customized, and the name of its type. -/

namespace TemplateCompiler

structure HostDefaults where
  imports : List Text
  baseType : Text
deriving DecidableEq, Repr

namespace HostDefaults

def webPage : HostDefaults where
  imports := ["System".toList, "System.Collections.Generic".toList, "System.IO".toList,
    "System.Linq".toList, "System.Net".toList, "System.Text".toList, "System.Web".toList,
    "System.Web".toList, "System.Web.Security".toList, "System.Web.UI".toList,
    "System.Web.WebPages".toList, "System.Web.Helpers".toList]
  baseType := "System.Web.WebPages.WebPage".toList

end HostDefaults

/-- The name of a type after the template's path: what cannot stand in an identifier becomes an
underscore, and one is put before a digit. -/
def typeName (path : Text) : Text :=
  match path with
  | [] => ['_']
  | c :: _ =>
    let name := if Text.isDigit c then '_' :: path else path
    name.map fun c => if Text.isIdentifierPart c then c else '_'

structure UnitNames where
  className : Text
  namespaceName : Text
  sourceFile : Text
  linePragmas : Bool
deriving DecidableEq, Repr

namespace Template

def compileUnit (host : HostDefaults) (names : UnitNames) (t : Text) : CompileUnit where
  sourceFile := names.sourceFile
  namespaceName := names.namespaceName
  imports := .ofList host.imports
  type :=
    { name := names.className
      baseType := .text host.baseType
      visibility := .exported
      isPartial := false
      attributes := []
      constructors := [.parameterless]
      entryMethod := ⟨"Execute".toList, statements t, names.linePragmas⟩ }

end Template

end TemplateCompiler
