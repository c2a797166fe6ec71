import TemplateCompiler.Language.Spelling

/-! How a compile unit is written in Visual Basic. -/

namespace TemplateCompiler.VisualBasic

/-- A character that cannot stand in a literal is joined to the literals around it. -/
def joinedCharacter (c : Char) : Text :=
  "\" & Global.Microsoft.VisualBasic.ChrW(".toList ++ Text.ofNat c.toNat ++ ") & \"".toList

def escape (c : Char) : Text :=
  if c = '"' then ['"', '"']
  else if c = '\n' ∨ c = '\r' ∨ c = '\t' then joinedCharacter c
  else [c]

def attributeForm (name : Text) (arguments : List Text) : Text :=
  name ++ '(' :: Text.joinWith ", ".toList arguments ++ [')']

def visibilityWord (v : Visibility) : Text :=
  if v = .exported then "Public".toList else "Friend".toList

def declaration (t : TypeDeclaration) : Text :=
  (if t.isPartial then "Partial ".toList else []) ++ visibilityWord t.visibility ++
    " Class ".toList ++ t.name

def pragmaOpen (source : Text) (line : Int) : Text :=
  "#ExternalSource(\"".toList ++ source ++ "\",".toList ++ Text.ofInt line ++ [')']

def spelling : Spelling where
  escape := escape
  attributeForm := attributeForm
  declaration := declaration
  pragmaOpen := pragmaOpen
  pragmaClose := ["#End ExternalSource".toList]
  callEnd := []

def importLine (name : Text) : Text := "Imports ".toList ++ name

def attributeLine (form : Text) : Text := "    <".toList ++ form ++ ">  _".toList

def baseLines (base : Value) : List Text :=
  if base.truthy then ["        Inherits ".toList ++ base.display] else []

def constructorLines (c : Constructor) : List Text :=
  ("        Public Sub New(".toList ++ Text.joinWith ", ".toList c.parameters ++ [')']) ::
    "            MyBase.New".toList :: c.body.map (Spelling.bodyIndent ++ ·) ++
      ["        End Sub".toList]

def layout (u : CompileUnit) (attributes : List Text) : List Text :=
  ["Option Strict Off".toList, "Option Explicit On".toList, []] ++
    u.imports.names.map importLine ++ (if u.imports.names.isEmpty then [] else [[]]) ++
    ["Namespace ".toList ++ u.namespaceName] ++
    attributes.map attributeLine ++
    ["    ".toList ++ declaration u.type] ++
    baseLines u.type.baseType ++
    u.type.constructors.flatMap constructorLines ++
    ["        Public Overrides Sub ".toList ++ u.type.entryMethod.name ++ "()".toList] ++
    spelling.body u ++
    ["        End Sub".toList, "    End Class".toList, "End Namespace".toList]

end TemplateCompiler.VisualBasic
