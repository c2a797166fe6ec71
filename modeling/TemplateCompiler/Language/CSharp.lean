import TemplateCompiler.Language.Spelling

/-! How a compile unit is written in C#. -/

namespace TemplateCompiler.CSharp

def escape (c : Char) : Text :=
  if c = '\\' then "\\\\".toList
  else if c = '"' then "\\\"".toList
  else if c = '\n' then "\\n".toList
  else if c = '\r' then "\\r".toList
  else if c = '\t' then "\\t".toList
  else if c = '\x00' then "\\0".toList
  else if c = '\u0085' then "\\u0085".toList
  else if c = '\u2028' then "\\u2028".toList
  else if c = '\u2029' then "\\u2029".toList
  else [c]

def attributeForm (name : Text) (arguments : List Text) : Text :=
  if arguments.isEmpty then name
  else name ++ '(' :: Text.joinWith ", ".toList arguments ++ [')']

def declaration (t : TypeDeclaration) : Text :=
  t.visibility.name ++ (if t.isPartial then " partial class ".toList else " class ".toList) ++
    t.name ++ if t.baseType.truthy then " : ".toList ++ t.baseType.display else []

def pragmaOpen (source : Text) (line : Int) : Text :=
  "#line ".toList ++ Text.ofInt line ++ " \"".toList ++ source ++ ['"']

def spelling : Spelling where
  escape := escape
  attributeForm := attributeForm
  declaration := declaration
  pragmaOpen := pragmaOpen
  pragmaClose := ["#line default".toList, "#line hidden".toList]
  callEnd := [';']

def importLine (name : Text) : Text := "    using ".toList ++ name ++ [';']

def attributeLine (form : Text) : Text := "    [".toList ++ form ++ [']']

def constructorLines (typeName : Text) (c : Constructor) : List Text :=
  ("        public ".toList ++ typeName ++ '(' :: Text.joinWith ", ".toList c.parameters ++ [')']) ::
    "        \x7b".toList :: c.body.map (Spelling.bodyIndent ++ ·) ++ ["        \x7d".toList]

def layout (u : CompileUnit) (attributes : List Text) : List Text :=
  ["namespace ".toList ++ u.namespaceName, ['\x7b']] ++
    u.imports.names.map importLine ++ (if u.imports.names.isEmpty then [] else [[]]) ++
    attributes.map attributeLine ++
    ["    ".toList ++ declaration u.type, "    \x7b".toList] ++
    u.type.constructors.flatMap (constructorLines u.type.name) ++
    ["        public override void ".toList ++ u.type.entryMethod.name ++ "()".toList,
      "        \x7b".toList] ++
    spelling.body u ++
    ["        \x7d".toList, "    \x7d".toList, ['\x7d']]

end TemplateCompiler.CSharp
