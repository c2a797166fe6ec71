import TemplateCompiler.Model.ImportSet
import TemplateCompiler.Model.Statement

/-! The model of the code to be rendered: a compile unit with one namespace, which holds one type
with one entry method. -/

namespace TemplateCompiler

/-- An attribute of the type. Arguments are texts, unless a customization was given something
else. -/
structure CodeAttribute where
  name : Text
  arguments : List Value
deriving BEq

namespace CodeAttribute

def isMarker (a : CodeAttribute) : Bool := a.arguments.isEmpty

def marker (name : Text) : CodeAttribute := ⟨name, []⟩

def same (a b : CodeAttribute) : Bool :=
  a.name == b.name && (Value.list a.arguments).same (.list b.arguments)

end CodeAttribute

structure Constructor where
  parameters : List Text
  body : List Text
deriving DecidableEq, Repr

namespace Constructor

def parameterless : Constructor := ⟨[], []⟩

def isDefault (c : Constructor) : Bool := c.parameters.isEmpty

end Constructor

structure EntryMethod where
  name : Text
  statements : List Statement
  linePragmas : Bool
deriving DecidableEq, Repr

inductive Visibility where
  | exported
  | internal
  | other (name : Text)
deriving DecidableEq, Repr

namespace Visibility

def name : Visibility → Text
  | .exported => "public".toList
  | .internal => "internal".toList
  | .other name => name

def ofName (name : Text) : Visibility :=
  if name = "public".toList then .exported
  else if name = "internal".toList then .internal
  else .other name

end Visibility

structure TypeDeclaration where
  name : Text
  /-- The base type; any value may stand here, and one that counts as false is none. -/
  baseType : Value
  visibility : Visibility
  isPartial : Bool
  attributes : List CodeAttribute
  constructors : List Constructor
  entryMethod : EntryMethod
deriving BEq

namespace TypeDeclaration

def hasAttribute (t : TypeDeclaration) (a : CodeAttribute) : Bool := t.attributes.any a.same

def addAttribute (t : TypeDeclaration) (a : CodeAttribute) : TypeDeclaration :=
  if t.hasAttribute a then t else { t with attributes := t.attributes ++ [a] }

def defaultConstructors (t : TypeDeclaration) : Nat := t.constructors.countP Constructor.isDefault

end TypeDeclaration

structure CompileUnit where
  sourceFile : Text
  namespaceName : Text
  imports : ImportSet
  type : TypeDeclaration
deriving BEq

namespace CompileUnit

def mapType (u : CompileUnit) (f : TypeDeclaration → TypeDeclaration) : CompileUnit :=
  { u with type := f u.type }

def addAttribute (u : CompileUnit) (a : CodeAttribute) : CompileUnit :=
  u.mapType (·.addAttribute a)

end CompileUnit

end TemplateCompiler
