import TemplateCompiler.Customization.Chain
import TemplateCompiler.Customization.Pragmas

/-! The customizations that profiles are composed of, and their hooks. -/

namespace TemplateCompiler

inductive Customization where
  | setImports (imports : List Value) (replaceExisting : Bool)
  | addMarker (name : Text)
  | excludeFromCoverage
  | addGeneratedCode (tool version : Value)
  | setBaseType (baseType : Value)
  | setNamespace (name : Text)
  | directiveDispatch (held : Directives)
  | makePartial
  | replaceText (old new : Value)
  | relativizePragmas (directory : Text)
deriving BEq

inductive Notice where
  /-- A type has several constructors without parameters, of which only the first is removed. -/
  | ambiguousConstructors (typeName : Text) (count : Nat)
deriving DecidableEq, Repr

namespace Customization

def name : Customization → Text
  | .setImports .. => "set_imports".toList
  | .addMarker _ => "add_marker_attribute".toList
  | .excludeFromCoverage => "exclude_from_code_coverage".toList
  | .addGeneratedCode .. => "add_generated_code_attribute".toList
  | .setBaseType _ => "set_base_type".toList
  | .setNamespace _ => "set_namespace".toList
  | .directiveDispatch _ => "directive_dispatch".toList
  | .makePartial => "make_partial_and_strip_default_constructor".toList
  | .replaceText .. => "replace_text".toList
  | .relativizePragmas _ => "rewrite_line_pragmas".toList

def title : Customization → Text
  | .setImports .. => "SetImports".toList
  | .addMarker _ => "AddMarkerAttribute".toList
  | .excludeFromCoverage => "ExcludeFromCodeCoverage".toList
  | .addGeneratedCode .. => "AddGeneratedCodeAttribute".toList
  | .setBaseType _ => "SetBaseType".toList
  | .setNamespace _ => "SetNamespace".toList
  | .directiveDispatch _ => "DirectiveDispatch".toList
  | .makePartial => "MakePartialAndStripDefaultConstructor".toList
  | .replaceText .. => "ReplaceText".toList
  | .relativizePragmas _ => "RewriteLinePragmas".toList

def prepare (c : Customization) (context : Context) : HookRun Customization Notice Context :=
  match c with
  | .setNamespace name => .done c { context with namespaceName := name }
  | .directiveDispatch _ => .done (.directiveDispatch context.directives) context
  | _ => .done c context

def generatedCode (tool version : Value) : CodeAttribute :=
  ⟨"System.CodeDom.Compiler.GeneratedCode".toList, [tool, version]⟩

/-- The type without its first constructor without parameters, and partial. -/
def stripConstructor (t : TypeDeclaration) : TypeDeclaration :=
  { t with
    isPartial := true
    constructors := t.constructors.eraseP Constructor.isDefault }

def ambiguity (t : TypeDeclaration) : List Notice :=
  if 1 < t.defaultConstructors then [.ambiguousConstructors t.name t.defaultConstructors] else []

def mutateModel (c : Customization) (u : CompileUnit) :
    HookRun Customization Notice CompileUnit :=
  match c with
  | .setImports imports replaceExisting =>
    let r := if replaceExisting then u.imports.replaceValues imports
      else u.imports.insertValues imports
    ⟨c, { u with imports := r.1 }, [], r.2⟩
  | .addMarker name => .done c (u.addAttribute (.marker name))
  | .excludeFromCoverage => .done c (u.addAttribute StandardDirective.coverageMarker)
  | .addGeneratedCode tool version => .done c (u.addAttribute (generatedCode tool version))
  | .setBaseType baseType => .done c (u.mapType fun t => { t with baseType := baseType })
  | .directiveDispatch held =>
    let r := StandardDirective.applyAll u (StandardDirective.table.selected held)
    ⟨c, r.1, [], r.2⟩
  | .makePartial => ⟨c, u.mapType stripConstructor, ambiguity u.type, none⟩
  | _ => .done c u

def replaceIn (old new : Value) (t : Text) : Except Failure Text :=
  match old, new with
  | .text old, .text new => .ok (Text.replace old new t)
  | .text _, new => .error (.notTextArgument 2 new.kindName)
  | old, _ => .error (.notTextArgument 1 old.kindName)

def mutateText (c : Customization) (t : Text) : HookRun Customization Notice Text :=
  match c with
  | .replaceText old new =>
    match replaceIn old new t with
    | .ok t => .done c t
    | .error f => .failed c t f
  | .relativizePragmas directory => .done c (Pragma.relativize directory t)
  | _ => .done c t

def hooks : Hooks Customization Notice where
  names c := [c.name]
  prepare := prepare
  mutateModel := mutateModel
  mutateText := mutateText

end Customization

end TemplateCompiler
