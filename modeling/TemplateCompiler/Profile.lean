import TemplateCompiler.Customization.Build
import TemplateCompiler.Shape

/-! Profiles name a list of customizations. Two are built in. -/

namespace TemplateCompiler

structure CustomizationSpec where
  name : Text
  args : Arguments
deriving BEq, Repr

structure Profile where
  name : Text
  description : Option Text
  customizations : List CustomizationSpec
deriving BEq, Repr

namespace Profile

def buildMembers (profile : Text) :
    List CustomizationSpec → Except Failure (List (Chain Customization))
  | [] => .ok []
  | spec :: rest =>
    match Customization.build profile spec.name spec.args with
    | .error f => .error f
    | .ok c => (buildMembers profile rest).map (.single c :: ·)

def build (p : Profile) : Except Failure (Chain Customization) :=
  (buildMembers p.name p.customizations).map .chain

def webpage : Profile where
  name := "webpage".toList
  description := some "Web page: host defaults, customized by template directives".toList
  customizations := [⟨"directive_dispatch".toList, []⟩]

def templateImports : Value :=
  .list [.text "System".toList, .text "System.Collections.Generic".toList,
    .text "System.Linq".toList, .text "System.Text".toList]

def templateBaseType : Value := .text "MarkupGen.Templating.TemplateBase".toList

def template : Profile where
  name := "template".toList
  description := some "Standalone text template with a minimal import set".toList
  customizations :=
    [⟨"set_imports".toList,
        [("imports".toList, templateImports), ("replace_existing".toList, .bool true)]⟩,
      ⟨"add_generated_code_attribute".toList, []⟩,
      ⟨"directive_dispatch".toList, []⟩,
      ⟨"set_base_type".toList, [("base_type".toList, templateBaseType)]⟩,
      ⟨"make_partial_and_strip_default_constructor".toList, []⟩]

def builtIn : List Profile := [webpage, template]

def specOf (v : Value) : Except Failure CustomizationSpec := do
  match (v.field? "name".toList).bind Value.textual? with
  | some name => return ⟨name, ← v.fieldOr "args".toList Value.named? []⟩
  | none => .error .misshapenDocument

def listOf {α : Type} (read : Value → Except Failure α) (v : Value) : Except Failure (List α) :=
  match v.content with
  | .list items => items.mapM read
  | .set items => items.mapM read
  | _ => .error .misshapenDocument

/-- The body of a profile in a document. Nothing stands for an empty mapping, and the name is not
part of the body. -/
def ofBody (name : Text) (body : Value) : Except Failure Profile := do
  let body := if body.truthy then body else .map []
  match body.textKeyed? with
  | none => .error .misfitArguments
  | some fields =>
    if (fields.lookup "name".toList).isSome then .error .misfitArguments
    else
      let description ← body.fieldOr "description".toList Value.textOrNull? none
      let customizations ← match fields.lookup "transformers".toList with
        | none => .ok []
        | some v => listOf specOf v
      return ⟨name, description, customizations⟩

end Profile

end TemplateCompiler
