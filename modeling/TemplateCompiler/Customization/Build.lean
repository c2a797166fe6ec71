import TemplateCompiler.Customization.Basic

/-! Building a customization from its name and its arguments, which may be any values. What the
arguments have to be is checked here only as far as building needs it. -/

namespace TemplateCompiler

abbrev Arguments := List (Text × Value)

namespace Arguments

def fit (required optional : List Text) (args : Arguments) : Bool :=
  args.all (fun a => (required ++ optional).contains a.1) &&
    required.all fun name => (args.lookup name).isSome

def get (args : Arguments) (name : Text) (default : Value) : Value :=
  (args.lookup name).getD default

def getName (args : Arguments) (name : Text) : Except Failure Text :=
  match args.get name .null with
  | .text t => if t.isBlank then .error (.blankArgument name) else .ok t.trim
  | .bytes bs =>
    let t := Value.trimmedBytes bs
    if t.isEmpty then .error (.blankArgument name) else .ok t
  | v => if v.truthy then .error (.noOperation v.kindName "strip".toList)
    else .error (.blankArgument name)

end Arguments

namespace Customization

def toolName : Value := .text "MarkupGen".toList

def toolVersion : Value := .text "0.1.0".toList

def buildSetImports (args : Arguments) : Except Failure Customization :=
  let imports := args.get "imports".toList .null
  match imports.items? with
  | some items =>
    .ok (.setImports items (args.get "replace_existing".toList (.bool false)).truthy)
  | none => .error (.notIterable imports.kindName)

def buildReplaceText (args : Arguments) : Except Failure Customization :=
  let old := args.get "old".toList .null
  if old.truthy then .ok (.replaceText old (args.get "new".toList .null))
  else .error (.blankArgument "old".toList)

def buildRelativizePragmas (args : Arguments) : Except Failure Customization :=
  match args.get "base_dir".toList .null with
  | .text directory => .ok (.relativizePragmas (Pragma.normalDirectory directory))
  | .moment _ => .error .misfitArguments
  | .bytes bs => if bs.isEmpty then .ok (.relativizePragmas []) else .error .misfitArguments
  | v => if v.truthy then .error (.noOperation v.kindName "replace".toList)
    else .ok (.relativizePragmas [])

/-- How a customization is built: the arguments it has, and what it makes of them. -/
structure Recipe where
  name : Text
  required : List Text
  optional : List Text
  make : Arguments → Except Failure Customization

namespace Recipe

def run (r : Recipe) (args : Arguments) : Except Failure Customization :=
  if args.fit r.required r.optional then r.make args else .error .misfitArguments

end Recipe

def recipes : List Recipe :=
  [⟨"set_imports".toList, ["imports".toList], ["replace_existing".toList], buildSetImports⟩,
    ⟨"add_marker_attribute".toList, ["attribute_name".toList], [],
      fun args => (args.getName "attribute_name".toList).map .addMarker⟩,
    ⟨"exclude_from_code_coverage".toList, [], [], fun _ => .ok .excludeFromCoverage⟩,
    ⟨"add_generated_code_attribute".toList, [], ["tool".toList, "version".toList],
      fun args => .ok (.addGeneratedCode (args.get "tool".toList toolName)
        (args.get "version".toList toolVersion))⟩,
    ⟨"set_base_type".toList, ["base_type".toList], [],
      fun args => .ok (.setBaseType (args.get "base_type".toList .null))⟩,
    ⟨"set_namespace".toList, ["namespace".toList], [],
      fun args => (args.getName "namespace".toList).map .setNamespace⟩,
    ⟨"directive_dispatch".toList, [], [], fun _ => .ok (.directiveDispatch [])⟩,
    ⟨"make_partial_and_strip_default_constructor".toList, [], [], fun _ => .ok .makePartial⟩,
    ⟨"replace_text".toList, ["old".toList, "new".toList], [], buildReplaceText⟩,
    ⟨"rewrite_line_pragmas".toList, ["base_dir".toList], [], buildRelativizePragmas⟩]

def build (profile name : Text) (args : Arguments) : Except Failure Customization :=
  match recipes.find? fun r => r.name = name with
  | some r => r.run args
  | none => .error (.unknownTransformer name profile)

end Customization

end TemplateCompiler
