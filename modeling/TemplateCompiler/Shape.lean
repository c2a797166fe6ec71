import TemplateCompiler.Encoding.Source
import TemplateCompiler.Settings

/-! Taking typed parts out of a value. A value of the wrong shape is refused, and nothing but bytes
is turned into a text. -/

namespace TemplateCompiler

namespace Value

def falseWords : List Text :=
  ["0".toList, "off".toList, "f".toList, "false".toList, "n".toList, "no".toList]

def trueWords : List Text :=
  ["1".toList, "on".toList, "t".toList, "true".toList, "y".toList, "yes".toList]

def truth? : Value → Option Bool
  | .bool b => some b
  | .text t =>
    let word := Text.lower t
    if trueWords.contains word then some true
    else if falseWords.contains word then some false
    else none
  | v => if v.same (.int 1) then some true else if v.same (.int 0) then some false else none

def textual? : Value → Option Text
  | .text t => some t
  | .bytes bs => (Encoding.decodeStrict .utf8 [] bs).toOption
  | _ => none

def texts? : Value → Option (List Text)
  | .list items => items.mapM text?
  | _ => none

def textOrNull? : Value → Option (Option Text)
  | .null => some none
  | v => v.textual?.map some

def textKeyed? (v : Value) : Option (List (Text × Value)) :=
  match v.content with
  | .map entries => entries.mapM fun e => e.1.text?.map fun k => (k, e.2)
  | _ => none

def putNamed (name : Text) (value : Value) : List (Text × Value) → List (Text × Value)
  | [] => [(name, value)]
  | (n, v) :: rest => if n = name then (n, value) :: rest else (n, v) :: putNamed name value rest

/-- The entries of a mapping whose keys are texts or bytes that are, by their names. -/
def named? (v : Value) : Option (List (Text × Value)) :=
  match v.content with
  | .map entries => entries.foldlM (fun named e =>
      e.1.textual?.map fun name => putNamed name e.2 named) []
  | _ => none

/-- A field that takes its default when it is absent and must otherwise have a shape. -/
def fieldOr {α : Type} (v : Value) (key : Text) (read : Value → Option α) (default : α) :
    Except Failure α :=
  match v.field? key with
  | none => .ok default
  | some field =>
    match read field with
    | some a => .ok a
    | none => .error .misshapenDocument

end Value

namespace Settings

def ofFields (v : Value) : Except Failure Settings := do
  return {
    env := ← v.fieldOr "env".toList Value.text? default.env
    defaultNamespace :=
      ← v.fieldOr "default_namespace".toList Value.text? default.defaultNamespace
    defaultEncoding := ← v.fieldOr "default_encoding".toList Value.text? default.defaultEncoding
    host :=
      { imports := ← v.fieldOr "default_imports".toList Value.texts? default.host.imports
        baseType := ← v.fieldOr "default_base_type".toList Value.text? default.host.baseType }
    linePragmas := ← v.fieldOr "line_pragmas".toList Value.truth? default.linePragmas
    profilesFile := ← v.fieldOr "profiles_file".toList Value.textOrNull? default.profilesFile
    logLevel := ← v.fieldOr "log_level".toList Value.text? default.logLevel }

end Settings

end TemplateCompiler
