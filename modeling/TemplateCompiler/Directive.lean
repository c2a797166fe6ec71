import TemplateCompiler.Settings

/-! Directives: what a request asks for by name, such as another type name or more imports. -/

namespace TemplateCompiler

/-- The directives of a request. A name occurs once, where it came first. -/
abbrev Directives := List (Text × Text)

namespace Directives

def put (ds : Directives) (name value : Text) : Directives :=
  match ds with
  | [] => [(name, value)]
  | (n, v) :: rest =>
    if n = name then (n, value) :: rest else (n, v) :: put rest name value

def ofList (entries : List (Text × Text)) : Directives :=
  entries.foldl (fun ds e => ds.put e.1 e.2) []

end Directives

/-- What to do by directive names, in lower case; of two entries for a name the last counts. -/
abbrev DirectiveTable (α : Type) := List (Text × α)

namespace DirectiveTable

variable {α : Type}

def ofList (entries : List (Text × α)) : DirectiveTable α :=
  (entries.map fun e => (Text.lower e.1, e.2)).reverse

def find? (table : DirectiveTable α) (name : Text) : Option α :=
  table.lookup (Text.lower name.trim)

def selected (table : DirectiveTable α) (ds : Directives) : List (α × Text) :=
  ds.filterMap fun d => (table.find? d.1).map fun a => (a, d.2)

end DirectiveTable

inductive StandardDirective where
  | className
  | namespaceName
  | imports
  | excludeFromCodeCoverage
  | typeVisibility
  | disableLinePragmas
  | trimLeadingUnderscores
deriving DecidableEq, Repr

namespace StandardDirective

def name : StandardDirective → Text
  | .className => "ClassName".toList
  | .namespaceName => "Namespace".toList
  | .imports => "Imports".toList
  | .excludeFromCodeCoverage => "ExcludeFromCodeCoverage".toList
  | .typeVisibility => "TypeVisibility".toList
  | .disableLinePragmas => "DisableLinePragmas".toList
  | .trimLeadingUnderscores => "TrimLeadingUnderscores".toList

def all : List StandardDirective :=
  [.className, .namespaceName, .imports, .excludeFromCodeCoverage, .typeVisibility,
    .disableLinePragmas, .trimLeadingUnderscores]

def named? (name : Text) : Option StandardDirective := all.find? fun d => d.name = name

def find (name : Text) : Except Failure StandardDirective :=
  match named? name with
  | some d => .ok d
  | none => .error (.unknownDirective name)

def table : DirectiveTable StandardDirective := .ofList (all.map fun d => (d.name, d))

def coverageMarker : CodeAttribute :=
  .marker "System.Diagnostics.CodeAnalysis.ExcludeFromCodeCoverage".toList

def visibilityOf (value : Option Text) : Except Failure Visibility :=
  match Visibility.ofName (Text.lower (value.getD []).trim) with
  | .other _ => .error (.badVisibility value)
  | v => .ok v

def importNames (value : Text) : List Text :=
  (Text.splitOn (fun c => c == ';' || c == ',') value).map Text.trim

def trimUnderscores (name : Text) : Text :=
  let rest := name.dropWhile (· == '_')
  if rest.isEmpty then name else rest

def apply (d : StandardDirective) (value : Option Text) (u : CompileUnit) :
    Except Failure CompileUnit :=
  let text := value.getD []
  match d with
  | .className =>
    .ok (if text.isBlank then u else u.mapType fun t => { t with name := text.trim })
  | .namespaceName => .ok (if text.isBlank then u else { u with namespaceName := text.trim })
  | .imports => .ok { u with imports := u.imports.insertAll (importNames text) }
  | .excludeFromCodeCoverage =>
    .ok (if Text.flag false value then u.addAttribute coverageMarker else u)
  | .typeVisibility =>
    (visibilityOf value).map fun v => u.mapType fun t => { t with visibility := v }
  | .disableLinePragmas =>
    .ok (if Text.flag false value then
      u.mapType fun t => { t with entryMethod := { t.entryMethod with linePragmas := false } }
    else u)
  | .trimLeadingUnderscores =>
    .ok (if Text.flag false value then
      u.mapType fun t => { t with name := trimUnderscores t.name }
    else u)

/-- Carries out directives one after the other, up to the first that fails: what was changed
until then, and the failure. -/
def applyAll (u : CompileUnit) : List (StandardDirective × Text) → CompileUnit × Option Failure
  | [] => (u, none)
  | (d, value) :: rest =>
    match d.apply (some value) u with
    | .ok u => applyAll u rest
    | .error f => (u, some f)

end StandardDirective

end TemplateCompiler
