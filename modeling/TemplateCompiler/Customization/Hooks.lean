import TemplateCompiler.Directive
import TemplateCompiler.Language.Basic

/-! A customization takes part in a pass through three hooks: before the template is read, on the
model, and on the text of the code. -/

namespace TemplateCompiler

/-- What a hook can look at and change before the template is read. -/
structure Context where
  directives : Directives
  language : Language
  relativePath : Text
  namespaceName : Text
  className : Text
  linePragmas : Bool
deriving DecidableEq, Repr

/-- What a hook did: the customization as it is afterwards, what was reached, what was noted, and
the failure that stopped it, if one did. -/
structure HookRun (τ ν α : Type) where
  after : τ
  reached : α
  notes : List ν
  failure : Option Failure

namespace HookRun

variable {τ σ ν μ α : Type}

def done (after : τ) (reached : α) : HookRun τ ν α := ⟨after, reached, [], none⟩

def failed (after : τ) (reached : α) (f : Failure) : HookRun τ ν α :=
  ⟨after, reached, [], some f⟩

def mapAfter (f : τ → σ) (r : HookRun τ ν α) : HookRun σ ν α :=
  ⟨f r.after, r.reached, r.notes, r.failure⟩

def mapNotes (f : ν → μ) (r : HookRun τ ν α) : HookRun τ μ α :=
  ⟨r.after, r.reached, r.notes.map f, r.failure⟩

end HookRun

/-- The hooks of customizations of a type, which may note things while they run. -/
structure Hooks (τ ν : Type) where
  names : τ → List Text
  prepare : τ → Context → HookRun τ ν Context
  mutateModel : τ → CompileUnit → HookRun τ ν CompileUnit
  mutateText : τ → Text → HookRun τ ν Text

end TemplateCompiler
