import TemplateCompiler.Generator
import TemplateCompiler.Registry

/-! What passes are run in: files, codecs, environment, counters, and the registries that were
loaded. Loading a profiles file is noted once, as long as its registry is kept. -/

namespace TemplateCompiler

structure Workspace where
  files : FileTree
  codecs : Encoding.Codecs
  environment : Environment
  metrics : Metrics
  /-- The registries in use by profiles file, the one used last first. -/
  registries : List (Option Text × Registry)

/-- What was noted while something was done, and what came of it. -/
structure Answer (α : Type) where
  workspace : Workspace
  notices : List LoadNotice
  outcome : Except Failure α

namespace Workspace

def empty : Workspace := ⟨.empty, Encoding.noCodecs, [], .zero, []⟩

def settings (w : Workspace) : Settings := .ofEnvironment w.environment

def registryLimit : Nat := 8

def keep (w : Workspace) (file : Option Text) (r : Registry) : Workspace :=
  let others := w.registries.filter fun entry => entry.1 ≠ file
  { w with registries := ((file, r) :: others).take registryLimit }

/-- The registry of a profiles file, loaded unless it is kept. One that cannot be loaded is not
kept. -/
def registryOf (w : Workspace) (file : Option Text) : Answer Registry :=
  match w.registries.lookup file with
  | some r => ⟨w.keep file r, [], .ok r⟩
  | none =>
    match Registry.load w.files file with
    | .ok (r, notices) => ⟨w.keep file r, notices, .ok r⟩
    | .error f => ⟨w, [], .error f⟩

def registry (w : Workspace) : Answer Registry := w.registryOf w.settings.profilesFile

def clearRegistries (w : Workspace) : Workspace := { w with registries := [] }

def run (w : Workspace) (request : Request) (profile : Text) (inline : Option Text) :
    Answer (PassRun (Chain Customization) Notice) :=
  let settings := w.settings
  let a := w.registryOf settings.profilesFile
  let prepared := do
    let registry ← a.outcome
    let chain ← registry.resolve profile
    let generator ← Generator.create w.codecs settings request inline
    return generator.run (Chain.hooks Customization.hooks) a.workspace.files chain
  match prepared with
  | .error f => ⟨a.workspace, a.notices, .error f⟩
  | .ok pass =>
    ⟨{ a.workspace with metrics := Pass.count a.workspace.metrics pass }, a.notices, .ok pass⟩

end Workspace

end TemplateCompiler
