import TemplateCompiler.Customization.Hooks

/-! Chains of customizations, which may hold chains. A hook runs on the members in order; each
member takes what the one before it reached, and a failure stops the run. -/

namespace TemplateCompiler

inductive Chain (τ : Type) where
  | single (member : τ)
  | chain (members : List (Chain τ))

namespace Chain

variable {τ ν α : Type}

/-- What a hook of a chain did when its first member and then the others ran. -/
def join (first : HookRun (Chain τ) ν α) (rest : List (Chain τ))
    (others : α → HookRun (List (Chain τ)) ν α) : HookRun (List (Chain τ)) ν α :=
  match first.failure with
  | some f => ⟨first.after :: rest, first.reached, first.notes, some f⟩
  | none =>
    let r := others first.reached
    ⟨first.after :: r.after, r.reached, first.notes ++ r.notes, r.failure⟩

mutual

def run (hook : τ → α → HookRun τ ν α) : Chain τ → α → HookRun (Chain τ) ν α
  | .single member, a => (hook member a).mapAfter .single
  | .chain members, a => (runAll hook members a).mapAfter .chain

def runAll (hook : τ → α → HookRun τ ν α) :
    List (Chain τ) → α → HookRun (List (Chain τ)) ν α
  | [], a => .done [] a
  | member :: rest, a => join (run hook member a) rest (runAll hook rest)

end

mutual

/-- The members that are no chains, from left to right. -/
def leaves : Chain τ → List τ
  | .single member => [member]
  | .chain members => leavesOf members

def leavesOf : List (Chain τ) → List τ
  | [] => []
  | member :: rest => leaves member ++ leavesOf rest

end

mutual

def names (h : Hooks τ ν) : Chain τ → List Text
  | .single member => h.names member
  | .chain members => namesOf h members

def namesOf (h : Hooks τ ν) : List (Chain τ) → List Text
  | [] => []
  | member :: rest => names h member ++ namesOf h rest

end

def hooks (h : Hooks τ ν) : Hooks (Chain τ) ν where
  names := names h
  prepare := run h.prepare
  mutateModel := run h.mutateModel
  mutateText := run h.mutateText

mutual

def map {σ : Type} (f : τ → σ) : Chain τ → Chain σ
  | .single member => .single (f member)
  | .chain members => .chain (mapAll f members)

def mapAll {σ : Type} (f : τ → σ) : List (Chain τ) → List (Chain σ)
  | [] => []
  | member :: rest => map f member :: mapAll f rest

end

def size? : Chain τ → Option Nat
  | .single _ => none
  | .chain members => some members.length

end Chain

end TemplateCompiler
