import TemplateCompiler.Proofs.Outcome
import TemplateCompiler.Registry

/-! The entries of a profiles document, each for itself: what makes one unusable, and what makes
all of them unusable with it. -/

namespace TemplateCompiler

def Value.hasOperation (operation : Text) : Value → Bool
  | .text _ => true
  | .bytes _ => true
  | .moment _ => operation == "replace".toList
  | _ => false

/-- A failure that an entry is not skipped for. -/
def Escapes {α : Type} (x : Except Failure α) : Prop :=
  ∃ f, x = .error f ∧ Registry.isSkippable f = false

namespace Escapes

variable {α β : Type}

@[simp] theorem ok (a : α) : ¬ Escapes (.ok a : Except Failure α) := by
  rintro ⟨f, failed, -⟩
  cases failed

@[simp] theorem error (f : Failure) :
    Escapes (.error f : Except Failure α) ↔ Registry.isSkippable f = false := by
  constructor
  · rintro ⟨_, same, escapes⟩
    exact Except.error.inj same ▸ escapes
  · exact fun escapes => ⟨f, rfl, escapes⟩

@[simp] theorem map (g : α → β) (x : Except Failure α) : Escapes (x.map g) ↔ Escapes x := by
  cases x <;> simp [Except.map]

@[simp] theorem ite (c : Prop) [Decidable c] (x y : Except Failure α) :
    Escapes (if c then x else y) ↔ c ∧ Escapes x ∨ ¬ c ∧ Escapes y := by
  by_cases holds : c <;> simp [holds]

theorem bind_iff (x : Except Failure α) (g : α → Except Failure β) :
    Escapes (x.bind g) ↔ Escapes x ∨ ∃ a, x = .ok a ∧ Escapes (g a) := by
  cases x <;> simp [Except.bind]

theorem mapM_skippable {f : α → Except Failure β} (skippable : ∀ a, ¬ Escapes (f a))
    (items : List α) : ¬ Escapes (items.mapM f) := by
  induction items with
  | nil => exact ok []
  | cons a items ih =>
    rw [List.mapM_cons]
    rintro (escaped : Escapes ((f a).bind _))
    rcases (bind_iff ..).1 escaped with first | ⟨b, -, later⟩
    · exact skippable a first
    rcases (bind_iff (items.mapM f) _).1 later with others | ⟨bs, -, none⟩
    · exact ih others
    · exact ok _ none

end Escapes

namespace Customization

def textOperations : List (Text × Text × Text) :=
  [("add_marker_attribute".toList, "attribute_name".toList, "strip".toList),
    ("set_namespace".toList, "namespace".toList, "strip".toList),
    ("rewrite_line_pragmas".toList, "base_dir".toList, "replace".toList)]

/-- The argument fits by its name, but is a value that the operation cannot be asked of. Values
that count as false are as good as empty texts. -/
def Clashes (name : Text) (args : Arguments) : Prop :=
  ∃ argument operation value, (name, argument, operation) ∈ textOperations ∧
    args.fit [argument] [] = true ∧ args.lookup argument = some value ∧
    value.truthy = true ∧ value.hasOperation operation = false

theorem getName_escapes_iff {args : Arguments} {argument : Text} :
    Escapes (args.getName argument) ↔
      ∃ value, args.lookup argument = some value ∧ value.truthy = true ∧
        value.hasOperation "strip".toList = false := by
  unfold Arguments.getName Arguments.get
  cases args.lookup argument with
  | none => simp [Value.truthy, Registry.isSkippable]
  | some value =>
    simp only [Option.getD_some, Option.some.injEq, exists_eq_left']
    generalize strips : "strip".toList = operation
    cases value with
    | text => simp [Value.hasOperation, Registry.isSkippable]
    | bytes => simp [Value.hasOperation, Registry.isSkippable]
    | moment =>
      have other : (operation == "replace".toList) = false := strips ▸ by decide
      simp only [Value.hasOperation, other]
      simp [Registry.isSkippable]
    | _ => simp [Value.hasOperation, Registry.isSkippable]

theorem buildRelativizePragmas_escapes_iff {args : Arguments} :
    Escapes (buildRelativizePragmas args) ↔
      ∃ value, args.lookup "base_dir".toList = some value ∧ value.truthy = true ∧
        value.hasOperation "replace".toList = false := by
  unfold buildRelativizePragmas Arguments.get
  cases args.lookup "base_dir".toList with
  | none => simp [Value.truthy]
  | some value =>
    simp only [Option.getD_some, Option.some.injEq, exists_eq_left']
    generalize replaces : "replace".toList = operation
    cases value with
    | text => simp [Value.hasOperation]
    | bytes => simp [Value.hasOperation, Registry.isSkippable]
    | moment => simp [Value.hasOperation, Registry.isSkippable, replaces]
    | _ => simp [Value.hasOperation, Registry.isSkippable]

theorem run_escapes_iff (r : Recipe) (args : Arguments) :
    Escapes (r.run args) ↔ args.fit r.required r.optional = true ∧ Escapes (r.make args) := by
  simp [Recipe.run, Registry.isSkippable]

theorem clashes_iff {name argument operation : Text} (args : Arguments)
    (listed : ∀ x ∈ textOperations, x.1 = name → x.2 = (argument, operation))
    (known : (name, argument, operation) ∈ textOperations) :
    Clashes name args ↔ args.fit [argument] [] = true ∧
      ∃ value, args.lookup argument = some value ∧ value.truthy = true ∧
        value.hasOperation operation = false := by
  constructor
  · rintro ⟨argument', operation', value, inside, fits, rest⟩
    cases listed _ inside rfl
    exact ⟨fits, value, rest⟩
  · rintro ⟨fits, value, rest⟩
    exact ⟨argument, operation, value, known, fits, rest⟩

theorem not_clashes {name : Text} (args : Arguments) (free : ∀ x ∈ textOperations, x.1 ≠ name) :
    ¬ Clashes name args := by
  rintro ⟨argument, operation, value, inside, -⟩
  exact free _ inside rfl

theorem recipe_escapes_iff {r : Recipe} (known : r ∈ recipes) (args : Arguments) :
    Escapes (r.run args) ↔ Clashes r.name args := by
  have plain {name : Text} {required optional : List Text}
      {make : Arguments → Except Failure Customization} (free : ∀ x ∈ textOperations, x.1 ≠ name)
      (makes : ∀ args, ¬ Escapes (make args)) :
      Escapes (Recipe.run ⟨name, required, optional, make⟩ args) ↔ Clashes name args :=
    iff_of_false (fun escapes => makes args ((run_escapes_iff ..).1 escapes).2)
      (not_clashes args free)
  simp only [recipes, List.mem_cons, List.not_mem_nil, or_false] at known
  rcases known with rfl | rfl | rfl | rfl | rfl | rfl | rfl | rfl | rfl | rfl
  · refine plain (by decide) fun args => ?_
    simp only [buildSetImports]
    split <;> simp [Registry.isSkippable]
  · rw [run_escapes_iff, Escapes.map, getName_escapes_iff]
    exact (clashes_iff args (by decide) (by decide)).symm
  · exact plain (by decide) fun _ => Escapes.ok _
  · exact plain (by decide) fun _ => Escapes.ok _
  · exact plain (by decide) fun _ => Escapes.ok _
  · rw [run_escapes_iff, Escapes.map, getName_escapes_iff]
    exact (clashes_iff args (by decide) (by decide)).symm
  · exact plain (by decide) fun _ => Escapes.ok _
  · exact plain (by decide) fun _ => Escapes.ok _
  · refine plain (by decide) fun args => ?_
    simp [buildReplaceText, Registry.isSkippable]
  · rw [run_escapes_iff, buildRelativizePragmas_escapes_iff]
    exact (clashes_iff args (by decide) (by decide)).symm

theorem build_escapes_iff (profile name : Text) (args : Arguments) :
    Escapes (build profile name args) ↔ Clashes name args := by
  unfold build
  split
  · next r found =>
    have called : r.name = name := by simpa using List.find?_some found
    rw [recipe_escapes_iff (List.mem_of_find?_eq_some found), called]
  · next missing =>
    refine iff_of_false (by simp [Registry.isSkippable]) (not_clashes args ?_)
    have unknown : ∀ r ∈ recipes, r.name ≠ name := by simpa using missing
    have listed : ∀ x ∈ textOperations, ∃ r ∈ recipes, r.name = x.1 := by decide
    intro x inside same
    obtain ⟨r, known, called⟩ := listed x inside
    exact unknown r known (called.trans same)

end Customization

namespace Profile

theorem fieldOr_skippable {α : Type} (v : Value) (key : Text) (read : Value → Option α)
    (default : α) : ¬ Escapes (v.fieldOr key read default) := by
  unfold Value.fieldOr
  split
  · exact Escapes.ok _
  · split <;> simp [Registry.isSkippable]

theorem specOf_skippable (v : Value) : ¬ Escapes (specOf v) := by
  unfold specOf
  split
  · next name _ =>
    rintro (escaped : Escapes ((v.fieldOr "args".toList Value.named? []).bind _))
    rcases (Escapes.bind_iff ..).1 escaped with args | ⟨args, -, none⟩
    · exact fieldOr_skippable _ _ _ _ args
    · exact Escapes.ok _ none
  · simp [Registry.isSkippable]

theorem listOf_skippable (v : Value) : ¬ Escapes (listOf specOf v) := by
  unfold listOf
  split
  · exact Escapes.mapM_skippable specOf_skippable _
  · exact Escapes.mapM_skippable specOf_skippable _
  · simp [Registry.isSkippable]

theorem ofBody_skippable (name : Text) (body : Value) : ¬ Escapes (ofBody name body) := by
  unfold ofBody
  simp only
  split
  · simp [Registry.isSkippable]
  · split
    · simp [Registry.isSkippable]
    · next fields _ _ =>
      intro escaped
      rcases (Escapes.bind_iff ..).1 escaped with description | ⟨description, -, later⟩
      · exact fieldOr_skippable _ _ _ _ description
      revert later
      split
      · exact Escapes.ok _
      · intro later
        rcases (Escapes.bind_iff ..).1 later with customizations | ⟨_, -, none⟩
        · exact listOf_skippable _ customizations
        · exact Escapes.ok _ none

theorem buildMembers_escapes_iff (profile : Text) (specs : List CustomizationSpec) :
    Escapes (buildMembers profile specs) ↔
      ∃ before spec after, specs = before ++ spec :: after ∧
        (∀ s ∈ before, ∃ c, Customization.build profile s.name s.args = .ok c) ∧
        Customization.Clashes spec.name spec.args := by
  induction specs with
  | nil => simp [buildMembers]
  | cons spec specs ih =>
    rw [buildMembers]
    have first := Customization.build_escapes_iff profile spec.name spec.args
    constructor
    · intro escaped
      split at escaped
      · next f failed =>
        rw [failed] at first
        exact ⟨[], spec, specs, rfl, by simp, first.1 ((Escapes.error f).2
          ((Escapes.error f).1 escaped))⟩
      · next c built =>
        rw [Escapes.map, ih] at escaped
        obtain ⟨before, clashing, after, rfl, fine, clash⟩ := escaped
        exact ⟨spec :: before, clashing, after, rfl,
          List.forall_mem_cons.2 ⟨⟨c, built⟩, fine⟩, clash⟩
    · rintro ⟨before, clashing, after, split, fine, clash⟩
      cases before with
      | nil =>
        obtain ⟨rfl, rfl⟩ := List.cons.inj split
        obtain ⟨f, failed, escapes⟩ := first.2 clash
        simp only [failed, Escapes.error, escapes]
      | cons s before =>
        obtain ⟨rfl, rfl⟩ := List.cons.inj split
        obtain ⟨⟨c, built⟩, fine⟩ := List.forall_mem_cons.1 fine
        simp only [built, Escapes.map]
        exact ih.2 ⟨before, clashing, after, rfl, fine, clash⟩

end Profile

namespace Registry

/-- The profile of an entry, if it can be used. -/
def accepted? (entry : Value × Value) : Option Profile := (checked entry.1 entry.2).toOption

/-- The entry has the shape of a profile, and building its customizations one after the other
comes to one that clashes with its argument. -/
def Breaks (entry : Value × Value) : Prop :=
  ∃ name p before spec after, nameOf entry.1 = .ok name ∧ Profile.ofBody name entry.2 = .ok p ∧
    p.customizations = before ++ spec :: after ∧
    (∀ s ∈ before, ∃ c, Customization.build p.name s.name s.args = .ok c) ∧
    Customization.Clashes spec.name spec.args

theorem checked_escapes_iff (entry : Value × Value) :
    Escapes (checked entry.1 entry.2) ↔ Breaks entry := by
  have build (p : Profile) : Escapes (p.build.bind fun _ => .ok p) ↔
      Escapes (Profile.buildMembers p.name p.customizations) := by
    rw [Escapes.bind_iff, Profile.build, Escapes.map]
    simp
  have unnamed : ¬ Escapes (nameOf entry.1) := by simp [nameOf, isSkippable]
  constructor
  · intro escaped
    rcases (Escapes.bind_iff ..).1 escaped with named | ⟨name, named, later⟩
    · exact absurd named unnamed
    rcases (Escapes.bind_iff ..).1 later with shaped | ⟨p, shaped, later⟩
    · exact absurd shaped (Profile.ofBody_skippable _ _)
    obtain ⟨before, spec, after, members⟩ :=
      (Profile.buildMembers_escapes_iff ..).1 ((build p).1 later)
    exact ⟨name, p, before, spec, after, named, shaped, members⟩
  · rintro ⟨name, p, before, spec, after, named, shaped, members⟩
    refine (Escapes.bind_iff ..).2 (.inr ⟨name, named, ?_⟩)
    refine (Escapes.bind_iff ..).2 (.inr ⟨p, shaped, ?_⟩)
    exact (build p).2 ((Profile.buildMembers_escapes_iff ..).2 ⟨before, spec, after, members⟩)

theorem checked_builds {key body : Value} {p : Profile} (usable : checked key body = .ok p) :
    ∃ chain, p.build = .ok chain := by
  unfold checked at usable
  obtain ⟨name, named, usable⟩ := do_eq_ok_iff.1 usable
  obtain ⟨q, shaped, usable⟩ := do_eq_ok_iff.1 usable
  obtain ⟨chain, built, usable⟩ := do_eq_ok_iff.1 usable
  cases usable
  exact ⟨chain, built⟩

end Registry

end TemplateCompiler
