import Mathlib.Data.List.Nodup
import TemplateCompiler.Proofs.Customization.Declared

/-! Directives as changes of single parts of a unit. What a directive with its value changes is said
without the unit, so changes of different parts can be made in any order. -/

namespace TemplateCompiler

/-- What one directive can do to a unit. -/
inductive Change where
  | nothing
  | typeName (rename : Text → Text)
  | namespaceName (name : Text)
  | imports (names : List Text)
  | attribute (a : CodeAttribute)
  | visibility (v : Visibility)
  | noLinePragmas

namespace Change

def on (c : Change) (u : CompileUnit) : CompileUnit :=
  match c with
  | .nothing => u
  | .typeName rename => { u with type := { u.type with name := rename u.type.name } }
  | .namespaceName name => { u with namespaceName := name }
  | .imports names => { u with imports := u.imports.insertAll names }
  | .attribute a => { u with
      type := { u.type with attributes := CodeAttribute.addDistinct u.type.attributes a } }
  | .visibility v => { u with type := { u.type with visibility := v } }
  | .noLinePragmas => { u with
      type := { u.type with entryMethod := { u.type.entryMethod with linePragmas := false } } }

/-- The parts of a unit that directives change. -/
inductive Aspect where
  | typeName
  | namespaceName
  | imports
  | attributes
  | visibility
  | linePragmas
deriving DecidableEq, Repr

def aspect? : Change → Option Aspect
  | .nothing => none
  | .typeName _ => some .typeName
  | .namespaceName _ => some .namespaceName
  | .imports _ => some .imports
  | .attribute _ => some .attributes
  | .visibility _ => some .visibility
  | .noLinePragmas => some .linePragmas

def imported : Change → List Text
  | .imports names => names
  | _ => []

theorem on_imports (c : Change) (u : CompileUnit) :
    (c.on u).imports = u.imports.insertAll c.imported := by
  cases c <;> rfl

def Apart (c d : Change) : Prop := ∀ part, c.aspect? = some part → d.aspect? ≠ some part

theorem Apart.on_comm {c d : Change} (apart : c.Apart d) (u : CompileUnit) :
    c.on (d.on u) = d.on (c.on u) := by
  -- Changes of one kind are of one part; those of two kinds set two fields.
  cases c <;> cases d <;> first | rfl | exact absurd rfl (apart _ rfl)

end Change

section

variable {α β : Type} {f : α → Option β} {xs ys : List α}

theorem findSome?_eq_some_iff_of_single
    (single : ∀ x ∈ xs, ∀ y ∈ xs, ∀ b c, f x = some b → f y = some c → b = c) {b : β} :
    xs.findSome? f = some b ↔ ∃ x ∈ xs, f x = some b := by
  refine ⟨List.exists_of_findSome?_eq_some, fun ⟨x, inside, found⟩ => ?_⟩
  cases first : xs.findSome? f with
  | none =>
    have nowhere := List.findSome?_eq_none_iff.1 first x inside
    rw [found] at nowhere
    cases nowhere
  | some c =>
    obtain ⟨y, inside', found'⟩ := List.exists_of_findSome?_eq_some first
    rw [single x inside y inside' b c found found']

theorem findSome?_perm (perm : xs.Perm ys)
    (single : ∀ x ∈ xs, ∀ y ∈ xs, ∀ b c, f x = some b → f y = some c → b = c) :
    xs.findSome? f = ys.findSome? f := by
  refine Option.ext fun b => ?_
  rw [findSome?_eq_some_iff_of_single single, findSome?_eq_some_iff_of_single]
  · simp only [perm.mem_iff]
  · simpa only [perm.mem_iff] using single

end

namespace StandardDirective

def change (e : StandardDirective × Text) : Change :=
  match e.1 with
  | .className => if e.2.isBlank then .nothing else .typeName fun _ => e.2.trim
  | .namespaceName => if e.2.isBlank then .nothing else .namespaceName e.2.trim
  | .imports => .imports (importNames e.2)
  | .excludeFromCodeCoverage =>
    if Text.flag false (some e.2) then .attribute coverageMarker else .nothing
  | .typeVisibility =>
    match visibilityOf (some e.2) with
    | .ok v => .visibility v
    | .error _ => .nothing
  | .disableLinePragmas => if Text.flag false (some e.2) then .noLinePragmas else .nothing
  | .trimLeadingUnderscores =>
    if Text.flag false (some e.2) then .typeName trimUnderscores else .nothing

theorem apply_change {e : StandardDirective × Text} (fine : refusal? e = none) (u : CompileUnit) :
    e.1.apply (some e.2) u = .ok ((change e).on u) := by
  obtain ⟨d, value⟩ := e
  cases d with
  | typeVisibility =>
    simp only [refusal?] at fine
    simp only [apply, change]
    cases seen : visibilityOf (some value) with
    | error f => simp [seen] at fine
    | ok v => rfl
  | imports => rfl
  | excludeFromCodeCoverage =>
    simp only [apply, change, CompileUnit.addAttribute_eq]
    split <;> rfl
  | className | namespaceName | disableLinePragmas | trimLeadingUnderscores =>
    simp only [apply, change, Option.getD_some]
    split <;> rfl

theorem applyAll_changes {es : List (StandardDirective × Text)}
    (fine : ∀ e ∈ es, refusal? e = none) (u : CompileUnit) :
    (applyAll u es).1 = es.foldl (fun v e => (change e).on v) u := by
  induction es generalizing u with
  | nil => rfl
  | cons e es ih =>
    obtain ⟨first, others⟩ := List.forall_mem_cons.1 fine
    rw [applyAll, apply_change first]
    exact ih others _

theorem imported_change {e : StandardDirective × Text} (other : e.1 ≠ .imports) :
    (change e).imported = [] := by
  obtain ⟨d, value⟩ := e
  cases d with
  | imports => exact absurd rfl other
  | typeVisibility =>
    simp only [change]
    cases visibilityOf (some value) <;> rfl
  | className | namespaceName | excludeFromCodeCoverage | disableLinePragmas
    | trimLeadingUnderscores =>
    simp only [change]
    split <;> rfl

theorem applyAll_imports {es : List (StandardDirective × Text)}
    (fine : ∀ e ∈ es, refusal? e = none) (u : CompileUnit) :
    (applyAll u es).1.imports = u.imports.insertAll (es.flatMap fun e => (change e).imported) := by
  rw [applyAll_changes fine]
  induction es generalizing u with
  | nil => rfl
  | cons e es ih =>
    rw [List.foldl_cons, ih (List.forall_mem_cons.1 fine).2, Change.on_imports, List.flatMap_cons,
      ImportSet.insertAll, ImportSet.insertAll, ImportSet.insertAll, List.foldl_append]

def aspect : StandardDirective → Change.Aspect
  | .className => .typeName
  | .namespaceName => .namespaceName
  | .imports => .imports
  | .excludeFromCodeCoverage => .attributes
  | .typeVisibility => .visibility
  | .disableLinePragmas => .linePragmas
  | .trimLeadingUnderscores => .typeName

theorem change_aspect (e : StandardDirective × Text) :
    change e = .nothing ∨ (change e).aspect? = some e.1.aspect := by
  obtain ⟨d, value⟩ := e
  cases d with
  | imports => exact .inr rfl
  | typeVisibility =>
    simp only [change]
    cases visibilityOf (some value) with
    | error f => exact .inl rfl
    | ok v => exact .inr rfl
  | className | namespaceName =>
    simp only [change]
    split
    · exact .inl rfl
    · exact .inr rfl
  | excludeFromCodeCoverage | disableLinePragmas | trimLeadingUnderscores =>
    simp only [change]
    split
    · exact .inr rfl
    · exact .inl rfl

theorem eq_or_typeName {d d' : StandardDirective} (same : d.aspect = d'.aspect) :
    d = d' ∨ d = .className ∧ d' = .trimLeadingUnderscores ∨
      d = .trimLeadingUnderscores ∧ d' = .className := by
  cases d <;> cases d' <;> simp [aspect] at same ⊢

/-- No directive is there twice, and one of the two for the type's name has nothing to change. -/
structure Independent (es : List (StandardDirective × Text)) : Prop where
  once : (es.map Prod.fst).Nodup
  oneName : ∀ e ∈ es, ∀ e' ∈ es, e.1 = .className → e'.1 = .trimLeadingUnderscores →
    change e = .nothing ∨ change e' = .nothing

section Independent

variable {es es' : List (StandardDirective × Text)} (independent : Independent es)
include independent

theorem Independent.eq_of_fst {e e' : StandardDirective × Text} (inside : e ∈ es)
    (inside' : e' ∈ es) (same : e.1 = e'.1) : e = e' :=
  List.inj_on_of_nodup_map independent.once inside inside' same

theorem Independent.apart {e e' : StandardDirective × Text} (inside : e ∈ es)
    (inside' : e' ∈ es) (other : e ≠ e') : (change e).Apart (change e') := by
  intro part changed changed'
  have idle {c : Change} (nothing : c = .nothing) : c.aspect? ≠ some part := by
    rw [nothing]
    exact nofun
  have first := (change_aspect e).resolve_left fun nothing => idle nothing changed
  have second := (change_aspect e').resolve_left fun nothing => idle nothing changed'
  have same : e.1.aspect = e'.1.aspect :=
    Option.some.inj (((first.symm.trans changed).trans changed'.symm).trans second)
  rcases eq_or_typeName same with again | ⟨named, trimmed⟩ | ⟨trimmed, named⟩
  · exact other (independent.eq_of_fst inside inside' again)
  · exact (independent.oneName e inside e' inside' named trimmed).elim (idle · changed)
      (idle · changed')
  · exact (independent.oneName e' inside' e inside named trimmed).elim (idle · changed')
      (idle · changed)

theorem Independent.comm {e e' : StandardDirective × Text} (inside : e ∈ es) (inside' : e' ∈ es)
    (u : CompileUnit) :
    (change e').on ((change e).on u) = (change e).on ((change e').on u) := by
  by_cases same : e = e'
  · rw [same]
  · exact ((independent.apart inside inside' same).on_comm u).symm

theorem Independent.refusal_perm (perm : es.Perm es') :
    es.findSome? refusal? = es'.findSome? refusal? := by
  -- Only a visibility is refused, and there is at most one directive for it.
  refine findSome?_perm perm fun e inside e' inside' f f' refused refused' => ?_
  obtain ⟨named, rfl⟩ := refusal?_eq_some refused
  obtain ⟨named', rfl⟩ := refusal?_eq_some refused'
  rw [independent.eq_of_fst inside inside' (named.trans named'.symm)]

theorem Independent.applyAll_perm (perm : es.Perm es') (u : CompileUnit) :
    (applyAll u es).2 = (applyAll u es').2 ∧
      ((applyAll u es).2 = none → (applyAll u es).1 = (applyAll u es').1) := by
  rw [applyAll_failure, applyAll_failure]
  refine ⟨independent.refusal_perm perm, fun fine => ?_⟩
  have carried : ∀ e ∈ es, refusal? e = none := List.findSome?_eq_none_iff.1 fine
  rw [applyAll_changes carried,
    applyAll_changes fun e inside => carried e (perm.mem_iff.2 inside)]
  exact perm.foldl_eq' (fun e inside e' inside' v => independent.comm inside inside' v) u

end Independent

/-- With both directives for the type's name the order shows. -/
example (u : CompileUnit) :
    let named : StandardDirective × Text := (.className, "_A".toList)
    let trimmed : StandardDirective × Text := (.trimLeadingUnderscores, "on".toList)
    (applyAll u [named, trimmed]).1.type.name = "A".toList ∧
      (applyAll u [trimmed, named]).1.type.name = "_A".toList :=
  ⟨rfl, rfl⟩

end StandardDirective

end TemplateCompiler
