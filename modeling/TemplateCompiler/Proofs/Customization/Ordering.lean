import TemplateCompiler.Proofs.Customization.Parts

/-! Customizations in another order. Each part of a unit is changed by customizations of one kind:
as long as those that override each other keep their order, the others can stand anywhere. Only
the order of the attributes shows where the attributes were added. -/

namespace TemplateCompiler

namespace CodeAttribute

theorem Plain.mem_iff {a : CodeAttribute} (plain : a.Plain) (as : List CodeAttribute) :
    as.any a.same = true ↔ a ∈ as := by
  rw [List.any_eq_true]
  constructor
  · rintro ⟨b, inside, same⟩
    exact (plain.same_iff b).1.1 same ▸ inside
  · intro inside
    exact ⟨a, inside, (plain.same_iff a).1.2 rfl⟩

theorem Plain.addDistinct_of_mem {a : CodeAttribute} (plain : a.Plain) {as : List CodeAttribute}
    (inside : a ∈ as) : addDistinct as a = as := if_pos ((plain.mem_iff as).2 inside)

theorem Plain.addDistinct_of_notMem {a : CodeAttribute} (plain : a.Plain)
    {as : List CodeAttribute} (new : a ∉ as) : addDistinct as a = as ++ [a] :=
  if_neg (mt (plain.mem_iff as).1 new)

theorem Plain.addDistinct_perm {a : CodeAttribute} (plain : a.Plain) {as bs : List CodeAttribute}
    (perm : as.Perm bs) : (addDistinct as a).Perm (addDistinct bs a) := by
  by_cases inside : a ∈ as
  · rw [plain.addDistinct_of_mem inside, plain.addDistinct_of_mem (perm.mem_iff.1 inside)]
    exact perm
  · rw [plain.addDistinct_of_notMem inside,
      plain.addDistinct_of_notMem (mt perm.mem_iff.2 inside)]
    exact perm.append_right [a]

theorem Plain.mem_addDistinct {a b : CodeAttribute} (plain : a.Plain) {as : List CodeAttribute} :
    b ∈ addDistinct as a ↔ b ∈ as ∨ b = a := by
  by_cases inside : a ∈ as
  · rw [plain.addDistinct_of_mem inside]
    exact ⟨.inl, fun either => either.elim id fun same => same ▸ inside⟩
  · rw [plain.addDistinct_of_notMem inside, List.mem_append, List.mem_singleton]

theorem Plain.addDistinct_comm {a b : CodeAttribute} (plainA : a.Plain) (plainB : b.Plain)
    (as : List CodeAttribute) :
    (addDistinct (addDistinct as a) b).Perm (addDistinct (addDistinct as b) a) := by
  by_cases same : a = b
  · rw [same]
  have other : b ≠ a := Ne.symm same
  by_cases insideA : a ∈ as
  · have later : a ∈ addDistinct as b := plainB.mem_addDistinct.2 (.inl insideA)
    rw [plainA.addDistinct_of_mem insideA, plainA.addDistinct_of_mem later]
  by_cases insideB : b ∈ as
  · have later : b ∈ addDistinct as a := plainA.mem_addDistinct.2 (.inl insideB)
    rw [plainB.addDistinct_of_mem insideB, plainB.addDistinct_of_mem later]
  have laterA : a ∉ as ++ [b] := by simp [insideA, same]
  have laterB : b ∉ as ++ [a] := by simp [insideB, other]
  rw [plainA.addDistinct_of_notMem insideA, plainB.addDistinct_of_notMem insideB,
    plainA.addDistinct_of_notMem laterA, plainB.addDistinct_of_notMem laterB, List.append_assoc,
    List.append_assoc]
  exact (List.Perm.swap b a []).append_left as

theorem Plain.foldl_addDistinct_of_mem {a : CodeAttribute} (plain : a.Plain)
    {xs : List CodeAttribute} (all : ∀ x ∈ xs, x = a) {as : List CodeAttribute}
    (inside : a ∈ as) : xs.foldl addDistinct as = as := by
  induction xs with
  | nil => rfl
  | cons x xs ih =>
    obtain ⟨rfl, others⟩ := List.forall_mem_cons.1 all
    rw [List.foldl_cons, plain.addDistinct_of_mem inside]
    exact ih others

theorem Plain.foldl_addDistinct_of_notMem {a : CodeAttribute} (plain : a.Plain)
    {xs : List CodeAttribute} (all : ∀ x ∈ xs, x = a) {as : List CodeAttribute} (new : a ∉ as) :
    xs.foldl addDistinct as = if xs.isEmpty then as else as ++ [a] := by
  cases xs with
  | nil => rfl
  | cons x xs =>
    obtain ⟨rfl, others⟩ := List.forall_mem_cons.1 all
    rw [List.foldl_cons, plain.addDistinct_of_notMem new]
    exact plain.foldl_addDistinct_of_mem others (List.mem_append_right as (List.mem_singleton_self x))

theorem foldl_addDistinct_start {xs : List CodeAttribute} (plain : ∀ a ∈ xs, a.Plain)
    {as bs : List CodeAttribute} (start : as.Perm bs) :
    (xs.foldl addDistinct as).Perm (xs.foldl addDistinct bs) := by
  induction xs generalizing as bs with
  | nil => exact start
  | cons x xs ih =>
    obtain ⟨first, others⟩ := List.forall_mem_cons.1 plain
    exact ih others (first.addDistinct_perm start)

theorem foldl_addDistinct_perm {xs ys : List CodeAttribute} (perm : xs.Perm ys)
    (plain : ∀ a ∈ xs, a.Plain) (as : List CodeAttribute) :
    (xs.foldl addDistinct as).Perm (ys.foldl addDistinct as) := by
  induction perm generalizing as with
  | nil => exact .refl as
  | cons x _ ih => exact ih (List.forall_mem_cons.1 plain).2 (addDistinct as x)
  | swap x y xs =>
    obtain ⟨plainY, others⟩ := List.forall_mem_cons.1 plain
    obtain ⟨plainX, rest⟩ := List.forall_mem_cons.1 others
    exact foldl_addDistinct_start rest (plainY.addDistinct_comm plainX as)
  | @trans _ zs _ first _ ihFirst ihSecond =>
    have moved : ∀ a ∈ zs, a.Plain := fun a inside => plain a (first.mem_iff.2 inside)
    exact (ihFirst plain as).trans (ihSecond moved as)

end CodeAttribute

/-- The units differ at most in the order of the attributes. -/
structure CompileUnit.SameButOrder (u v : CompileUnit) : Prop where
  attributes : u.type.attributes.Perm v.type.attributes
  others : v = { u with type := { u.type with attributes := v.type.attributes } }

theorem CompileUnit.sameButOrder_of_parts {u v : CompileUnit} (directed : u.directed = v.directed)
    (base : u.type.baseType = v.type.baseType) (shape : u.shape = v.shape)
    (attributes : u.type.attributes.Perm v.type.attributes) : u.SameButOrder v := by
  obtain ⟨sourceFile, namespaceName, imports, ⟨⟩⟩ := u
  obtain ⟨sourceFile', namespaceName', imports', ⟨⟩⟩ := v
  simp only [CompileUnit.directed, mk.injEq, TypeDeclaration.mk.injEq, true_and] at directed
  obtain ⟨rfl, rfl, rfl, rfl, rfl, rfl⟩ := directed
  obtain ⟨rfl, rfl⟩ := Prod.mk.inj shape
  cases base
  exact ⟨attributes, rfl⟩

namespace Customization

/-- The customizations in another order, but with those that can override each other in the order in
which they were. -/
structure Reordered (cs ds : List Customization) : Prop where
  perm : cs.Perm ds
  order : ∀ part, cs.filter (concerns part) = ds.filter (concerns part)

theorem Reordered.trans {cs ds es : List Customization} (first : Reordered cs ds)
    (second : Reordered ds es) : Reordered cs es :=
  ⟨first.perm.trans second.perm, fun part => (first.order part).trans (second.order part)⟩

/-- A customization can stand anywhere if it overrides none, and otherwise anywhere among those that
have nothing to do with its part. -/
theorem reordered_move (before others after : List Customization) {c : Customization}
    (apart : c.part? = none ∨ ∀ d ∈ others, d.part? ≠ c.part?) :
    Reordered (before ++ c :: (others ++ after)) (before ++ (others ++ c :: after)) where
  perm := List.perm_middle.symm.append_left before
  order part := by
    simp only [List.filter_append, List.filter_cons]
    cases concerned : c.concerns part with
    | false => rfl
    | true =>
      have named : c.part? = some part := of_decide_eq_true concerned
      have none : others.filter (concerns part) = [] := by
        refine List.filter_eq_nil_iff.2 fun d inside same => ?_
        have rival : d.part? = some part := of_decide_eq_true same
        rcases apart with free | apart
        · rw [free] at named
          cases named
        · exact apart d inside (rival.trans named.symm)
      rw [none]
      rfl

theorem Reordered.holding {cs ds : List Customization} (reordered : Reordered cs ds)
    (held : Directives) : Reordered (cs.map (holding held)) (ds.map (holding held)) where
  perm := reordered.perm.map _
  order part := by
    have same : concerns part ∘ Customization.holding held = concerns part := by
      funext c
      cases c <;> rfl
    rw [List.filter_map, List.filter_map, same, reordered.order]

theorem Reordered.strips {cs ds : List Customization} (reordered : Reordered cs ds) :
    cs.filter strips = ds.filter strips := by
  have all (xs : List Customization) (c : Customization)
      (inside : c ∈ xs.filter Customization.strips) : c = .makePartial := by
    have stripping := (List.mem_filter.1 inside).2
    cases c with
    | makePartial => rfl
    | _ => cases stripping
  have perm := reordered.perm.filter Customization.strips
  rw [List.eq_replicate_of_mem (all cs), List.eq_replicate_of_mem (all ds), perm.length_eq]

theorem reach_attributes {cs : List Customization} (fine : ∀ c ∈ cs, c.refusal? = none)
    (u : CompileUnit) :
    (Chain.reach mutateModel cs u).type.attributes =
      (cs.flatMap added).foldl CodeAttribute.addDistinct u.type.attributes := by
  induction cs generalizing u with
  | nil => rfl
  | cons c cs ih =>
    obtain ⟨first, others⟩ := List.forall_mem_cons.1 fine
    rw [Chain.reach, List.foldl_cons, ← Chain.reach, ih others, mutateModel_attributes first,
      List.flatMap_cons, List.foldl_append]

section Reordered

variable {cs ds : List Customization} (reordered : Reordered cs ds)
include reordered

theorem reach_prepare_reordered (context : Context) :
    Chain.reach prepare cs context = Chain.reach prepare ds context :=
  Chain.reach_congr_filter id (concerns .namespaceName)
    (fun t _ _ same => congrArg (fun found => (t.prepare found).reached) same)
    (fun _ found other => prepare_others other found) (reordered.order .namespaceName) context

theorem findSome?_refusal?_reordered : cs.findSome? refusal? = ds.findSome? refusal? := by
  have directing : refusal? = fun c => if c.concerns .imports = true then c.refusal? else none := by
    funext c
    cases c <;> rfl
  have only (xs : List Customization) :
      xs.findSome? refusal? = (xs.filter (concerns .imports)).findSome? refusal? := by
    rw [← List.head?_filterMap, ← List.head?_filterMap, List.filterMap_filter, ← directing]
  rw [only cs, reordered.order, ← only ds]

theorem reach_mutateModel_reordered (declared : ∀ c ∈ cs, c.Declared)
    (fine : cs.findSome? refusal? = none) (u : CompileUnit) :
    (Chain.reach mutateModel cs u).SameButOrder (Chain.reach mutateModel ds u) := by
  have directed : (Chain.reach mutateModel cs u).directed =
      (Chain.reach mutateModel ds u).directed :=
    Chain.reach_congr_filter CompileUnit.directed (concerns .imports)
      (fun t _ _ same => t.mutateModel_directed same)
      (fun _ v other => mutateModel_directed_others other v) (reordered.order .imports) u
  have base : (Chain.reach mutateModel cs u).type.baseType =
      (Chain.reach mutateModel ds u).type.baseType :=
    Chain.reach_congr_filter (fun v : CompileUnit => v.type.baseType) (concerns .baseType)
      (fun t v w same => by rw [mutateModel_base, mutateModel_base, same])
      (fun _ v other => mutateModel_base_others other v) (reordered.order .baseType) u
  have shape : (Chain.reach mutateModel cs u).shape = (Chain.reach mutateModel ds u).shape :=
    Chain.reach_congr_filter CompileUnit.shape Customization.strips
      (fun t _ _ same => t.mutateModel_shape same)
      (fun _ v other => mutateModel_shape_others other v) reordered.strips u
  refine CompileUnit.sameButOrder_of_parts directed base shape ?_
  have refused : ∀ c ∈ cs, c.refusal? = none := List.findSome?_eq_none_iff.1 fine
  have refused' : ∀ c ∈ ds, c.refusal? = none := fun c inside =>
    refused c (reordered.perm.mem_iff.2 inside)
  rw [reach_attributes refused, reach_attributes refused']
  refine CodeAttribute.foldl_addDistinct_perm (reordered.perm.flatMap_right added) ?_ _
  intro a inside
  obtain ⟨c, listed, adds⟩ := List.mem_flatMap.1 inside
  exact plain_added (declared c listed) a adds

end Reordered

theorem prepare_reached (c : Chain Customization) (context : Context) :
    ((Chain.hooks hooks).prepare c context).reached = Chain.reach prepare c.leaves context :=
  (Chain.run_failing (fun t _ found => t.prepare_failure found) context).2
    (prepare_leaves context).1

/-- Customizations that do not override each other can stand in any order, however they are nested:
the same context is prepared, and then the model hooks fail in the same way or reach the same unit
but for the order of its attributes. -/
theorem mutateModel_reordered {c d : Chain Customization} (reordered : Reordered c.leaves d.leaves)
    (declared : ∀ t ∈ c.leaves, t.Declared) (context : Context) (u : CompileUnit) :
    let first := (Chain.hooks hooks).prepare c context
    let second := (Chain.hooks hooks).prepare d context
    let left := (Chain.hooks hooks).mutateModel first.after u
    let right := (Chain.hooks hooks).mutateModel second.after u
    first.failure = none ∧ second.failure = none ∧ first.reached = second.reached ∧
      left.failure = right.failure ∧
      (left.failure = none → left.reached.SameButOrder right.reached) := by
  intro first second left right
  obtain ⟨fine, leaves⟩ := prepare_leaves (c := c) context
  obtain ⟨fine', leaves'⟩ := prepare_leaves (c := d) context
  have same : first.reached = second.reached := by
    rw [prepare_reached, prepare_reached, reach_prepare_reordered reordered]
  have held : Reordered first.after.leaves second.after.leaves := by
    rw [leaves, leaves']
    exact reordered.holding context.directives
  have given : ∀ t ∈ first.after.leaves, t.Declared := by
    rw [leaves]
    exact List.forall_mem_map.2 fun t inside => declared_holding.2 (declared t inside)
  have given' : ∀ t ∈ second.after.leaves, t.Declared := fun t inside =>
    given t (held.perm.mem_iff.2 inside)
  obtain ⟨failed, reached⟩ :=
    Chain.run_failing (fun t inside v => mutateModel_failure (given t inside) v) u
  obtain ⟨failed', reached'⟩ :=
    Chain.run_failing (fun t inside v => mutateModel_failure (given' t inside) v) u
  have failure : left.failure = right.failure :=
    failed.trans ((findSome?_refusal?_reordered held).trans failed'.symm)
  refine ⟨fine, fine', same, failure, fun through => ?_⟩
  have units := reach_mutateModel_reordered held given (failed.symm.trans through) u
  rw [← reached through, ← reached' (failure.symm.trans through)] at units
  exact units

def importing : Chain Customization :=
  .chain [.single (.setImports [.text "A".toList] true), .single (.directiveDispatch []),
    .single (.addMarker "Marked".toList)]

def excludedFirst : Chain Customization :=
  .chain [.single .excludeFromCoverage, .single (.setNamespace "Views".toList), importing]

def excludedLast : Chain Customization :=
  .chain [importing, .single (.setNamespace "Views".toList), .single .excludeFromCoverage]

theorem reordered_excludedFirst : Reordered excludedFirst.leaves excludedLast.leaves := by
  let between := importing.leaves ++ [.setNamespace "Views".toList]
  have named : Reordered excludedFirst.leaves (.excludeFromCoverage :: between) :=
    reordered_move [.excludeFromCoverage] importing.leaves [] (.inr (by decide))
  have excluded : Reordered (.excludeFromCoverage :: between) excludedLast.leaves :=
    reordered_move [] between [] (c := .excludeFromCoverage) (.inl rfl)
  exact named.trans excluded

def importingContext : Context where
  directives := [("Imports".toList, "B;A".toList)]
  language := .visualBasic
  relativePath := "a.vbhtml".toList
  namespaceName := "ASP".toList
  className := "Page".toList
  linePragmas := true

def barePage : CompileUnit :=
  Template.compileUnit .webPage ⟨"Page".toList, "ASP".toList, "a.vbhtml".toList, true⟩ []

theorem mutateModel_reordered_excludedFirst :
    let first := (Chain.hooks hooks).prepare excludedFirst importingContext
    let second := (Chain.hooks hooks).prepare excludedLast importingContext
    let left := (Chain.hooks hooks).mutateModel first.after barePage
    let right := (Chain.hooks hooks).mutateModel second.after barePage
    Reordered excludedFirst.leaves excludedLast.leaves ∧
      (∀ t ∈ excludedFirst.leaves, t.Declared) ∧ left.failure = none ∧
      left.reached.type.attributes.map CodeAttribute.name =
        [StandardDirective.coverageMarker.name, "Marked".toList] ∧
      right.reached.type.attributes.map CodeAttribute.name =
        ["Marked".toList, StandardDirective.coverageMarker.name] ∧
      first.failure = none ∧ second.failure = none ∧ first.reached = second.reached ∧
      left.failure = right.failure ∧
      (left.failure = none → left.reached.SameButOrder right.reached) := by
  have declared : ∀ t ∈ excludedFirst.leaves, t.Declared := by
    have imports : (Customization.setImports [.text "A".toList] true).Declared :=
      List.forall_mem_singleton.2 ⟨_, rfl⟩
    exact List.forall_mem_cons.2 ⟨trivial, List.forall_mem_cons.2 ⟨trivial,
      List.forall_mem_cons.2 ⟨imports, List.forall_mem_cons.2 ⟨trivial,
        List.forall_mem_singleton.2 trivial⟩⟩⟩⟩
  refine ⟨reordered_excludedFirst, declared, by decide +kernel, by decide +kernel,
    by decide +kernel, ?_⟩
  exact mutateModel_reordered reordered_excludedFirst declared importingContext barePage

end Customization

end TemplateCompiler
