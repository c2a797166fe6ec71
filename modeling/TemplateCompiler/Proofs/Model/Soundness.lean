import TemplateCompiler.Model.Basic
import TemplateCompiler.Proofs.Text.Trim

/-! Units that are in order: no import or attribute is there twice, imports are trimmed names, and
the type has a name and a visibility. Adding imports and attributes keeps a unit in order. -/

namespace TemplateCompiler

namespace Value

theorem text_same_iff {t : Text} {v : Value} : (text t).same v = true ↔ text t = v := by
  cases v <;> simp [same, number?]

theorem same_text_iff {t : Text} {v : Value} : v.same (text t) = true ↔ v = text t := by
  cases v <;> simp [same, number?]

end Value

namespace CodeAttribute

/-- All arguments are texts. -/
def Plain (a : CodeAttribute) : Prop := ∀ v ∈ a.arguments, ∃ t, v = Value.text t

theorem plain_sameList_iff {xs : List Value} (plain : ∀ v ∈ xs, ∃ t, v = Value.text t)
    (ys : List Value) :
    (Value.sameList xs ys = true ↔ xs = ys) ∧ (Value.sameList ys xs = true ↔ ys = xs) := by
  induction xs generalizing ys with
  | nil => cases ys <;> simp [Value.sameList]
  | cons x xs ih =>
    obtain ⟨⟨t, rfl⟩, others⟩ := List.forall_mem_cons.1 plain
    cases ys with
    | nil => simp [Value.sameList]
    | cons y ys =>
      obtain ⟨left, right⟩ := ih others ys
      simp only [Value.sameList, Bool.and_eq_true, Value.text_same_iff, Value.same_text_iff, left,
        right, List.cons.injEq, and_self]

theorem Plain.same_iff {a : CodeAttribute} (plain : a.Plain) (b : CodeAttribute) :
    (a.same b = true ↔ a = b) ∧ (b.same a = true ↔ b = a) := by
  obtain ⟨name, arguments⟩ := a
  obtain ⟨name', arguments'⟩ := b
  obtain ⟨left, right⟩ := plain_sameList_iff plain arguments'
  simp only [same, Value.same, Bool.and_eq_true, beq_iff_eq, left, right, mk.injEq, and_self]

theorem plain_marker (name : Text) : (marker name).Plain := List.forall_mem_nil _

end CodeAttribute

namespace ImportSet

/-- Trimmed names, each of them once. -/
structure Sound (s : ImportSet) : Prop where
  distinct : s.names.Nodup
  trimmed : ∀ n ∈ s.names, n.trim = n ∧ n ≠ []

theorem sound_empty : empty.Sound := ⟨List.nodup_nil, List.forall_mem_nil _⟩

theorem Sound.insert {s : ImportSet} (sound : s.Sound) (name : Text) : (s.insert name).Sound := by
  unfold ImportSet.insert
  simp only [Bool.or_eq_true, List.isEmpty_iff, List.contains_iff_mem]
  split
  · exact sound
  · next new =>
    rw [not_or] at new
    constructor
    · refine List.nodup_append.2 ⟨sound.distinct, List.pairwise_singleton _ _, ?_⟩
      rintro n inside m last rfl
      exact new.2 (List.mem_singleton.1 last ▸ inside)
    · intro n inside
      rcases List.mem_append.1 inside with old | last
      · exact sound.trimmed n old
      · rw [List.mem_singleton.1 last]
        exact ⟨name.trim_trim, new.1⟩

theorem Sound.insertAll {s : ImportSet} (sound : s.Sound) (names : List Text) :
    (s.insertAll names).Sound := by
  induction names generalizing s with
  | nil => exact sound
  | cons name names ih => exact ih (sound.insert name)

theorem Sound.insertValues {s : ImportSet} (sound : s.Sound) (vs : List Value) :
    (s.insertValues vs).1.Sound := by
  induction vs generalizing s with
  | nil => exact sound
  | cons v vs ih =>
    rw [ImportSet.insertValues]
    cases nameOf v with
    | error f => exact sound
    | ok name => exact ih (sound.insert name)

theorem names_insertAll (s : ImportSet) (names : List Text) :
    (s.insertAll names).names = s.names ++
      (((names.map Text.trim).filter fun n => !n.isEmpty).removeAll s.names).eraseDups := by
  induction names generalizing s with
  | nil => exact (List.append_nil _).symm
  | cons name names ih =>
    have first : s.insertAll (name :: names) = (s.insert name).insertAll names := rfl
    rw [first, ih, insert, List.map_cons]
    cases blank : name.trim.isEmpty with
    | true => simp [blank]
    | false =>
      by_cases known : name.trim ∈ s.names
      · simp [blank, known, List.removeAll]
      · simp only [blank, known, List.removeAll, List.eraseDups_cons, List.filter_cons,
          List.filter_filter, Bool.not_false, List.elem_eq_mem, decide_false, if_true,
          Bool.false_or, Bool.false_eq_true, if_false, List.append_assoc, List.singleton_append]
        refine congrArg (s.names ++ name.trim :: List.eraseDups ·) (List.filter_congr fun n _ => ?_)
        by_cases same : n = name.trim <;> simp [same, Bool.and_comm]

theorem mem_insertAll (s : ImportSet) (names : List Text) {n : Text} :
    n ∈ (s.insertAll names).names ↔ n ∈ s.names ∨ (n ∈ names.map Text.trim ∧ n ≠ []) := by
  rw [names_insertAll, List.mem_append, List.mem_eraseDups, List.removeAll, List.mem_filter,
    List.mem_filter]
  by_cases known : n ∈ s.names <;> simp [known]

theorem mem_insert (s : ImportSet) (name : Text) {n : Text} :
    n ∈ (s.insert name).names ↔ n ∈ s.names ∨ (n = name.trim ∧ n ≠ []) := by
  have alone : s.insert name = s.insertAll [name] := rfl
  rw [alone, mem_insertAll, List.map_singleton, List.mem_singleton]

end ImportSet

namespace CompileUnit

structure Sound (u : CompileUnit) : Prop where
  imports : u.imports.Sound
  attributes : u.type.attributes.Pairwise fun a b => a.same b = false
  visibility : u.type.visibility = .exported ∨ u.type.visibility = .internal
  name : u.type.name ≠ []

theorem Sound.addAttribute {u : CompileUnit} (sound : u.Sound) {a : CodeAttribute}
    (plain : a.Plain) : (u.addAttribute a).Sound := by
  cases applied : u.type.hasAttribute a with
  | true =>
    have same : u.type.addAttribute a = u.type := if_pos applied
    rw [CompileUnit.addAttribute, mapType, same]
    exact sound
  | false =>
    have added : u.type.addAttribute a = { u.type with attributes := u.type.attributes ++ [a] } :=
      if_neg (Bool.eq_false_iff.1 applied)
    rw [CompileUnit.addAttribute, mapType, added]
    refine ⟨sound.imports, ?_, sound.visibility, sound.name⟩
    refine List.pairwise_append.2 ⟨sound.attributes, List.pairwise_singleton _ _, ?_⟩
    intro b inside c last
    rw [List.mem_singleton.1 last]
    refine Bool.eq_false_iff.2 fun same => Bool.eq_false_iff.1 applied ?_
    exact List.any_eq_true.2 ⟨b, inside, (plain.same_iff b).1.2 ((plain.same_iff b).2.1 same).symm⟩

end CompileUnit

end TemplateCompiler
