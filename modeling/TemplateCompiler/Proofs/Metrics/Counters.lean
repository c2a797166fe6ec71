import Mathlib.Algebra.BigOperators.Fin
import TemplateCompiler.Metrics
import TemplateCompiler.Proofs.Text.Case

/-! Counters that are added to. A request adds to three counters, which are always three different
ones: a method in capitals is no word in small letters, and no path is a method. -/

namespace TemplateCompiler

namespace Counters

theorem lookup_add (cs : Counters) (name other : Text) (amount : Int) :
    (cs.add name amount).lookup other =
      if other = name then some (cs.get name + amount) else cs.lookup other := by
  induction cs with
  | nil =>
    by_cases same : other = name
    · simp [add, get, same]
    · simp [add, List.lookup_cons, same, beq_false_of_ne same]
  | cons entry cs ih =>
    obtain ⟨key, value⟩ := entry
    rw [add]
    by_cases here : key = name
    · subst here
      by_cases same : other = key
      · simp [get, same]
      · simp [List.lookup_cons, same, beq_false_of_ne same]
    · have apart : (name == key) = false := beq_false_of_ne fun same => here same.symm
      rw [if_neg here, List.lookup_cons, List.lookup_cons, ih, get, get, List.lookup_cons, apart]
      by_cases same : other = key
      · simp [same, here]
      · simp [beq_false_of_ne same]

theorem get_add (cs : Counters) (name other : Text) (amount : Int) :
    (cs.add name amount).get other = cs.get other + if other = name then amount else 0 := by
  rw [get, lookup_add]
  by_cases same : other = name
  · simp [same]
  · simp [same, get]

def sumOver (cs : Counters) (kind : Text → Bool) : Int :=
  ((cs.filter fun entry => kind entry.1).map Prod.snd).sum

theorem sumOver_add (cs : Counters) (kind : Text → Bool) (name : Text) (amount : Int) :
    (cs.add name amount).sumOver kind = cs.sumOver kind + if kind name then amount else 0 := by
  induction cs with
  | nil => cases chosen : kind name <;> simp [add, sumOver, chosen]
  | cons entry cs ih =>
    obtain ⟨key, value⟩ := entry
    unfold sumOver at ih ⊢
    rw [add]
    split
    · next here =>
      subst here
      cases chosen : kind key
      · simp [chosen]
      · simp [chosen]
        omega
    · cases chosen : kind key
      · simpa [chosen] using ih
      · simp only [List.filter_cons, chosen, if_true, List.map_cons, List.sum_cons, ih]
        omega

def keys (cs : Counters) : List Text := cs.map Prod.fst

theorem keys_add (cs : Counters) (name : Text) (amount : Int) :
    (cs.add name amount).keys = if name ∈ cs.keys then cs.keys else cs.keys ++ [name] := by
  induction cs with
  | nil => rfl
  | cons entry cs ih =>
    obtain ⟨key, value⟩ := entry
    unfold keys at ih ⊢
    rw [add]
    by_cases here : key = name
    · simp [here]
    · rw [if_neg here, List.map_cons, ih]
      by_cases known : name ∈ cs.map Prod.fst <;> simp [known, Ne.symm here]

theorem nodup_keys_add {cs : Counters} (distinct : cs.keys.Nodup) (name : Text) (amount : Int) :
    (cs.add name amount).keys.Nodup := by
  rw [keys_add]
  split
  · exact distinct
  · next new =>
    refine List.nodup_append.2 ⟨distinct, List.pairwise_singleton _ _, ?_⟩
    rintro key inside other last rfl
    exact new (List.mem_singleton.1 last ▸ inside)

theorem mem_keys_add {cs : Counters} {name key : Text} {amount : Int} :
    key ∈ (cs.add name amount).keys ↔ key ∈ cs.keys ∨ key = name := by
  rw [keys_add]
  split
  · next known => exact (or_iff_left_of_imp fun same => same ▸ known).symm
  · rw [List.mem_append, List.mem_singleton]

theorem get_of_mem {cs : Counters} (distinct : cs.keys.Nodup) {key : Text} {value : Int}
    (inside : (key, value) ∈ cs) : cs.get key = value := by
  induction cs with
  | nil => cases inside
  | cons entry cs ih =>
    obtain ⟨first, others⟩ := List.nodup_cons.1 distinct
    rcases List.mem_cons.1 inside with rfl | later
    · simp [get]
    · have apart : (key == entry.1) = false := beq_false_of_ne fun same =>
        first (same ▸ List.mem_map_of_mem later)
      rw [get, List.lookup_cons, apart]
      exact ih others later

/-- Adds one to each of the counters named, one after the other. -/
def raise (cs : Counters) (names : List Text) : Counters :=
  names.foldl (fun cs name => cs.add name 1) cs

theorem raise_cons (cs : Counters) (name : Text) (names : List Text) :
    cs.raise (name :: names) = (cs.add name 1).raise names := rfl

theorem raise_append (cs : Counters) (names more : List Text) :
    cs.raise (names ++ more) = (cs.raise names).raise more := List.foldl_append

theorem get_raise (cs : Counters) (names : List Text) (name : Text) :
    (cs.raise names).get name = cs.get name + names.count name := by
  induction names generalizing cs with
  | nil => exact (Int.add_zero _).symm
  | cons first names ih =>
    rw [raise_cons, ih, get_add, List.count_cons]
    by_cases same : name = first
    · simp [same]
      omega
    · simp [same, Ne.symm same]

theorem sumOver_raise (cs : Counters) (kind : Text → Bool) (names : List Text) :
    (cs.raise names).sumOver kind = cs.sumOver kind + names.countP kind := by
  induction names generalizing cs with
  | nil => exact (Int.add_zero _).symm
  | cons first names ih =>
    rw [raise_cons, ih, sumOver_add, List.countP_cons]
    cases kind first <;> simp
    omega

theorem nodup_keys_raise {cs : Counters} (distinct : cs.keys.Nodup) (names : List Text) :
    (cs.raise names).keys.Nodup := by
  induction names generalizing cs with
  | nil => exact distinct
  | cons first names ih => exact ih (nodup_keys_add distinct first 1)

theorem mem_keys_raise {cs : Counters} {names : List Text} {key : Text} :
    key ∈ (cs.raise names).keys ↔ key ∈ cs.keys ∨ key ∈ names := by
  induction names generalizing cs with
  | nil => simp [raise]
  | cons first names ih =>
    rw [raise_cons, ih, mem_keys_add, List.mem_cons, or_assoc]

end Counters

namespace Metrics

variable (m : Metrics)

@[simp] theorem addNamed_requests (name : Text) (amount : Int) :
    (m.addNamed name amount).requests = m.requests := by
  unfold addNamed
  split <;> rfl

theorem get_addNamed {name : Text} (named : name ≠ []) (amount : Int) (other : Text) :
    (m.addNamed name amount).named.get other =
      m.named.get other + if other = name then amount else 0 := by
  have some : name.isEmpty = false := by simpa using named
  rw [addNamed, some]
  exact m.named.get_add name other amount

theorem methodCounter_ne_total (method : Text) : methodCounter method ≠ requestsTotal := by
  have split : requestsTotal = "requests_".toList ++ "total".toList := by decide +kernel
  unfold methodCounter
  generalize capitals : Text.upper _ = word
  intro same
  have small : 't' ∈ word := by
    rw [List.append_cancel_left (same.trans split)]
    decide
  exact Text.upper_not_small _ 't' (capitals ▸ small) (by decide)

theorem head_pathCounter (path status : Text) : (pathCounter path status).head? = some 'p' := rfl

theorem head_methodCounter (method : Text) : (methodCounter method).head? = some 'r' := rfl

theorem pathCounter_ne_total (path status : Text) : pathCounter path status ≠ requestsTotal := by
  intro same
  have first := head_pathCounter path status
  rw [same] at first
  exact absurd first (by decide)

theorem pathCounter_ne_method (path status method : Text) :
    pathCounter path status ≠ methodCounter method := by
  intro same
  have first := head_pathCounter path status
  rw [same, head_methodCounter] at first
  exact absurd first (by decide)

def requestCounters (method path word : Text) : List Text :=
  [requestsTotal, methodCounter method, pathCounter path word]

theorem countAnswer_requests (method path word : Text) :
    (m.countAnswer method path word).requests =
      m.requests.raise (requestCounters method path word) := rfl

theorem requestCounters_nodup (method path word : Text) :
    (requestCounters method path word).Nodup := by
  simp only [requestCounters, List.nodup_cons, List.mem_cons, List.not_mem_nil, or_false, not_or,
    not_false_eq_true, List.nodup_nil, and_true]
  exact ⟨⟨(methodCounter_ne_total _).symm, (pathCounter_ne_total _ _).symm⟩,
    (pathCounter_ne_method _ _ _).symm⟩

end Metrics

end TemplateCompiler
