import TemplateCompiler.Proofs.Customization.Building
import TemplateCompiler.Proofs.Registry.Loading
import TemplateCompiler.Proofs.Registry.Soundness
import TemplateCompiler.Proofs.Text.Order

/-! What a registry lists and finds. Every name is listed once and in order; the profile of a name
is that of the last usable entry with this key, or else the one that is built in; and the
customizations that it builds have the names that it gives. -/

namespace TemplateCompiler

namespace Profile

open Customization

theorem exists_of_buildMembers {profile : Text} {specs : List CustomizationSpec}
    {members : List (Chain Customization)} (built : buildMembers profile specs = .ok members) :
    ∃ cs : List Customization, members = cs.map .single ∧
      cs.map Customization.name = specs.map (·.name) := by
  induction specs generalizing members with
  | nil =>
    cases built
    exact ⟨[], rfl, rfl⟩
  | cons spec specs ih =>
    rw [buildMembers] at built
    split at built
    · cases built
    · next c made =>
      obtain ⟨others, later, rfl⟩ := map_eq_ok_iff.1 built
      obtain ⟨cs, rfl, names⟩ := ih later
      refine ⟨c :: cs, rfl, ?_⟩
      rw [List.map_cons, names, (made_build made).name_eq]
      rfl

theorem namesOf_singles (cs : List Customization) :
    Chain.namesOf hooks (cs.map .single) = cs.map Customization.name := by
  induction cs with
  | nil => rfl
  | cons c cs ih =>
    rw [List.map_cons, Chain.namesOf, ih]
    rfl

theorem exists_of_build {p : Profile} {chain : Chain Customization} (built : p.build = .ok chain) :
    ∃ cs : List Customization, chain = .chain (cs.map .single) ∧
      cs.map Customization.name = p.customizations.map (·.name) := by
  obtain ⟨members, made, rfl⟩ := map_eq_ok_iff.1 built
  obtain ⟨cs, rfl, names⟩ := exists_of_buildMembers made
  exact ⟨cs, rfl, names⟩

theorem names_build {p : Profile} {chain : Chain Customization} (built : p.build = .ok chain) :
    (Chain.hooks hooks).names chain = p.customizations.map (·.name) := by
  obtain ⟨cs, rfl, names⟩ := exists_of_build built
  exact (namesOf_singles cs).trans names

theorem name_ofBody {name : Text} {body : Value} {p : Profile} (shaped : ofBody name body = .ok p) :
    p.name = name := by
  unfold ofBody at shaped
  simp only at shaped
  split at shaped
  · cases shaped
  · split at shaped
    · cases shaped
    · obtain ⟨description, -, shaped⟩ := do_eq_ok_iff.1 shaped
      split at shaped <;>
        obtain ⟨customizations, -, shaped⟩ := do_eq_ok_iff.1 shaped <;> cases shaped <;> rfl

end Profile

namespace Registry

section Names

def Distinct (r : Registry) : Prop := (r.profiles.map (·.name)).Nodup

theorem builtIn_distinct : builtIn.Distinct := by
  unfold Distinct
  decide +kernel

theorem Distinct.put {r : Registry} (distinct : r.Distinct) (p : Profile) :
    (r.put p).Distinct := by
  have others : ((r.profiles.filter fun q => q.name ≠ p.name).map (·.name)).Nodup :=
    distinct.sublist (List.filter_sublist.map _)
  rw [Distinct, Registry.put, List.map_append, List.nodup_append]
  refine ⟨others, List.pairwise_singleton _ _, ?_⟩
  rintro name inside _ last rfl
  obtain ⟨q, kept, called⟩ := List.mem_map.1 inside
  have apart : q.name ≠ p.name := of_decide_eq_true (List.mem_filter.1 kept).2
  exact apart (called.trans (List.mem_singleton.1 last))

theorem Distinct.names_ascending {r : Registry} (distinct : r.Distinct) :
    r.names.Pairwise fun s t => s.map Text.codeOf < t.map Text.codeOf := by
  have sorted := List.pairwise_mergeSort Text.atMost_trans Text.atMost_total
    (r.profiles.map (·.name))
  have once : r.names.Nodup := (List.mergeSort_perm _ _).nodup_iff.2 distinct
  exact sorted.imp₂ (fun s t atMost differ => Text.lt_of_atMost atMost differ) once

theorem mem_names_iff_get? {r : Registry} {name : Text} :
    name ∈ r.names ↔ (r.get? name).isSome = true := by
  rw [mem_names_iff, get?, List.find?_isSome]
  simp

theorem resolve_unlisted {r : Registry} {name : Text} (unlisted : name ∉ r.names) :
    r.get? name = none ∧ r.resolve name = .error (.unknownProfile name) := by
  have unknown : r.get? name = none := by
    rw [← Option.not_isSome_iff_eq_none, ← mem_names_iff_get?]
    exact unlisted
  rw [resolve, unknown]
  exact ⟨rfl, rfl⟩

end Names

section Lookup

theorem get?_put (r : Registry) (p : Profile) (name : Text) :
    (r.put p).get? name = if p.name = name then some p else r.get? name := by
  rw [get?, put, List.find?_append]
  by_cases same : p.name = name
  · have gone : (r.profiles.filter fun q => q.name ≠ p.name).find? (·.name = name) = none := by
      rw [List.find?_eq_none]
      intro q inside named
      have apart : q.name ≠ p.name := of_decide_eq_true (List.mem_filter.1 inside).2
      exact apart ((of_decide_eq_true named).trans same.symm)
    rw [gone, if_pos same]
    simp [same]
  · have kept : (r.profiles.filter fun q => q.name ≠ p.name).find? (·.name = name) =
        r.profiles.find? (·.name = name) := by
      rw [List.find?_filter]
      congr 1
      funext q
      by_cases named : q.name = name
      · simp [named, Ne.symm same]
      · simp [named]
    rw [kept, if_neg same]
    simp [same]
    rfl

theorem get?_foldl_put (r : Registry) (ps : List Profile) (name : Text) :
    (ps.foldl put r).get? name = ((ps.filter (·.name = name)).getLast?).or (r.get? name) := by
  induction ps generalizing r with
  | nil => rfl
  | cons p ps ih =>
    rw [List.foldl_cons, ih, get?_put, List.filter_cons]
    by_cases same : p.name = name
    · simp only [same, decide_true, if_true, List.getLast?_cons]
      cases (ps.filter (·.name = name)).getLast? <;> rfl
    · simp [same]

end Lookup

section Entries

theorem name_accepted {entry : Value × Value} {p : Profile} (accepted : accepted? entry = some p) :
    p.name = entry.1.display := by
  have usable : checked entry.1 entry.2 = .ok p := toOption_eq_some_iff.1 accepted
  unfold checked at usable
  obtain ⟨name, named, usable⟩ := do_eq_ok_iff.1 usable
  obtain ⟨q, shaped, usable⟩ := do_eq_ok_iff.1 usable
  obtain ⟨chain, -, usable⟩ := do_eq_ok_iff.1 usable
  cases usable
  rw [Profile.name_ofBody shaped]
  unfold nameOf at named
  split at named <;> cases named
  rfl

/-- The usable entries with this key. -/
def acceptedAs (name : Text) (entries : List (Value × Value)) : List Profile :=
  (entries.filter fun e => e.1.display = name).filterMap accepted?

theorem filter_accepted (name : Text) (entries : List (Value × Value)) :
    (entries.filterMap accepted?).filter (·.name = name) = acceptedAs name entries := by
  induction entries with
  | nil => rfl
  | cons e entries ih =>
    rw [acceptedAs] at ih ⊢
    rw [List.filterMap_cons, List.filter_cons]
    cases accepted : accepted? e with
    | none =>
      by_cases named : e.1.display = name <;> simpa [named, accepted] using ih
    | some p =>
      have called : p.name = e.1.display := name_accepted accepted
      by_cases named : e.1.display = name
      · simpa [called, named, accepted] using ih
      · simpa [called, named] using ih

theorem get?_ofEntries (entries : List (Value × Value)) (name : Text) :
    (ofEntries entries).get? name = (acceptedAs name entries).getLast?.or (builtIn.get? name) := by
  rw [ofEntries, get?_foldl_put, filter_accepted]

theorem ofEntries_distinct (entries : List (Value × Value)) : (ofEntries entries).Distinct :=
  List.foldlRecOn (motive := Distinct) _ put builtIn_distinct fun _ distinct p _ => distinct.put p

theorem mem_names_ofEntries_iff {entries : List (Value × Value)} {name : Text} :
    name ∈ (ofEntries entries).names ↔
      name = Profile.webpage.name ∨ name = Profile.template.name ∨
        ∃ e ∈ entries, (accepted? e).isSome = true ∧ e.1.display = name := by
  have usable : (acceptedAs name entries).getLast?.isSome = true ↔
      ∃ e ∈ entries, (accepted? e).isSome = true ∧ e.1.display = name := by
    rw [List.getLast?_isSome, acceptedAs, Ne, List.filterMap_eq_nil_iff]
    simp [Option.isSome_iff_ne_none, and_comm]
  have known : (builtIn.get? name).isSome = true ↔
      name = Profile.webpage.name ∨ name = Profile.template.name := by
    rw [← mem_names_iff_get?, mem_names_iff]
    simp [builtIn, Profile.builtIn, eq_comm]
  rw [mem_names_iff_get?, get?_ofEntries, Option.isSome_or, Bool.or_eq_true, usable, known,
    or_comm, or_assoc]

end Entries

/-- The entries that a profiles file has. There are none without a file, nor in one that cannot be
read or has no profiles. -/
def entriesAt (files : FileTree) (file : Option Text) : List (Value × Value) :=
  match file with
  | none => []
  | some name => ((files.read (.ofText name)).toOption.bind entriesIn).getD []

theorem load_eq_ofEntries {files : FileTree} {file : Option Text} {r : Registry}
    {notices : List LoadNotice} (loaded : load files file = .ok (r, notices)) :
    r = ofEntries (entriesAt files file) := by
  cases file with
  | none =>
    cases loaded
    rfl
  | some name =>
    cases content : files.read (.ofText name) with
    | error f =>
      have none : entriesAt files (some name) = [] := by
        rw [entriesAt, content]
        rfl
      rw [none]
      unfold load at loaded
      simp only [content] at loaded
      obtain ⟨there, -, loaded⟩ := bind_eq_ok_iff.1 loaded
      split at loaded <;> cases loaded <;> rfl
    | ok bytes =>
      have some : entriesAt files (some name) = (entriesIn bytes).getD [] := by
        rw [entriesAt, content]
        rfl
      rw [load_of_read content] at loaded
      rw [some]
      cases found : entriesIn bytes with
      | none =>
        obtain ⟨notice, added⟩ := addBytes_of_none (readable_of_addBytes loaded) found builtIn
        rw [added] at loaded
        cases loaded
        rfl
      | some entries =>
        have tame := tame_of_addBytes loaded found
        rw [addBytes_of_entries found, addEntries_eq tame] at loaded
        cases loaded
        rfl

end Registry

end TemplateCompiler
