import TemplateCompiler.Proofs.Model.Imports

/-! Membership after any calls. A set knows its names by their trimmed forms. Adding or discarding a
name decides whether its trimmed form is there and leaves all others; a replacement decides it for
every name. The look-up does not trim, so it only finds names without blanks around them. -/

namespace TemplateCompiler.ImportSet

/-- What a call says about a name, whatever blanks stand around it: that it is there from now on,
that it is not, or nothing. -/
def Call.says? (n : Text) : Call → Option Bool
  | .add name => if name.trim = n.trim then some true else none
  | .update names => if (names.map Text.trim).contains n.trim then some true else none
  | .replace names => some ((names.map Text.trim).contains n.trim)
  | .discard name => if name.trim = n.trim then some false else none

section Membership

variable {s : ImportSet} {n : Text}

theorem contains_eq (s : ImportSet) (n : Text) : s.contains n = decide (n ∈ s.names) :=
  List.contains_eq_mem n s.names

theorem Sound.contains_iff (sound : s.Sound) (n : Text) :
    s.contains n = true ↔ n.trim = n ∧ s.contains n.trim = true := by
  rw [contains_eq, contains_eq, decide_eq_true_iff, decide_eq_true_iff]
  constructor
  · intro inside
    have trimmed : n.trim = n := (sound.trimmed n inside).1
    exact ⟨trimmed, trimmed.symm ▸ inside⟩
  · rintro ⟨trimmed, inside⟩
    exact trimmed ▸ inside

theorem Sound.contains_on (sound : s.Sound) (named : n.trim ≠ []) (c : Call) :
    (c.on s).contains n.trim = (c.says? n).getD (s.contains n.trim) := by
  cases c with
  | add name =>
    simp only [contains_eq, Call.on, Call.says?, mem_insert]
    by_cases same : name.trim = n.trim
    · simp [same, named]
    · simp [same, Ne.symm same]
  | update names =>
    simp only [contains_eq, Call.on, Call.says?, mem_insertAll]
    by_cases among : n.trim ∈ names.map Text.trim
    · simp [among, named]
    · simp [among]
  | replace names =>
    have none : n.trim ∉ empty.names := List.not_mem_nil
    simp only [contains_eq, Call.on, Call.says?, replaceAll, ofList, mem_insertAll]
    simp [none, named]
  | discard name =>
    simp only [contains_eq, Call.on, Call.says?, ImportSet.erase, sound.distinct.mem_erase_iff]
    by_cases same : name.trim = n.trim
    · simp [same]
    · simp [same, Ne.symm same]

/-- What the last call that says something about a name says, or else whether the initial names
have it. -/
def lastSaid (initial : List Text) (calls : List Call) (n : Text) : Bool :=
  (calls.filterMap (Call.says? n)).getLast?.getD ((initial.map Text.trim).contains n.trim)

theorem lastSaid_concat (initial : List Text) (calls : List Call) (c : Call) (n : Text) :
    lastSaid initial (calls ++ [c]) n = (c.says? n).getD (lastSaid initial calls n) := by
  rw [lastSaid, List.filterMap_append, List.filterMap_cons, List.filterMap_nil]
  cases c.says? n with
  | none => rw [List.append_nil, Option.getD_none, lastSaid]
  | some answer => rw [List.getLast?_concat, Option.getD_some, Option.getD_some]

theorem contains_perform (initial : List Text) (calls : List Call) (named : n.trim ≠ []) :
    ((ofList initial).perform calls).contains n.trim = lastSaid initial calls n := by
  induction calls using List.reverseRecOn with
  | nil =>
    have none : n.trim ∉ empty.names := List.not_mem_nil
    have start : (ofList initial).perform [] = empty.insertAll initial := rfl
    simp only [start, contains_eq, mem_insertAll]
    simp [lastSaid, none, named]
  | append_singleton calls c ih =>
    rw [perform_concat, (sound_perform initial calls).contains_on named, ih, lastSaid_concat]

/-- Membership after any calls. A name's trimmed form is there exactly if the last call that says
something about it says so: right after it was added it is, right after it was discarded it is not,
and calls on other names change nothing. A name with blanks around it is never found, not even
right after it was added. -/
theorem contains_answered (initial : List Text) (calls : List Call) {n : Text}
    (named : n.isBlank = false) :
    let s := (ofList initial).perform calls
    s.contains n.trim = lastSaid initial calls n ∧
      (s.contains n = true ↔ n.trim = n ∧ s.contains n.trim = true) ∧
      ((s.insert n).contains n.trim = true ∧ ((s.insert n).contains n = true ↔ n.trim = n)) ∧
      ((s.erase n).contains n.trim = false ∧ (s.erase n).contains n = false) ∧
      ∀ c : Call, c.says? n = none →
        (c.on s).contains n.trim = s.contains n.trim ∧ (c.on s).contains n = s.contains n := by
  intro s
  have sound : s.Sound := sound_perform initial calls
  have named : n.trim ≠ [] := fun blank =>
    Bool.eq_false_iff.1 named ((Text.trim_eq_nil_iff n).1 blank)
  have added : (s.insert n).contains n.trim = true := by
    have answer := sound.contains_on named (.add n)
    rwa [Call.says?, if_pos rfl] at answer
  have gone : (s.erase n).contains n.trim = false := by
    have answer := sound.contains_on named (.discard n)
    rwa [Call.says?, if_pos rfl] at answer
  refine ⟨contains_perform initial calls named, sound.contains_iff n, ⟨added, ?_⟩, ⟨gone, ?_⟩, ?_⟩
  · rw [(sound.insert n).contains_iff n, and_iff_left added]
  · rw [Bool.eq_false_iff, ne_eq, (sound.erase n).contains_iff n, gone]
    exact fun found => absurd found.2 Bool.false_ne_true
  · intro c silent
    have kept : (c.on s).contains n.trim = s.contains n.trim := by
      rw [sound.contains_on named c, silent, Option.getD_none]
    refine ⟨kept, Bool.eq_iff_iff.2 ?_⟩
    rw [(sound.on c).contains_iff n, sound.contains_iff n, kept]

theorem contains_answered_padded :
    Text.isBlank " a ".toList = false ∧
    let s := (ofList ["a".toList, "b".toList]).perform [.discard " a".toList, .add "a ".toList]
    s.contains "a".toList = true ∧ s.contains " a ".toList = false ∧
      (s.erase " a ".toList).contains "a".toList = false := by
  have named : Text.isBlank " a ".toList = false := by decide
  obtain ⟨said, padded, -, gone, -⟩ := contains_answered ["a".toList, "b".toList]
    [.discard " a".toList, .add "a ".toList] named
  refine ⟨named, said.trans (by decide), ?_, gone.1⟩
  exact Bool.eq_false_iff.2 fun found => absurd (padded.1 found).1 (by decide)

/-- The name that was just added is not found, since it was added without the blanks. -/
theorem padded_not_found :
    Text.isBlank " a ".toList = false ∧
    (empty.insert " a ".toList).names = ["a".toList] ∧
    (empty.insert " a ".toList).contains " a ".toList = false := by
  decide

end Membership

end TemplateCompiler.ImportSet
