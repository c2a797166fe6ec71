import TemplateCompiler.Proofs.Model.Soundness

/-! The imports after any calls. A set is what its history of single edits makes of the empty one:
the history begins where the set was last replaced, and the names stand in the order of their
latest insertion. -/

namespace TemplateCompiler.ImportSet

inductive Call where
  | add (name : Text)
  | update (names : List Text)
  | replace (names : List Text)
  | discard (name : Text)
deriving DecidableEq, Repr

def Call.on (c : Call) (s : ImportSet) : ImportSet :=
  match c with
  | .add name => s.insert name
  | .update names => s.insertAll names
  | .replace names => s.replaceAll names
  | .discard name => s.erase name

def perform (s : ImportSet) (calls : List Call) : ImportSet := calls.foldl (fun s c => c.on s) s

/-- One trimmed name that is not blank is put in or taken out. -/
inductive Edit where
  | put (name : Text)
  | drop (name : Text)
deriving DecidableEq, Repr

def Edit.on (names : List Text) : Edit → List Text
  | .put n => if n ∈ names then names else names ++ [n]
  | .drop n => names.filter fun m => m ≠ n

def listed (es : List Edit) : List Text := es.foldl Edit.on []

def usable (names : List Text) : List Text := (names.map Text.trim).filter fun n => !n.isEmpty

namespace Call

def replacement? : Call → Option (List Text)
  | .replace names => some names
  | _ => none

def edits : Call → List Edit
  | .add name => (usable [name]).map .put
  | .update names => (usable names).map .put
  | .replace names => (usable names).map .put
  | .discard name => (usable [name]).map .drop

end Call

/-- The names that the set was last filled with, at first the initial ones. -/
def lastFilling (initial : List Text) (calls : List Call) : List Text :=
  (calls.reverse.findSome? Call.replacement?).getD initial

/-- The calls after the last that replaced the set. -/
def laterCalls (calls : List Call) : List Call :=
  (calls.reverse.takeWhile fun c => c.replacement?.isNone).reverse

def history (initial : List Text) (calls : List Call) : List Edit :=
  (usable (lastFilling initial calls)).map .put ++ (laterCalls calls).flatMap Call.edits

section Replay

theorem Sound.erase {s : ImportSet} (sound : s.Sound) (name : Text) : (s.erase name).Sound :=
  ⟨sound.distinct.erase _, fun n inside => sound.trimmed n (List.mem_of_mem_erase inside)⟩

theorem Sound.on {s : ImportSet} (sound : s.Sound) (c : Call) : (c.on s).Sound := by
  cases c with
  | add name => exact sound.insert name
  | update names => exact sound.insertAll names
  | replace names => exact sound_empty.insertAll names
  | discard name => exact sound.erase name

theorem Sound.perform {s : ImportSet} (sound : s.Sound) (calls : List Call) :
    (s.perform calls).Sound := by
  induction calls generalizing s with
  | nil => exact sound
  | cons c calls ih => exact ih (sound.on c)

theorem sound_perform (initial : List Text) (calls : List Call) :
    ((ofList initial).perform calls).Sound :=
  (sound_empty.insertAll initial).perform calls

theorem perform_concat (s : ImportSet) (calls : List Call) (c : Call) :
    s.perform (calls ++ [c]) = c.on (s.perform calls) :=
  List.foldl_concat ..

theorem names_insert (s : ImportSet) (name : Text) :
    (s.insert name).names = ((usable [name]).map .put).foldl Edit.on s.names := by
  unfold insert usable
  by_cases blank : name.trim = []
  · simp [blank]
  · by_cases known : name.trim ∈ s.names <;> simp [blank, known, Edit.on]

theorem names_updated (s : ImportSet) (names : List Text) :
    (s.insertAll names).names = ((usable names).map .put).foldl Edit.on s.names := by
  induction names generalizing s with
  | nil => rfl
  | cons name names ih =>
    have first : s.insertAll (name :: names) = (s.insert name).insertAll names := rfl
    have parts : usable (name :: names) = usable [name] ++ usable names := by
      rw [usable, List.map_cons, ← List.singleton_append, List.filter_append]
      rfl
    rw [first, ih, names_insert, parts, List.map_append, List.foldl_append]

theorem Sound.names_erase {s : ImportSet} (sound : s.Sound) (name : Text) :
    (s.erase name).names = ((usable [name]).map .drop).foldl Edit.on s.names := by
  -- A name has one place, so the first place that is erased is the only one.
  have erased : (s.erase name).names = s.names.filter (· != name.trim) :=
    sound.distinct.erase_eq_filter _
  rw [erased]
  by_cases blank : name.trim = []
  · have all : ∀ n ∈ s.names, n ≠ [] := fun n inside => (sound.trimmed n inside).2
    simpa [usable, blank] using all
  · have alone : usable [name] = [name.trim] := by simp [usable, blank]
    rw [alone]
    exact List.filter_congr fun n _ => Bool.eq_iff_iff.2 (by simp)

theorem Sound.names_on {s : ImportSet} (sound : s.Sound) (c : Call) :
    (c.on s).names = c.edits.foldl Edit.on (if c.replacement?.isSome then [] else s.names) := by
  cases c with
  | add name => exact names_insert s name
  | update names => exact names_updated s names
  | replace names => exact names_updated empty names
  | discard name => exact sound.names_erase name

theorem history_append (initial : List Text) (calls : List Call) (c : Call) :
    history initial (calls ++ [c]) =
      (if c.replacement?.isSome then [] else history initial calls) ++ c.edits := by
  have filling : lastFilling initial (calls ++ [c]) =
      c.replacement?.getD (lastFilling initial calls) := by
    rw [lastFilling, List.reverse_append, List.reverse_singleton, List.singleton_append,
      List.findSome?_cons]
    cases c.replacement? <;> rfl
  have later : laterCalls (calls ++ [c]) =
      if c.replacement?.isSome then [] else laterCalls calls ++ [c] := by
    rw [laterCalls, List.reverse_append, List.reverse_singleton, List.singleton_append,
      List.takeWhile_cons]
    cases c.replacement? with
    | none => exact List.reverse_cons
    | some names => rfl
  rw [history, filling, later]
  cases c with
  | replace names => exact List.append_nil _
  | _ => simp [history, Call.replacement?]

theorem names_perform (initial : List Text) (calls : List Call) :
    ((ofList initial).perform calls).names = listed (history initial calls) := by
  induction calls using List.reverseRecOn with
  | nil =>
    have unchanged : history initial [] = (usable initial).map .put := List.append_nil _
    rw [unchanged]
    exact names_updated empty initial
  | append_singleton calls c ih =>
    rw [perform_concat, (sound_perform initial calls).names_on, ih, history_append, listed, listed,
      List.foldl_append]
    cases c.replacement? <;> rfl

example : ((ofList ["a".toList, "b".toList]).perform
    [.discard "a".toList, .add " a".toList]).names = ["b".toList, "a".toList] := by decide

end Replay

section Order

/-- The name stays from the edit at this place on: there it is put in while it is not listed, and
no later edit drops it. -/
def InsertedAt (es : List Edit) (n : Text) (place : ℕ) : Prop :=
  ∃ before after, es = before ++ .put n :: after ∧ before.length = place ∧
    n ∉ listed before ∧ .drop n ∉ after

variable {es : List Edit} {n : Text}

theorem listed_concat (es : List Edit) (e : Edit) : listed (es ++ [e]) = e.on (listed es) :=
  List.foldl_concat ..

theorem mem_listed_concat {e : Edit} :
    n ∈ listed (es ++ [e]) ↔ e = .put n ∨ (n ∈ listed es ∧ e ≠ .drop n) := by
  rw [listed_concat]
  cases e with
  | put m =>
    have put : Edit.put m = .put n ↔ n = m := by rw [Edit.put.injEq, eq_comm]
    rw [Edit.on, put, and_iff_left (nofun : Edit.put m ≠ .drop n)]
    by_cases known : m ∈ listed es
    · rw [if_pos known, or_iff_right_of_imp fun same => same ▸ known]
    · rw [if_neg known, List.mem_append, List.mem_singleton, or_comm]
  | drop m => simp [Edit.on, @eq_comm _ m]

theorem insertedAt_concat {e : Edit} {place : ℕ} :
    InsertedAt (es ++ [e]) n place ↔
      (InsertedAt es n place ∧ e ≠ .drop n) ∨
        (place = es.length ∧ e = .put n ∧ n ∉ listed es) := by
  constructor
  · rintro ⟨before, after, split, rfl, absent, kept⟩
    rcases List.eq_nil_or_concat after with rfl | ⟨after, last, rfl⟩
    · obtain ⟨rfl, last⟩ := List.append_inj' split rfl
      exact .inr ⟨rfl, List.head_eq_of_cons_eq last, absent⟩
    · rw [List.concat_eq_append] at split kept
      rw [← List.cons_append, ← List.append_assoc] at split
      obtain ⟨rfl, last'⟩ := List.append_inj' split rfl
      have same : e = last := List.head_eq_of_cons_eq last'
      rw [List.mem_append, List.mem_singleton, not_or] at kept
      exact .inl ⟨⟨before, after, rfl, rfl, absent, kept.1⟩, same ▸ Ne.symm kept.2⟩
  · rintro (⟨⟨before, after, rfl, rfl, absent, kept⟩, other⟩ | ⟨rfl, rfl, absent⟩)
    · refine ⟨before, after ++ [e], by simp, rfl, absent, ?_⟩
      rw [List.mem_append, List.mem_singleton, not_or]
      exact ⟨kept, Ne.symm other⟩
    · exact ⟨es, [], rfl, rfl, absent, List.not_mem_nil⟩

theorem InsertedAt.lt {place : ℕ} (inserted : InsertedAt es n place) : place < es.length := by
  obtain ⟨before, after, rfl, rfl, -, -⟩ := inserted
  simp

/-- The names that are listed are those that have been put in to stay. -/
theorem mem_listed_iff : n ∈ listed es ↔ ∃ place, InsertedAt es n place := by
  induction es using List.reverseRecOn with
  | nil =>
    refine ⟨fun inside => absurd inside List.not_mem_nil, fun ⟨_, inserted⟩ => ?_⟩
    exact absurd inserted.lt (Nat.not_lt_zero _)
  | append_singleton es e ih =>
    have latest : (∃ place, InsertedAt (es ++ [e]) n place) ↔
        (n ∈ listed es ∧ e ≠ .drop n) ∨ (e = .put n ∧ n ∉ listed es) := by
      simp only [insertedAt_concat, exists_or, exists_and_right, ← ih, exists_eq, true_and]
    rw [latest, mem_listed_concat]
    by_cases known : n ∈ listed es
    · have put : e = .put n → e ≠ .drop n := fun here => here ▸ nofun
      simpa [known] using put
    · simp [known]

theorem listed_pairwise (es : List Edit) :
    (listed es).Pairwise fun a b => ∀ i j, InsertedAt es a i → InsertedAt es b j → i < j := by
  induction es using List.reverseRecOn with
  | nil => exact .nil
  | append_singleton es e ih =>
    -- names that were there before keep their places, whatever the edit
    have old : (listed es).Pairwise fun a b =>
        ∀ i j, InsertedAt (es ++ [e]) a i → InsertedAt (es ++ [e]) b j → i < j := by
      refine ih.imp_of_mem fun {a b} hasA hasB earlier i j first second => ?_
      have atA := (insertedAt_concat.1 first).resolve_right fun now => now.2.2 hasA
      have atB := (insertedAt_concat.1 second).resolve_right fun now => now.2.2 hasB
      exact earlier i j atA.1 atB.1
    rw [listed_concat]
    cases e with
    | drop m => exact old.filter _
    | put m =>
      by_cases known : m ∈ listed es
      · rw [Edit.on, if_pos known]
        exact old
      · rw [Edit.on, if_neg known]
        refine List.pairwise_append.2 ⟨old, List.pairwise_singleton _ _, ?_⟩
        intro a hasA b last i j first second
        rw [List.mem_singleton.1 last] at second
        have atA := (insertedAt_concat.1 first).resolve_right fun now => now.2.2 hasA
        have atM := (insertedAt_concat.1 second).resolve_left fun before =>
          known (mem_listed_iff.2 ⟨j, before.1⟩)
        exact atM.1 ▸ atA.1.lt

/-- After any calls the names are those that the calls since the last filling leave: trimmed, none
of them blank or there twice, and in the order in which they were inserted to stay. -/
theorem names_replayed (initial : List Text) (calls : List Call) :
    let names := ((ofList initial).perform calls).names
    let es := history initial calls
    names = listed es ∧
      names.Nodup ∧ (∀ n ∈ names, n.trim = n ∧ n ≠ []) ∧
      (∀ n, n ∈ names ↔ ∃ place, InsertedAt es n place) ∧
      names.Pairwise fun a b => ∀ i j, InsertedAt es a i → InsertedAt es b j → i < j := by
  intro names es
  have same : names = listed es := names_perform initial calls
  have sound : ((ofList initial).perform calls).Sound :=
    (sound_empty.insertAll initial).perform calls
  refine ⟨same, sound.distinct, sound.trimmed, fun n => ?_, ?_⟩
  · rw [same]
    exact mem_listed_iff
  · rw [same]
    exact listed_pairwise es

end Order

end TemplateCompiler.ImportSet
