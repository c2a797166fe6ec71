import TemplateCompiler.Proofs.Template.Closing

/-! Groups of brackets by their depth. The depth of a text is the number of its openers less that of
its closers, both outside quoted strings, and a group ends with the closer at which its depth comes
back to zero. -/

namespace TemplateCompiler.Template

/-- What of a text stands outside quoted strings, with the marks that open these. -/
def outside (state : GroupState) : Text → Text
  | [] => []
  | c :: t => if state = .code then c :: outside (state.next c) t else outside (state.next c) t

section Groups

def depthFrom (opener closer : Char) (state : GroupState) (t : Text) : Int :=
  (outside state t).count opener - (outside state t).count closer

def depth (opener closer : Char) (t : Text) : Int := depthFrom opener closer .code t

/-- A text from an opener to the closer at which the depth comes back to zero. -/
structure IsGroup (opener closer : Char) (g : Text) : Prop where
  enclosed : ∃ inside, g = opener :: (inside ++ [closer])
  closes : depth opener closer g = 0
  before : ∀ s, s <+: g → s ≠ [] → s ≠ g → 0 < depth opener closer s

/-- Behind the text, the closer comes for the first time back from `n` groups to none. -/
def Returns (opener closer : Char) (state : GroupState) (n : Nat) (t : Text) : Prop :=
  n + 1 + depthFrom opener closer state (t ++ [closer]) = 0 ∧
    ∀ s, s <+: t → 0 < n + 1 + depthFrom opener closer state s

def change (opener closer : Char) (state : GroupState) (c : Char) : Int :=
  if state = .code then if c = opener then 1 else if c = closer then -1 else 0 else 0

variable {opener closer : Char}

theorem depthFrom_nil (state : GroupState) : depthFrom opener closer state [] = 0 := rfl

theorem depthFrom_cons (distinct : opener ≠ closer) (state : GroupState) (c : Char) (t : Text) :
    depthFrom opener closer state (c :: t) =
      change opener closer state c + depthFrom opener closer (state.next c) t := by
  unfold depthFrom change
  rw [outside]
  split
  · by_cases opens : c = opener
    · subst opens
      rw [List.count_cons_self, List.count_cons_of_ne distinct, if_pos rfl]
      omega
    · by_cases closes : c = closer
      · subst closes
        rw [List.count_cons_self, List.count_cons_of_ne distinct.symm, if_neg opens, if_pos rfl]
        omega
      · rw [List.count_cons_of_ne opens, List.count_cons_of_ne closes, if_neg opens,
          if_neg closes, Int.zero_add]
  · rw [Int.zero_add]

theorem depthAfter_eq {state : GroupState} {n : Nat} {c : Char}
    (goes : ¬ (state = .code ∧ c = closer ∧ n = 0)) :
    (depthAfter opener closer state n c : Int) = n + change opener closer state c := by
  unfold depthAfter change
  split
  · next code =>
    split
    · exact Int.natCast_add n 1
    · split
      · next closes =>
        have inner : n ≠ 0 := fun outer => goes ⟨code, closes, outer⟩
        omega
      · exact (Int.add_zero _).symm
  · exact (Int.add_zero _).symm

theorem returns_nil_iff (distinct : opener ≠ closer) {state : GroupState} {n : Nat} :
    Returns opener closer state n [] ↔ state = .code ∧ n = 0 := by
  have empty : ∀ s : Text, s <+: [] → 0 < n + 1 + depthFrom opener closer state s := by
    intro s begins
    rw [List.prefix_nil.1 begins, depthFrom_nil]
    omega
  rw [Returns, List.nil_append, depthFrom_cons distinct, depthFrom_nil, and_iff_left empty, change,
    if_neg distinct.symm, if_pos rfl]
  by_cases code : state = .code
  · rw [if_pos code, and_iff_right code]
    omega
  · rw [if_neg code]
    refine iff_of_false ?_ fun ends => code ends.1
    omega

theorem returns_cons_iff (distinct : opener ≠ closer) {state : GroupState} {n : Nat} {c : Char}
    {t : Text} :
    Returns opener closer state n (c :: t) ↔ ¬ (state = .code ∧ c = closer ∧ n = 0) ∧
      Returns opener closer (state.next c) (depthAfter opener closer state n c) t := by
  constructor
  · rintro ⟨closes, before⟩
    have goes : ¬ (state = .code ∧ c = closer ∧ n = 0) := by
      rintro ⟨rfl, rfl, rfl⟩
      have first := before [c] ⟨t, rfl⟩
      rw [depthFrom_cons distinct, depthFrom_nil, change, if_pos rfl, if_neg distinct.symm,
        if_pos rfl] at first
      exact absurd first (by decide)
    rw [List.cons_append, depthFrom_cons distinct] at closes
    refine ⟨goes, ?_, fun s begins => ?_⟩
    · rw [depthAfter_eq goes]
      omega
    · have later := before (c :: s) (List.cons_prefix_cons.2 ⟨rfl, begins⟩)
      rw [depthFrom_cons distinct] at later
      rw [depthAfter_eq goes]
      omega
  · rintro ⟨goes, closes, before⟩
    rw [depthAfter_eq goes] at closes
    refine ⟨?_, fun s begins => ?_⟩
    · rw [List.cons_append, depthFrom_cons distinct]
      omega
    · rcases List.prefix_cons_iff.1 begins with rfl | ⟨s, rfl, further⟩
      · rw [depthFrom_nil]
        omega
      · have later := before s further
        rw [depthAfter_eq goes] at later
        rw [depthFrom_cons distinct]
        omega

theorem closeFrom_eq_some_iff (distinct : opener ≠ closer) {state : GroupState} {n : Nat}
    {t inside rest : Text} :
    closeFrom opener closer state n t = some (inside, rest) ↔
      t = inside ++ closer :: rest ∧ Returns opener closer state n inside := by
  induction t generalizing state n inside with
  | nil => simp [closeFrom]
  | cons c t ih =>
    rw [closeFrom]
    split
    · next ends =>
      constructor
      · intro found
        obtain ⟨rfl, rfl⟩ := Prod.mk.inj (Option.some.inj found)
        exact ⟨by rw [ends.2.1]; rfl, (returns_nil_iff distinct).2 ⟨ends.1, ends.2.2⟩⟩
      · rintro ⟨split, returns⟩
        cases inside with
        | nil => rw [(List.cons.inj split).2]
        | cons d inside =>
          rw [(List.cons.inj split).1] at ends
          exact absurd ends ((returns_cons_iff distinct).1 returns).1
    · next goes =>
      rw [Option.map_eq_some_iff]
      constructor
      · rintro ⟨⟨i, r⟩, found, same⟩
        obtain ⟨rfl, rfl⟩ := Prod.mk.inj same
        obtain ⟨rfl, returns⟩ := ih.1 found
        exact ⟨rfl, (returns_cons_iff distinct).2 ⟨goes, returns⟩⟩
      · rintro ⟨split, returns⟩
        cases inside with
        | nil =>
          obtain ⟨code, outer⟩ := (returns_nil_iff distinct).1 returns
          exact absurd ⟨code, (List.cons.inj split).1, outer⟩ goes
        | cons d inside =>
          obtain ⟨rfl, rfl⟩ := List.cons.inj split
          exact ⟨(inside, rest), ih.2 ⟨rfl, ((returns_cons_iff distinct).1 returns).2⟩, rfl⟩

theorem closes_iff (distinct : opener ≠ closer) {inside : Text} :
    Closes opener closer inside ↔ Returns opener closer .code 0 inside := by
  rw [Closes, closeGroup, closeFrom_eq_some_iff distinct]
  exact and_iff_right rfl

theorem isGroup_iff (distinct : opener ≠ closer) (plain : isQuote opener = false) {g : Text} :
    IsGroup opener closer g ↔
      ∃ inside, g = opener :: (inside ++ [closer]) ∧ Closes opener closer inside := by
  have opened (t : Text) : depth opener closer (opener :: t) =
      1 + depthFrom opener closer .code t := by
    rw [depth, depthFrom_cons distinct, change, if_pos rfl, if_pos rfl, GroupState.next, plain]
    rfl
  constructor
  · rintro ⟨⟨inside, rfl⟩, closes, before⟩
    refine ⟨inside, rfl, (closes_iff distinct).2 ⟨?_, fun s begins => ?_⟩⟩
    · rw [opened] at closes
      omega
    · have proper : opener :: s ≠ opener :: (inside ++ [closer]) := by
        intro same
        have shorter := begins.length_le
        rw [(List.cons.inj same).2, List.length_append] at shorter
        exact Nat.not_succ_le_self inside.length shorter
      have inner : opener :: s <+: opener :: (inside ++ [closer]) :=
        List.cons_prefix_cons.2 ⟨rfl, begins.trans (List.prefix_append inside [closer])⟩
      have deeper := before _ inner (List.cons_ne_nil opener s) proper
      rw [opened] at deeper
      omega
  · rintro ⟨inside, rfl, closes⟩
    obtain ⟨zero, before⟩ := (closes_iff distinct).1 closes
    refine ⟨⟨inside, rfl⟩, ?_, fun s begins some proper => ?_⟩
    · rw [opened]
      omega
    · rcases List.prefix_cons_iff.1 begins with rfl | ⟨s, rfl, further⟩
      · exact absurd rfl some
      · rcases List.prefix_concat_iff.1 further with rfl | inner
        · exact absurd rfl proper
        · have deeper := before s inner
          rw [opened]
          omega

end Groups

end TemplateCompiler.Template
