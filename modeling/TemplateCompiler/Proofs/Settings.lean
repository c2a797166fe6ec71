import TemplateCompiler.Proofs.Text.Case
import TemplateCompiler.Proofs.Text.Trim
import TemplateCompiler.Settings

/-! Variables that are set to blanks. An empty variable counts as one that is not set, wherever it
is read. One with nothing but white space does so for the flag and for the file of profiles; where
the trimmed value is taken, it stands for the empty text and not for the default. -/

namespace TemplateCompiler

namespace Environment

variable (e : Environment)

def withoutBlank : Environment := e.filter fun entry => !entry.2.isBlank

/-- The variable is set, but to nothing else than white space. -/
def isSpaced (name : Text) : Bool :=
  match e.get? name with
  | some value => value.isBlank && !value.isEmpty
  | none => false

variable {e}

theorem get?_withoutBlank (distinct : (e.map Prod.fst).Nodup) (name : Text) :
    e.withoutBlank.get? name = (e.get? name).filter fun value => !value.isBlank := by
  induction e with
  | nil => rfl
  | cons entry e ih =>
    obtain ⟨key, value⟩ := entry
    obtain ⟨first, others⟩ := List.nodup_cons.1 distinct
    have later := ih others
    unfold withoutBlank get? at later ⊢
    by_cases here : name = key
    · subst here
      have absent : e.lookup name = none := by
        refine List.lookup_eq_none_iff.2 fun entry inside => bne_iff_ne.2 fun same => ?_
        exact first (List.mem_map.2 ⟨entry, inside, same.symm⟩)
      rw [absent] at later
      cases blank : value.isBlank <;> simp [blank, later, Option.filter_some]
    · have apart : (name == key) = false := beq_false_of_ne here
      cases blank : value.isBlank <;> simp [List.lookup_cons, blank, apart, later]

theorem isSpaced_withoutBlank (distinct : (e.map Prod.fst).Nodup) (name : Text) :
    e.withoutBlank.isSpaced name = false := by
  rw [isSpaced, get?_withoutBlank distinct]
  cases e.get? name with
  | none => rfl
  | some value => cases blank : value.isBlank <;> simp [blank, Option.filter_some]

theorem getTrimmed_eq (distinct : (e.map Prod.fst).Nodup) (name default : Text) :
    e.getTrimmed name default =
      if e.isSpaced name then [] else e.withoutBlank.getTrimmed name default := by
  rw [getTrimmed, getTrimmed, isSpaced, get?_withoutBlank distinct]
  cases e.get? name with
  | none => rfl
  | some value =>
    cases value with
    | nil => rfl
    | cons c value =>
      cases blank : Text.isBlank (c :: value) with
      | true => simp [blank, (Text.trim_eq_nil_iff _).2 blank]
      | false => simp [blank, Option.filter_some]

theorem getTrimmed_eq_nil_iff {name default : Text} (some : default.trim ≠ []) :
    e.getTrimmed name default = [] ↔ e.isSpaced name = true := by
  rw [getTrimmed, isSpaced]
  cases e.get? name with
  | none => simpa using some
  | some value =>
    cases value with
    | nil => simpa using some
    | cons c value => simp [Text.trim_eq_nil_iff]

end Environment

theorem Text.flag_filter (default : Bool) (value : Option Text) :
    flag default (value.filter fun t => !t.isBlank) = flag default value := by
  cases value with
  | none => rfl
  | some t =>
    cases blank : t.isBlank with
    | true =>
      have nothing : t.trim = [] := (trim_eq_nil_iff t).2 blank
      simp [flag, blank, nothing, lower_eq_nil_iff, Option.filter_some]
    | false => simp [blank, Option.filter_some]

namespace Settings

theorem profilesFileOf_filter (value : Option Text) :
    profilesFileOf (value.filter fun t => !t.isBlank) = profilesFileOf value := by
  cases value with
  | none => rfl
  | some t =>
    cases blank : t.isBlank with
    | true =>
      have nothing : t.trim = [] := (Text.trim_eq_nil_iff t).2 blank
      simp [profilesFileOf, blank, nothing, Option.filter_some]
      rfl
    | false => simp [blank, Option.filter_some]

def trimmedSettings : List (Text × (Settings → Text)) :=
  [("MARKUPGEN_ENV".toList, env), ("MARKUPGEN_DEFAULT_NAMESPACE".toList, defaultNamespace),
    ("MARKUPGEN_DEFAULT_ENCODING".toList, defaultEncoding),
    ("MARKUPGEN_LOG_LEVEL".toList, logLevel)]

/-- The settings with the empty text for each of these that has nothing but white space. -/
def spaced (e : Environment) (s : Settings) : Settings :=
  { s with
    env := if e.isSpaced "MARKUPGEN_ENV".toList then [] else s.env
    defaultNamespace :=
      if e.isSpaced "MARKUPGEN_DEFAULT_NAMESPACE".toList then [] else s.defaultNamespace
    defaultEncoding :=
      if e.isSpaced "MARKUPGEN_DEFAULT_ENCODING".toList then [] else s.defaultEncoding
    logLevel := if e.isSpaced "MARKUPGEN_LOG_LEVEL".toList then [] else s.logLevel }

theorem spaced_eq_self {e : Environment}
    (none : ∀ entry ∈ trimmedSettings, e.isSpaced entry.1 = false) (s : Settings) :
    s.spaced e = s := by
  simp only [trimmedSettings, List.forall_mem_cons] at none
  obtain ⟨env, defaultNamespace, defaultEncoding, logLevel, -⟩ := none
  rw [spaced, env, defaultNamespace, defaultEncoding, logLevel]
  rfl

theorem empty_iff_isSpaced (e : Environment) : ∀ entry ∈ trimmedSettings,
    entry.2 (ofEnvironment e) = [] ↔ e.isSpaced entry.1 = true := by
  simp only [trimmedSettings, List.forall_mem_cons]
  refine ⟨?_, ?_, ?_, ?_, List.forall_mem_nil _⟩
  · exact Text.lower_eq_nil_iff.trans (Environment.getTrimmed_eq_nil_iff (by decide))
  · exact Environment.getTrimmed_eq_nil_iff (by decide)
  · exact Environment.getTrimmed_eq_nil_iff (by decide)
  · exact Text.upper_eq_nil_iff.trans (Environment.getTrimmed_eq_nil_iff (by decide))

theorem ofEnvironment_spaced {e : Environment} (distinct : (e.map Prod.fst).Nodup) :
    ofEnvironment e = (ofEnvironment e.withoutBlank).spaced e := by
  simp only [ofEnvironment, spaced, Environment.getTrimmed_eq distinct,
    Environment.get?_withoutBlank distinct, Text.flag_filter, profilesFileOf_filter,
    apply_ite Text.lower, apply_ite Text.upper]
  rfl

/-- The settings with the blank variables and without them. They only differ in those that are
trimmed values, and there where the variable has nothing but white space: that setting is empty
then, and otherwise none of them ever is. -/
theorem ofEnvironment_withoutBlank {e : Environment} (distinct : (e.map Prod.fst).Nodup) :
    let s := ofEnvironment e
    let bare := ofEnvironment e.withoutBlank
    s = bare.spaced e ∧
      (s = bare ↔ ∀ entry ∈ trimmedSettings, e.isSpaced entry.1 = false) ∧
      ∀ entry ∈ trimmedSettings,
        (entry.2 s = [] ↔ e.isSpaced entry.1 = true) ∧ entry.2 bare ≠ [] := by
  intro s bare
  have parts : s = bare.spaced e := ofEnvironment_spaced distinct
  have full : ∀ entry ∈ trimmedSettings, entry.2 bare ≠ [] := fun entry inside nothing => by
    have spaced := (empty_iff_isSpaced e.withoutBlank entry inside).1 nothing
    rw [Environment.isSpaced_withoutBlank distinct] at spaced
    exact Bool.false_ne_true spaced
  refine ⟨parts, ⟨fun same entry inside => ?_, fun none => parts.trans (spaced_eq_self none bare)⟩,
    fun entry inside => ⟨empty_iff_isSpaced e entry inside, full entry inside⟩⟩
  refine Bool.eq_false_iff.2 fun spaced => full entry inside ?_
  rw [← same]
  exact (empty_iff_isSpaced e entry inside).2 spaced

theorem ofEnvironment_withoutBlank_spaces :
    let e : Environment := [("MARKUPGEN_ENV".toList, []),
      ("MARKUPGEN_DEFAULT_ENCODING".toList, "\t ".toList),
      ("MARKUPGEN_LINE_PRAGMAS".toList, " ".toList)]
    (e.map Prod.fst).Nodup ∧ e.withoutBlank = [] ∧
      ofEnvironment e = { default with defaultEncoding := [] } ∧
      ofEnvironment e ≠ ofEnvironment e.withoutBlank := by
  intro e
  have distinct : (e.map Prod.fst).Nodup := by decide
  obtain ⟨parts, same, -⟩ := ofEnvironment_withoutBlank distinct
  refine ⟨distinct, by decide, parts.trans (by decide +kernel), fun equal => ?_⟩
  have none := same.1 equal ("MARKUPGEN_DEFAULT_ENCODING".toList, defaultEncoding)
    (by simp [trimmedSettings])
  exact absurd none (by decide +kernel)

/-- Blanks for the namespace give the empty namespace, and not the default. -/
theorem blankNamespace_empty :
    let e : Environment := [("MARKUPGEN_DEFAULT_NAMESPACE".toList, "  ".toList)]
    (ofEnvironment e).defaultNamespace = [] ∧
      (ofEnvironment e.withoutBlank).defaultNamespace = "ASP".toList := by
  decide +kernel

end Settings

end TemplateCompiler
