import TemplateCompiler.Proofs.Http.Accounting
import TemplateCompiler.Proofs.Http.Answers
import TemplateCompiler.Proofs.Registry.Listing

/-! The profiles as the service reports them. A registry is reported profile by profile, in the
order in which it lists them, with the names that the customizations of the profile have once they
are built. The report is sent unless some name or description in it holds half a character. -/

namespace TemplateCompiler

/-- There is no half character in the name or the description. -/
structure Profile.IsWhole (p : Profile) : Prop where
  name : p.name.isWhole = true
  description : ∀ t ∈ p.description, t.isWhole = true

theorem mapM_map_some {α β γ : Type} {f : α → β} {g : β → Option γ} {h : α → γ}
    (each : ∀ x, g (f x) = some (h x)) (xs : List α) : (xs.map f).mapM g = some (xs.map h) := by
  induction xs with
  | nil => rfl
  | cons x xs ih =>
    rw [List.map_cons, List.mapM_cons, each, ih]
    rfl

namespace Registry

def listed (r : Registry) : List Profile := r.names.filterMap r.get?

theorem mem_listed_iff {r : Registry} {p : Profile} :
    p ∈ r.listed ↔ ∃ name, r.get? name = some p := by
  rw [listed, List.mem_filterMap]
  refine ⟨fun ⟨name, _, found⟩ => ⟨name, found⟩, fun ⟨name, found⟩ => ⟨name, ?_, found⟩⟩
  rw [mem_names_iff_get?, found]
  rfl

theorem name_of_get? {r : Registry} {name : Text} {p : Profile} (known : r.get? name = some p) :
    p.name = name := by simpa using List.find?_some known

theorem map_name_listed (r : Registry) : r.listed.map (·.name) = r.names := by
  rw [listed, List.map_filterMap]
  refine (List.filterMap_congr fun name inside => ?_).trans List.filterMap_some
  obtain ⟨p, found⟩ := Option.isSome_iff_exists.1 (mem_names_iff_get?.1 inside)
  rw [found, Option.map_some, name_of_get? found]

end Registry

namespace Http

open Value

def itemReport? (item : Value) : Option (Text × List Text) := do
  let name ← (item.field? "name".toList).bind text?
  let members ← (item.field? "transformers".toList).bind texts?
  return (name, members)

/-- What a body reports of profiles. -/
def reported? (body : Value) : Option (List (Text × List Text)) :=
  match body.field? "profiles".toList with
  | some (.list items) => items.mapM itemReport?
  | _ => none

def reportOf (p : Profile) : Text × List Text := (p.name, p.customizations.map (·.name))

theorem texts?_texts (ts : List Text) : (texts ts).texts? = some ts := by
  have each := mapM_map_some (f := text) (g := text?) (h := id) (fun _ => rfl) ts
  rw [List.map_id] at each
  exact each

theorem itemReport?_profileSummary (p : Profile) :
    itemReport? (profileSummary p) = some (reportOf p) := by
  have name : (profileSummary p).field? "name".toList = some (.text p.name) := by
    simp [profileSummary, field?_object]
  have members : (profileSummary p).field? "transformers".toList =
      some (texts (p.customizations.map (·.name))) := by
    simp [profileSummary, field?_object, List.lookup_cons]
  simp only [itemReport?, name, members, Option.bind_some, texts?_texts]
  rfl

theorem profileList_eq (r : Registry) :
    profileList r = (200, object [("profiles", .list (r.listed.map profileSummary))]) := by
  rw [profileList, Registry.listed, List.map_filterMap]

theorem reported_profileList (r : Registry) :
    reported? (profileList r).2 = some (r.listed.map reportOf) := by
  have there : (profileList r).2.field? "profiles".toList =
      some (.list (r.listed.map profileSummary)) := by
    simp [profileList_eq, field?_object]
  simp only [reported?, there]
  exact mapM_map_some itemReport?_profileSummary r.listed

theorem sentIf_textOrNull (t : Option Text) : (textOrNull t).SentIf (t.all Text.isWhole) := by
  cases t with
  | none => exact sentIf_null
  | some t => exact sentIf_text t

theorem isWhole_name (c : Customization) : c.name.isWhole = true := by
  cases c <;> rfl

theorem sentIf_profileSummary {p : Profile} {chain : Chain Customization}
    (built : p.build = .ok chain) :
    (profileSummary p).SentIf (p.name.isWhole && p.description.all Text.isWhole) := by
  have names : NamesFit ["name", "description", "transformers"] := by decide
  have members : (texts (p.customizations.map (·.name))).SentIf
      ((p.customizations.map (·.name)).all Text.isWhole) := sentIf_list fun t _ => sentIf_text t
  have whole : (p.customizations.map (·.name)).all Text.isWhole = true := by
    obtain ⟨cs, -, names⟩ := Profile.exists_of_build built
    rw [← names, List.all_map, List.all_eq_true]
    exact fun c _ => isWhole_name c
  have fields : (profileSummary p).SentIf _ := sentIf_object (.cons "name" (sentIf_text p.name)
    (.cons "description" (sentIf_textOrNull p.description)
      (.cons "transformers" members .nil))) names
  rwa [whole, Bool.true_and, Bool.and_true] at fields

theorem sentIf_profileList {r : Registry} (sound : r.Sound) :
    (profileList r).2.SentIf
      (r.listed.all fun p => p.name.isWhole && p.description.all Text.isWhole) := by
  have names : NamesFit ["profiles"] := by decide
  have each : ∀ p ∈ r.listed, (profileSummary p).SentIf
      (p.name.isWhole && p.description.all Text.isWhole) := by
    intro p inside
    obtain ⟨name, known⟩ := Registry.mem_listed_iff.1 inside
    obtain ⟨chain, built⟩ := sound p (List.mem_of_find?_eq_some known)
    exact sentIf_profileSummary built
  have fields := sentIf_object (.cons "profiles" (sentIf_list each) .nil) names
  rw [profileList_eq]
  rwa [Bool.and_true] at fields

theorem listed_whole_iff (r : Registry) :
    (r.listed.all fun p => p.name.isWhole && p.description.all Text.isWhole) = true ↔
      ∀ name p, r.get? name = some p → p.IsWhole := by
  rw [List.all_eq_true]
  constructor
  · intro all name p known
    have whole := all p (Registry.mem_listed_iff.2 ⟨name, known⟩)
    rw [Bool.and_eq_true, Option.all_eq_true] at whole
    exact ⟨whole.1, whole.2⟩
  · intro all p inside
    obtain ⟨name, known⟩ := Registry.mem_listed_iff.1 inside
    rw [Bool.and_eq_true, Option.all_eq_true]
    exact ⟨(all name p known).name, (all name p known).description⟩

section Handle

variable {w : Workspace} {q : Request} {r : Registry}

theorem method_of_profiles (asked : q.destination = .endpoint .profiles) :
    q.method = "GET".toList := by
  unfold Request.destination route at asked
  split at asked
  · next e found =>
    split at asked
    · next allowed =>
      cases asked
      simpa [Endpoint.methods] using allowed
    · cases asked
  · split at asked <;> cases asked

theorem dispatch_profiles (asked : q.destination = .endpoint .profiles)
    (known : w.registry.outcome = .ok r) : (dispatch w q).outcome = .ok (profileList r) := by
  simp only [dispatch, asked, answer, withRegistry, known]
  rfl

theorem handle_profiles (asked : q.destination = .endpoint .profiles)
    (known : w.registry.outcome = .ok r) (sound : r.Sound) (fresh : Text) :
    ∃ response, (handle w fresh q).outcome = .ok response ∧
      (response.status = 200 ↔ ∀ name p, r.get? name = some p → p.IsWhole) ∧
      (response.status = 200 → response.body = (profileList r).2) := by
  have sent : sendable (dispatch w q).outcome = if r.listed.all fun p =>
      p.name.isWhole && p.description.all Text.isWhole then .ok (profileList r)
      else .error .unwritableResponse := by
    rw [dispatch_profiles asked known]
    exact sendable_of_sentIf (sentIf_profileList sound)
  have shown : shown q.method (profileList r).2 = (profileList r).2 := by
    rw [method_of_profiles asked]
    rfl
  rw [← listed_whole_iff]
  split at sent
  · next fits =>
    exact ⟨_, (handle_answered w fresh q sent).1, iff_of_true rfl fits, fun _ => shown⟩
  · next formless =>
    refine ⟨_, (handle_failed w fresh q sent).1, iff_of_false ?_ formless, ?_⟩ <;>
      exact fun good => nomatch good

end Handle

def overriding : Text :=
  "profiles: \x7b1: \x7b\x7d, \"1\": \x7btransformers: [".toList ++
    "\x7bname: directive_dispatch\x7d, \x7bname: exclude_from_code_coverage\x7d]\x7d, ".toList ++
    "c: 5, template: \x7bdescription: d\x7d\x7d".toList

def withOverriding : Workspace :=
  { Workspace.empty with
    files := Registry.withFile overriding
    environment := [("MARKUPGEN_PROFILES_FILE".toList, "profiles".toList)] }

def askProfiles : Request := ⟨"GET".toList, "/api/v1/profiles".toList, [], []⟩

end Http

end TemplateCompiler
