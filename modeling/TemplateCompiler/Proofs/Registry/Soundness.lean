import TemplateCompiler.Proofs.Registry.Entries

/-! Every profile of a loaded registry can be built. -/

namespace TemplateCompiler.Registry

def Sound (r : Registry) : Prop := ∀ p ∈ r.profiles, ∃ chain, p.build = .ok chain

theorem builtIn_sound : builtIn.Sound := by
  have builds : ∀ p ∈ Profile.builtIn, p.build.isOk = true := by decide +kernel
  intro p inside
  have fine := builds p inside
  cases built : p.build with
  | error f =>
    rw [built] at fine
    cases fine
  | ok chain => exact ⟨chain, rfl⟩

theorem Sound.put {r : Registry} (sound : r.Sound) {p : Profile}
    (builds : ∃ chain, p.build = .ok chain) : (r.put p).Sound := by
  intro q inside
  rcases List.mem_append.1 inside with old | new
  · exact sound q (List.mem_filter.1 old).1
  · cases List.mem_singleton.1 new
    exact builds

theorem Sound.addEntries {entries : List (Value × Value)} {r : Registry} (sound : r.Sound)
    {count : Nat} {x : Registry × List LoadNotice}
    (added : r.addEntries count entries = .ok x) : x.1.Sound := by
  induction entries generalizing r count x with
  | nil =>
    cases added
    exact sound
  | cons entry entries ih =>
    rw [Registry.addEntries] at added
    split at added
    · next p usable => exact ih (sound.put (checked_builds usable)) added
    · next f _ =>
      split at added
      · obtain ⟨y, later, rfl⟩ := map_eq_ok_iff.1 added
        have kept : y.1.Sound := ih sound later
        exact kept
      · cases added

theorem Sound.addDocument {r : Registry} (sound : r.Sound) {document : Value}
    {x : Registry × List LoadNotice} (added : r.addDocument document = .ok x) : x.1.Sound := by
  unfold Registry.addDocument at added
  split at added
  · exact sound.addEntries added
  · cases added
    exact sound

theorem Sound.addBytes {r : Registry} (sound : r.Sound) {bytes : List UInt8}
    {x : Registry × List LoadNotice} (added : r.addBytes bytes = .ok x) : x.1.Sound := by
  unfold Registry.addBytes at added
  obtain ⟨text, -, added⟩ := bind_eq_ok_iff.1 added
  split at added
  · exact sound.addDocument added
  · cases added
    exact sound
  · cases added

theorem load_sound {files : FileTree} {file : Option Text} {x : Registry × List LoadNotice}
    (loaded : load files file = .ok x) : x.1.Sound := by
  unfold load at loaded
  cases file with
  | none =>
    cases loaded
    exact builtIn_sound
  | some name =>
    obtain ⟨there, -, loaded⟩ := bind_eq_ok_iff.1 loaded
    split at loaded
    · cases loaded
      exact builtIn_sound
    · split at loaded
      · exact builtIn_sound.addBytes loaded
      · cases loaded
        exact builtIn_sound

theorem Sound.resolve {r : Registry} (sound : r.Sound) {name : Text} {p : Profile}
    (known : r.get? name = some p) : ∃ chain, p.build = .ok chain ∧ r.resolve name = .ok chain := by
  obtain ⟨chain, built⟩ := sound p (List.mem_of_find?_eq_some known)
  refine ⟨chain, built, ?_⟩
  rw [Registry.resolve, known]
  exact built

end TemplateCompiler.Registry
