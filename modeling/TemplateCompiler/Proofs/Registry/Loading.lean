import TemplateCompiler.Proofs.Registry.Entries

/-! What a profiles file makes of the registry. Unusable entries are skipped and change nothing,
but a file that is no text, a scalar that is not what its kind says, and an entry that clashes with
an argument make loading fail as a whole. -/

namespace TemplateCompiler.Registry

section Entries

def ofEntries (entries : List (Value × Value)) : Registry :=
  (entries.filterMap accepted?).foldl put builtIn

/-- Every unusable entry is noted, and at the end how many of the others there are. -/
def noticesFrom (count : Nat) (entries : List (Value × Value)) : List LoadNotice :=
  (entries.filter fun e => (accepted? e).isNone).map (fun e => .skipped e.1.display) ++
    [.loaded (count + (entries.filterMap accepted?).length)]

theorem addEntries_eq {entries : List (Value × Value)} (tame : ∀ e ∈ entries, ¬ Breaks e)
    (r : Registry) (count : Nat) :
    addEntries r count entries =
      .ok ((entries.filterMap accepted?).foldl put r, noticesFrom count entries) := by
  induction entries generalizing r count with
  | nil => rfl
  | cons entry entries ih =>
    obtain ⟨first, others⟩ := List.forall_mem_cons.1 tame
    rw [← checked_escapes_iff] at first
    rw [addEntries]
    cases usable : checked entry.1 entry.2 with
    | ok p =>
      have accepted : accepted? entry = some p := by rw [accepted?, usable]; rfl
      simp only [ih others, noticesFrom, List.filterMap_cons, List.filter_cons, accepted,
        List.foldl_cons, List.length_cons, Option.isNone_some, Bool.false_eq_true, if_false]
      congr 5
      omega
    | error f =>
      have refused : accepted? entry = none := by rw [accepted?, usable]; rfl
      have skippable : isSkippable f = true := by simpa [usable] using first
      simp [ih others, noticesFrom, refused, skippable, Except.map]

theorem addEntries_error {entries : List (Value × Value)} {entry : Value × Value}
    (inside : entry ∈ entries) (breaks : Breaks entry) (r : Registry) (count : Nat) :
    ∃ f, addEntries r count entries = .error f := by
  induction entries generalizing r count with
  | nil => cases inside
  | cons first entries ih =>
    rw [addEntries]
    rcases List.mem_cons.1 inside with rfl | further
    · obtain ⟨f, failed, escapes⟩ := (checked_escapes_iff entry).2 breaks
      exact ⟨f, by simp [failed, escapes]⟩
    · cases checked first.1 first.2 with
      | ok p => exact ih further (r.put p) (count + 1)
      | error f =>
        obtain ⟨g, failed⟩ := ih further r count
        by_cases skippable : isSkippable f = true
        · exact ⟨g, by simp [skippable, failed, Except.map]⟩
        · exact ⟨f, by simp [skippable]⟩

end Entries

section Names

theorem mem_names_iff {r : Registry} {name : Text} :
    name ∈ r.names ↔ ∃ p ∈ r.profiles, p.name = name := by
  simp [names]

theorem mem_names_put {r : Registry} {name : Text} (p : Profile) (listed : name ∈ r.names) :
    name ∈ (r.put p).names := by
  obtain ⟨q, inside, called⟩ := mem_names_iff.1 listed
  rw [mem_names_iff]
  by_cases same : q.name = p.name
  · exact ⟨p, by simp [put], same.symm.trans called⟩
  · exact ⟨q, by simp [put, inside, same], called⟩

theorem mem_names_ofEntries {name : Text} (entries : List (Value × Value))
    (listed : name ∈ builtIn.names) : name ∈ (ofEntries entries).names := by
  refine List.foldlRecOn (motive := fun r => name ∈ r.names) _ put listed ?_
  exact fun r listed p _ => mem_names_put p listed

end Names

section File

def entriesOf? (document : Value) : Option (List (Value × Value)) :=
  match (document.field? "profiles".toList).map Value.content with
  | some (.map entries) => some entries
  | _ => none

def fileText (bytes : List UInt8) : Except Failure Text :=
  Encoding.decodeStrict .utf8 "utf-8".toList bytes

/-- The bytes are a text, and every scalar in it that can be read at all has a value. -/
def Readable (bytes : List UInt8) : Prop :=
  ∃ text, fileText bytes = .ok text ∧ ∀ f, Yaml.read text ≠ .error (.unusable f)

/-- The entries that a file with these bytes has, if there are any to be looked at. -/
def entriesIn (bytes : List UInt8) : Option (List (Value × Value)) :=
  match fileText bytes with
  | .ok text =>
    match Yaml.read text with
    | .ok document => entriesOf? document
    | .error _ => none
  | .error _ => none

theorem entriesOf?_eq_some_iff {document : Value} {entries : List (Value × Value)} :
    entriesOf? document = some entries ↔
      (document.field? "profiles".toList).map Value.content = some (.map entries) := by
  rw [entriesOf?]
  generalize (document.field? "profiles".toList).map Value.content = content
  constructor
  · intro found
    split at found
    · cases found
      rfl
    · cases found
  · rintro rfl
    rfl

theorem addDocument_of_entries {document : Value} {entries : List (Value × Value)}
    (found : entriesOf? document = some entries) (r : Registry) :
    addDocument r document = addEntries r 0 entries := by
  rw [addDocument, entriesOf?_eq_some_iff.1 found]

theorem addDocument_of_none {document : Value} (nothing : entriesOf? document = none)
    (r : Registry) : addDocument r document = .ok (r, [.noProfiles]) := by
  rw [addDocument]
  split
  · next entries content =>
    rw [entriesOf?_eq_some_iff.2 content] at nothing
    cases nothing
  · rfl

theorem addBytes_of_entries {bytes : List UInt8} {entries : List (Value × Value)}
    (found : entriesIn bytes = some entries) (r : Registry) :
    addBytes r bytes = addEntries r 0 entries := by
  unfold entriesIn at found
  unfold addBytes
  split at found
  · next text decoded =>
    split at found
    · next document read =>
      rw [fileText] at decoded
      simp only [decoded, Except.bind, read, addDocument_of_entries found]
    · cases found
  · cases found

theorem addBytes_of_none {bytes : List UInt8} (readable : Readable bytes)
    (nothing : entriesIn bytes = none) (r : Registry) :
    ∃ notice, addBytes r bytes = .ok (r, [notice]) := by
  obtain ⟨text, decoded, usable⟩ := readable
  simp only [entriesIn, decoded] at nothing
  rw [fileText] at decoded
  simp only [addBytes, decoded, Except.bind]
  cases read : Yaml.read text with
  | ok document =>
    simp only [read] at nothing
    exact ⟨_, addDocument_of_none nothing r⟩
  | error e =>
    cases e with
    | malformed => exact ⟨_, rfl⟩
    | unusable f => exact absurd read (usable f)

theorem readable_of_addBytes {bytes : List UInt8} {r : Registry} {x : Registry × List LoadNotice}
    (added : addBytes r bytes = .ok x) : Readable bytes := by
  obtain ⟨text, decoded, added⟩ := bind_eq_ok_iff.1 added
  refine ⟨text, decoded, fun f unusable => ?_⟩
  simp only [unusable] at added
  cases added

theorem tame_of_addBytes {bytes : List UInt8} {r : Registry} {x : Registry × List LoadNotice}
    (added : addBytes r bytes = .ok x) {entries : List (Value × Value)}
    (found : entriesIn bytes = some entries) : ∀ e ∈ entries, ¬ Breaks e := by
  intro e inside breaks
  obtain ⟨f, failed⟩ := addEntries_error inside breaks r 0
  rw [addBytes_of_entries found, failed] at added
  cases added

theorem load_of_read {files : FileTree} {file : Text} {bytes : List UInt8}
    (content : files.read (.ofText file) = .ok bytes) :
    load files (some file) = addBytes builtIn bytes := by
  have there : files.isThere (.ofText file) = .ok true := by
    unfold FileTree.read at content
    unfold FileTree.isThere
    cases checked : FileTree.checkPath (.ofText file) with
    | error f =>
      rw [checked] at content
      cases content
    | ok u =>
      cases walked : files.walk (.ofText file) with
      | error problem =>
        simp only [checked, walked, Except.bind] at content
        cases content
      | ok spot => rfl
  simp only [load, there, content, Except.bind, Bool.not_true, Bool.false_eq_true, if_false]

end File

/-- Loading a file returns exactly if the file is readable and no entry clashes with an argument.
Then the built-in profiles are listed, and the registry is that of the usable entries: an unusable
one is noted, and without it the registry is the same. -/
theorem load_existing {files : FileTree} {file : Text} {bytes : List UInt8}
    (content : files.read (.ofText file) = .ok bytes) :
    ((∃ r notices, load files (some file) = .ok (r, notices)) ↔
      Readable bytes ∧ ∀ entries, entriesIn bytes = some entries → ∀ e ∈ entries, ¬ Breaks e) ∧
    ∀ r notices, load files (some file) = .ok (r, notices) →
      Profile.webpage.name ∈ r.names ∧ Profile.template.name ∈ r.names ∧
      (entriesIn bytes = none → r = builtIn) ∧
      ∀ entries, entriesIn bytes = some entries →
        r = ofEntries entries ∧ notices = noticesFrom 0 entries ∧
        ∀ before entry after, entries = before ++ entry :: after → accepted? entry = none →
          .skipped entry.1.display ∈ notices ∧
          addEntries builtIn 0 (before ++ after) = .ok (r, noticesFrom 0 (before ++ after)) := by
  rw [load_of_read content]
  refine ⟨⟨?_, ?_⟩, ?_⟩
  · rintro ⟨r, notices, added⟩
    exact ⟨readable_of_addBytes added, fun entries => tame_of_addBytes added⟩
  · rintro ⟨readable, whole⟩
    cases found : entriesIn bytes with
    | none =>
      obtain ⟨notice, added⟩ := addBytes_of_none readable found builtIn
      exact ⟨_, _, added⟩
    | some entries =>
      exact ⟨_, _, (addBytes_of_entries found builtIn).trans
        (addEntries_eq (whole entries found) builtIn 0)⟩
  · intro r notices added
    have listed : Profile.webpage.name ∈ builtIn.names ∧ Profile.template.name ∈ builtIn.names :=
      ⟨mem_names_iff.2 ⟨.webpage, by simp [builtIn, Profile.builtIn], rfl⟩,
        mem_names_iff.2 ⟨.template, by simp [builtIn, Profile.builtIn], rfl⟩⟩
    cases found : entriesIn bytes with
    | none =>
      obtain ⟨notice, read⟩ := addBytes_of_none (readable_of_addBytes added) found builtIn
      rw [read] at added
      cases added
      exact ⟨listed.1, listed.2, fun _ => rfl, fun _ found => nomatch found⟩
    | some entries =>
      have fine := tame_of_addBytes added found
      have whole := addEntries_eq fine builtIn 0
      rw [addBytes_of_entries found, whole, Except.ok.injEq, Prod.mk.injEq] at added
      obtain ⟨rfl, rfl⟩ := added
      refine ⟨mem_names_ofEntries entries listed.1, mem_names_ofEntries entries listed.2,
        fun nothing => (nomatch nothing), ?_⟩
      rintro _ ⟨rfl⟩
      refine ⟨rfl, rfl, ?_⟩
      rintro before entry after rfl refused
      constructor
      · simp [noticesFrom, refused]
      · have without : ∀ e ∈ before ++ after, ¬ Breaks e := by
          intro e inside
          refine fine e ?_
          rcases List.mem_append.1 inside with left | right
          · exact List.mem_append_left _ left
          · exact List.mem_append_right _ (List.mem_cons_of_mem _ right)
        rw [addEntries_eq without]
        simp [refused]

def withFile (text : Text) : FileTree :=
  ⟨[(["profiles".toList], .file (text.flatMap Encoding.utf8Bytes))], []⟩

theorem withFile_read (text : Text) : (withFile text).read (.ofText "profiles".toList) =
    .ok (text.flatMap Encoding.utf8Bytes) := rfl

def blankAndUsable : Text :=
  "profiles: \x7ba: \x7btransformers: [\x7bname: set_namespace, ".toList ++
    "args: \x7bnamespace: \" \"\x7d\x7d]\x7d, b: \x7btransformers: []\x7d\x7d".toList

theorem load_existing_blankAndUsable :
    (withFile blankAndUsable).read (.ofText "profiles".toList) =
      .ok (blankAndUsable.flatMap Encoding.utf8Bytes) ∧
    ∃ r entries, load (withFile blankAndUsable) (some "profiles".toList) =
        .ok (r, [.skipped "a".toList, .loaded 1]) ∧
      Profile.webpage.name ∈ r.names ∧ Profile.template.name ∈ r.names ∧
      entriesIn (blankAndUsable.flatMap Encoding.utf8Bytes) = some entries ∧
      entries.length = 2 ∧ r = ofEntries entries := by
  have noted : (load (withFile blankAndUsable) (some "profiles".toList)).toOption.map Prod.snd =
      some [.skipped "a".toList, .loaded 1] := by decide +kernel
  have two : (entriesIn (blankAndUsable.flatMap Encoding.utf8Bytes)).map List.length = some 2 := by
    decide +kernel
  have content := withFile_read blankAndUsable
  cases loaded : load (withFile blankAndUsable) (some "profiles".toList) with
  | error f =>
    rw [loaded] at noted
    cases noted
  | ok x =>
    rw [loaded] at noted
    obtain ⟨entries, found, length⟩ := Option.map_eq_some_iff.1 two
    obtain ⟨webpage, template, -, held⟩ := (load_existing content).2 x.1 x.2 loaded
    have same : x = (x.1, [.skipped "a".toList, .loaded 1]) :=
      Prod.ext rfl (Option.some.inj noted)
    exact ⟨content, x.1, entries, congrArg Except.ok same, webpage, template, found, length,
      (held entries found).1⟩

def numberForNamespace : Text :=
  "profiles: \x7ba: \x7btransformers: [\x7bname: set_namespace, ".toList ++
    "args: \x7bnamespace: 5\x7d\x7d]\x7d, b: \x7btransformers: []\x7d\x7d".toList

/-- One clashing entry, and no profile of the file is loaded, nor are the built-in ones. -/
theorem load_numberForNamespace :
    (withFile numberForNamespace).read (.ofText "profiles".toList) =
      .ok (numberForNamespace.flatMap Encoding.utf8Bytes) ∧
    ¬ ∃ r notices,
      load (withFile numberForNamespace) (some "profiles".toList) = .ok (r, notices) := by
  refine ⟨withFile_read _, ?_⟩
  rintro ⟨r, notices, loaded⟩
  have fails : (load (withFile numberForNamespace) (some "profiles".toList)).isOk = false := by
    decide +kernel
  rw [loaded] at fails
  cases fails

end TemplateCompiler.Registry
