import TemplateCompiler.CommandLine
import TemplateCompiler.Proofs.Outcome

/-! What is written on a command line arrives: a template and options whose arguments do not look
like flags are read back one by one, and directives come out as they were put in. -/

namespace TemplateCompiler

/-- What is to be compiled and how, by whichever way it is asked for. -/
structure Job where
  path : Text
  language : Option Text
  profile : Text
  directives : Directives

theorem Directives.put_new {ds : Directives} {name value : Text}
    (new : name ∉ ds.map Prod.fst) : ds.put name value = ds ++ [(name, value)] := by
  induction ds with
  | nil => rfl
  | cons d ds ih =>
    rw [List.map_cons, List.mem_cons, not_or] at new
    rw [put, if_neg (Ne.symm new.1), ih new.2, List.cons_append]

theorem Directives.ofList_distinct {ds : List (Text × Text)}
    (distinct : (ds.map Prod.fst).Nodup) : ofList ds = ds := by
  have put_all (done : Directives) (fresh : ((done ++ ds).map Prod.fst).Nodup) :
      ds.foldl (fun done d => done.put d.1 d.2) done = done ++ ds := by
    clear distinct
    induction ds generalizing done with
    | nil => exact (List.append_nil done).symm
    | cons d ds ih =>
      have new : d.1 ∉ done.map Prod.fst := by
        rw [List.map_append, List.map_cons, List.nodup_append] at fresh
        exact fun inside => fresh.2.2 d.1 inside d.1 List.mem_cons_self rfl
      rw [List.append_cons] at fresh
      rw [List.foldl_cons, put_new new, ih _ fresh, ← List.append_cons]
  exact put_all [] distinct

namespace CommandLine

/-- A word that is taken for what it is. -/
def IsOperand (word : Text) : Prop := classify word = .ok (.operand word)

instance (word : Text) : Decidable (IsOperand word) :=
  decidable_of_iff ((classify word).toOption = some (.operand word)) toOption_eq_some_iff

theorem words_cons {raw : Text} {rest : List Text} {word : Word} {more : List Word}
    (first : classify raw = .ok word) (others : words rest = .ok more) :
    words (raw :: rest) = .ok (word :: more) := by
  have flag : raw ≠ "--".toList := by
    rintro rfl
    have several : (classify "--".toList).toOption = none := by decide
    rw [first] at several
    cases several
  rw [words, if_neg flag, first, others]
  rfl

def flagWord (f : Flag) : Text := ((spellings.find? fun s => s.2 = f).map Prod.fst).getD []

theorem classify_flagWord (f : Flag) : classify (flagWord f) = .ok (.flag f none) := by
  cases f <;> rfl

def optionWords (o : Flag × Text) : List Text := [flagWord o.1, o.2]

section Options

variable {options : List (Flag × Text)} {path : Text}

theorem words_options (operands : ∀ o ∈ options, IsOperand o.2) :
    words (options.flatMap optionWords) =
      .ok (options.flatMap fun o => [.flag o.1 none, .operand o.2]) := by
  induction options with
  | nil => rfl
  | cons o options ih =>
    obtain ⟨first, others⟩ := List.forall_mem_cons.1 operands
    exact words_cons (classify_flagWord o.1) (words_cons first (ih others))

theorem collect_options (i : Invocation) (asked : ∀ o ∈ options, o.1 ≠ .help) :
    collect i (options.flatMap fun o => [.flag o.1 none, .operand o.2]) =
      .ok (options.foldl (fun i o => i.set o.1 o.2) i) := by
  induction options generalizing i with
  | nil => rfl
  | cons o options ih =>
    obtain ⟨first, others⟩ := List.forall_mem_cons.1 asked
    obtain ⟨f, argument⟩ := o
    cases f with
    | help => exact absurd rfl first
    | _ => exact ih _ others

theorem set_options (i : Invocation) (asked : ∀ o ∈ options, o.1 ≠ .help) :
    let set := options.foldl (fun i o => i.set o.1 o.2) i
    set.template = i.template ∧ set.help = i.help ∧ set.extras = i.extras := by
  induction options generalizing i with
  | nil => exact ⟨rfl, rfl, rfl⟩
  | cons o options ih =>
    obtain ⟨first, others⟩ := List.forall_mem_cons.1 asked
    obtain ⟨f, argument⟩ := o
    cases f with
    | help => exact absurd rfl first
    | _ => exact ih _ others

theorem parse_options (template : IsOperand path) (operands : ∀ o ∈ options, IsOperand o.2)
    (asked : ∀ o ∈ options, o.1 ≠ .help) :
    parse (path :: options.flatMap optionWords) =
      .ok (options.foldl (fun i o => i.set o.1 o.2)
        { Invocation.start with template := path }) := by
  have collected : collect .start (.operand path :: options.flatMap fun o =>
      [.flag o.1 none, .operand o.2]) =
      .ok (options.foldl (fun i o => i.set o.1 o.2)
        { Invocation.start with template := path }) := by
    rw [← collect_options _ asked]
    cases options <;> rfl
  obtain ⟨there, noHelp, noExtras⟩ :=
    set_options { Invocation.start with template := some path } asked
  rw [parse, words_cons template (words_options operands)]
  simp only [bind, Except.bind, collected, there, noHelp, noExtras]
  rfl

end Options

def directiveWord (d : Text × Text) : Text := d.1 ++ '=' :: d.2

/-- A directive that its word stands for: the name is not blank and has no equals sign, and there
are no blanks around name or value. -/
structure IsPlain (d : Text × Text) : Prop where
  filled : d.1.isBlank = false
  unsigned : '=' ∉ d.1
  name : d.1.trim = d.1
  value : d.2.trim = d.2

instance (d : Text × Text) : Decidable (IsPlain d) :=
  decidable_of_iff
    (d.1.isBlank = false ∧ '=' ∉ d.1 ∧ d.1.trim = d.1 ∧ d.2.trim = d.2)
    ⟨fun ⟨filled, unsigned, name, value⟩ => ⟨filled, unsigned, name, value⟩,
      fun plain => ⟨plain.filled, plain.unsigned, plain.name, plain.value⟩⟩

theorem directiveOf_directiveWord {d : Text × Text} (plain : IsPlain d) :
    directiveOf (directiveWord d) = .ok d := by
  have before : ∀ c ∈ d.1, (c != '=') = true := fun c inside =>
    bne_iff_ne.2 fun same => plain.unsigned (same ▸ inside)
  have name : (directiveWord d).takeWhile (· != '=') = d.1 := by
    rw [directiveWord, List.takeWhile_append_of_pos before]
    exact List.append_nil _
  have value : (directiveWord d).dropWhile (· != '=') = '=' :: d.2 := by
    rw [directiveWord, List.dropWhile_append_of_pos before]
    rfl
  simp only [directiveOf, name, value, plain.filled, plain.name, plain.value]
  rfl

theorem directives_directiveWords {ds : Directives} (plain : ∀ d ∈ ds, IsPlain d)
    (distinct : (ds.map Prod.fst).Nodup) : directives (ds.map directiveWord) = .ok ds := by
  have each : (ds.map directiveWord).mapM directiveOf = .ok ds := by
    rw [List.mapM_map]
    clear distinct
    induction ds with
    | nil => rfl
    | cons d ds ih =>
      obtain ⟨first, others⟩ := List.forall_mem_cons.1 plain
      rw [List.mapM_cons, Function.comp_apply, directiveOf_directiveWord first, ih others]
      rfl
  rw [directives, each]
  exact congrArg Except.ok (Directives.ofList_distinct distinct)

end CommandLine

namespace Job

open CommandLine

def options (j : Job) : List (Flag × Text) :=
  [(.relativePath, j.path), (.profile, j.profile)] ++ j.language.toList.map (.language, ·) ++
    j.directives.map fun d => (.directive, directiveWord d)

def commandLine (j : Job) : List Text := j.path :: j.options.flatMap optionWords

def invocation (j : Job) : Invocation where
  template := j.path
  relativePath := j.path
  language := j.language
  profile := j.profile
  directives := j.directives.map directiveWord
  output := none
  help := false
  extras := []

/-- A job that its command line stands for: the path is in normal form, no word looks like a flag,
and the directives are written without loss and have different names. -/
structure IsDeliverable (j : Job) : Prop where
  normal : (FilePath.ofText j.path).toText = j.path
  operands : ∀ o ∈ j.options, IsOperand o.2
  plain : ∀ d ∈ j.directives, IsPlain d
  distinct : (j.directives.map Prod.fst).Nodup

instance (j : Job) : Decidable j.IsDeliverable :=
  decidable_of_iff
    ((FilePath.ofText j.path).toText = j.path ∧ (∀ o ∈ j.options, IsOperand o.2) ∧
      (∀ d ∈ j.directives, IsPlain d) ∧ (j.directives.map Prod.fst).Nodup)
    ⟨fun ⟨normal, operands, plain, distinct⟩ => ⟨normal, operands, plain, distinct⟩,
      fun fit => ⟨fit.normal, fit.operands, fit.plain, fit.distinct⟩⟩

theorem set_directives (i : Invocation) (ds : Directives) :
    (ds.map fun d => (Flag.directive, directiveWord d)).foldl (fun i o => i.set o.1 o.2) i =
      { i with directives := i.directives ++ ds.map directiveWord } := by
  induction ds generalizing i with
  | nil => rw [List.map_nil, List.map_nil, List.append_nil, List.foldl_nil]
  | cons d ds ih =>
    rw [List.map_cons, List.foldl_cons, ih, List.map_cons, List.append_cons]
    rfl

def request (j : Job) : Request := ⟨j.path, j.path, j.language, j.directives⟩

variable {j : Job}

theorem parse_commandLine (deliverable : j.IsDeliverable) :
    parse j.commandLine = .ok j.invocation := by
  have template : IsOperand j.path :=
    deliverable.operands (.relativePath, j.path) (by simp [options])
  have asked : ∀ o ∈ j.options, o.1 ≠ .help := by
    intro o inside
    simp only [options, List.mem_append, List.mem_cons, List.not_mem_nil, List.mem_map] at inside
    rcases inside with ((rfl | rfl | ⟨⟨⟩⟩) | ⟨l, -, rfl⟩) | ⟨d, -, rfl⟩
    all_goals exact fun same => nomatch same
  rw [commandLine, parse_options template deliverable.operands asked, options, List.foldl_append,
    set_directives]
  cases language : j.language <;> simp [invocation, language, Invocation.set, Invocation.start]

end Job

namespace CommandLine

/-- How the command line ends after a pass: the diagnostics are printed, and then the code, or the
stage that failed. -/
def ending (console : Console) (path : Text) (ns : List Notification) (result : PassResult) :
    Except Failure Outcome := do
  let lines ← diagnosticLines console path (Notification.diagnostics ns)
  match result with
  | .code code =>
    console.takes code
    return .finished 0 code lines
  | .failure stage _ =>
    return .finished 1 [] (lines ++ errorLine ("generation failed during ".toList ++ stage.name))

def refused (f : Failure) : Outcome := .finished 2 [] (errorLine f.message)

variable {console : Console} {w : Workspace} {j : Job}

theorem report_eq (i : Invocation) (printed : i.output = none) (path : Text)
    (pass : PassRun (Chain Customization) Notice) :
    (report console i path w pass).2 =
      pass.result.bind (ending console path pass.notifications) := by
  simp only [report, ending, Except.bind, bind]
  cases pass.result with
  | error f => rfl
  | ok result =>
    cases diagnosticLines console path (Notification.diagnostics pass.notifications) with
    | error f => cases result <;> rfl
    | ok lines =>
      cases result with
      | failure stage cause => rfl
      | code code =>
        simp only [deliver, printed]
        cases console.takes code <;> rfl

theorem requestOf_invocation (deliverable : j.IsDeliverable) :
    requestOf j.invocation (.ofText j.path) j.directives = j.request := by
  have filled : j.path ≠ [] := by
    intro empty
    have normal := deliverable.normal
    rw [empty] at normal
    cases normal
  rw [requestOf, deliverable.normal, Job.request]
  cases path : j.path with
  | nil => exact absurd path filled
  | cons c rest => simp only [Job.invocation, path]

theorem run_job (deliverable : j.IsDeliverable) (level : w.settings.checkLogLevel = .ok ()) :
    (run console w j.commandLine).2 =
      match (w.run j.request j.profile none).outcome with
      | .ok pass => pass.result.bind (ending console j.path pass.notifications)
      | .error f => if f.isConfiguration then .ok (refused f) else .error f := by
  have given : directives j.invocation.directives = .ok j.directives :=
    directives_directiveWords deliverable.plain deliverable.distinct
  have executed : run console w j.commandLine = execute console j.invocation j.path w := by
    rw [run, Job.parse_commandLine deliverable]
    rfl
  rw [executed]
  simp only [execute, level, given, requestOf_invocation deliverable, deliverable.normal]
  have profile : j.invocation.profile = j.profile := rfl
  rw [profile]
  cases (w.run j.request j.profile none).outcome with
  | ok pass => exact report_eq j.invocation rfl j.path pass
  | error f => cases asked : f.isConfiguration <;> simp [asked, refused]

end CommandLine

end TemplateCompiler
