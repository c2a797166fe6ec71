import TemplateCompiler.Workspace

/-! The command line: one template is compiled to standard output or to a file. -/

namespace TemplateCompiler.CommandLine

def directiveOf (raw : Text) : Except Failure (Text × Text) :=
  let name := raw.takeWhile (· != '=')
  match raw.dropWhile (· != '=') with
  | _ :: value =>
    if Text.isBlank name then .error (.malformedDirective raw)
    else .ok (Text.trim name, Text.trim value)
  | [] => .error (.malformedDirective raw)

def directives (raws : List Text) : Except Failure Directives :=
  (raws.mapM directiveOf).map Directives.ofList

inductive Flag where
  | help
  | relativePath
  | language
  | profile
  | directive
  | output
deriving DecidableEq, Repr

def spellings : List (Text × Flag) :=
  [("-h".toList, .help), ("--help".toList, .help), ("--relative-path".toList, .relativePath),
    ("--language".toList, .language), ("--profile".toList, .profile),
    ("-D".toList, .directive), ("--directive".toList, .directive),
    ("--output".toList, .output)]

def flagName (f : Flag) : Text :=
  Text.joinWith ['/'] ((spellings.filter fun s => s.2 = f).map Prod.fst)

inductive Word where
  | operand (text : Text)
  | flag (f : Flag) (attached : Option Text)
  | unknown (raw : Text)
  | endOfFlags
deriving DecidableEq, Repr

inductive UsageError where
  | ambiguous (raw : Text) (matching : List Text)
  | missingArgument (f : Flag)
  | unwantedArgument (f : Flag) (argument : Text)
  | missingTemplate
  | unrecognized (words : List Text)
deriving DecidableEq, Repr

namespace UsageError

def message : UsageError → Text
  | .ambiguous raw matching =>
    "ambiguous option: ".toList ++ raw ++ " could match ".toList ++
      Text.joinWith ", ".toList matching
  | .missingArgument f =>
    "argument ".toList ++ flagName f ++ ": expected one argument".toList
  | .unwantedArgument f argument =>
    "argument ".toList ++ flagName f ++ ": ignored explicit argument ".toList ++
      argument.quoted
  | .missingTemplate => "the following arguments are required: template".toList
  | .unrecognized words =>
    "unrecognized arguments: ".toList ++ Text.joinWith [' '] words

end UsageError

def splitAttached (raw : Text) : Text × Option Text :=
  match raw.dropWhile (· != '=') with
  | _ :: attached => (raw.takeWhile (· != '='), some attached)
  | [] => (raw, none)

/-- The flags that a word may stand for: a long one may be shortened, and to a short one its
argument may be attached. -/
def candidates (raw : Text) : List (Text × Flag × Option Text) :=
  if "--".toList.isPrefixOf raw then
    let (start, attached) := splitAttached raw
    (spellings.filter fun s => start.isPrefixOf s.1).map fun s => (s.1, s.2, attached)
  else
    spellings.filterMap fun s =>
      if s.1 = raw.take 2 then some (s.1, s.2, some (raw.drop 2))
      else if raw.isPrefixOf s.1 then some (s.1, s.2, none)
      else none

/-- A negative number is not a flag; a line feed may follow it. -/
def isNegativeNumber (raw : Text) : Bool :=
  match raw with
  | '-' :: rest =>
    let number := if rest.getLast? = some '\n' then rest.dropLast else rest
    match number.dropWhile Text.isDecimal with
    | [] => !number.isEmpty
    | '.' :: fraction => !fraction.isEmpty && fraction.all Text.isDecimal
    | _ => false
  | _ => false

def strayWord (raw : Text) : Word :=
  if isNegativeNumber raw || raw.contains ' ' then .operand raw else .unknown raw

def classify (raw : Text) : Except UsageError Word :=
  match raw with
  | '-' :: _ :: _ =>
    match spellings.lookup raw with
    | some f => .ok (.flag f none)
    | none =>
      let (start, attached) := splitAttached raw
      match attached.isSome, spellings.lookup start with
      | true, some f => .ok (.flag f attached)
      | _, _ =>
        match candidates raw with
        | [] => .ok (strayWord raw)
        | [(_, f, attached)] => .ok (.flag f attached)
        | several => .error (.ambiguous raw (several.map Prod.fst))
  | _ => .ok (.operand raw)

def words : List Text → Except UsageError (List Word)
  | [] => .ok []
  | raw :: rest =>
    if raw = "--".toList then .ok (.endOfFlags :: rest.map .operand)
    else do
      let word ← classify raw
      let more ← words rest
      return word :: more

structure Invocation where
  template : Option Text
  relativePath : Option Text
  language : Option Text
  profile : Text
  directives : List Text
  output : Option Text
  help : Bool
  extras : List Text
deriving DecidableEq, Repr

namespace Invocation

def start : Invocation := ⟨none, none, none, "webpage".toList, [], none, false, []⟩

def set (i : Invocation) (f : Flag) (argument : Text) : Invocation :=
  match f with
  | .help => { i with help := true }
  | .relativePath => { i with relativePath := some argument }
  | .language => { i with language := some argument }
  | .profile => { i with profile := argument }
  | .directive => { i with directives := i.directives ++ [argument] }
  | .output => { i with output := some argument }

def addExtra (i : Invocation) (word : Text) : Invocation :=
  { i with extras := i.extras ++ [word] }

def addOperand (i : Invocation) (word : Text) : Invocation :=
  if i.template.isSome then i.addExtra word else { i with template := some word }

end Invocation

/-- Goes through the words. Two hyphens are passed over where the template stands beside them. -/
def collect (i : Invocation) : List Word → Except UsageError Invocation
  | [] => .ok i
  | .unknown raw :: rest => collect (i.addExtra raw) rest
  | .flag .help attached :: rest =>
    match attached with
    | some argument => .error (.unwantedArgument .help argument)
    | none => collect { i with help := true } rest
  | .flag f (some argument) :: rest => collect (i.set f argument) rest
  | .flag f none :: .operand argument :: rest => collect (i.set f argument) rest
  | .flag f none :: _ => .error (.missingArgument f)
  | .operand word :: .endOfFlags :: rest =>
    if i.template.isSome then collect ((i.addExtra word).addExtra "--".toList) rest
    else collect (i.addOperand word) rest
  | .operand word :: rest => collect (i.addOperand word) rest
  | .endOfFlags :: rest =>
    if i.template.isNone && !rest.isEmpty then collect i rest
    else collect (i.addExtra "--".toList) rest

def parse (argv : List Text) : Except UsageError Invocation := do
  let i ← collect .start (← words argv)
  if i.help then return i
  else if i.template.isNone then .error .missingTemplate
  else if !i.extras.isEmpty then .error (.unrecognized i.extras)
  else return i

inductive Outcome where
  | usage (problem : UsageError)
  | help
  /-- `err` is what is printed to standard error; the records of the log, which go to the same
  stream, are left out. -/
  | finished (code : Nat) (out err : Text)
deriving DecidableEq, Repr

def errorLine (message : Text) : Text := "ERROR: ".toList ++ message ++ ['\n']

/-- Where the program prints: how it words the failure that ended a pass, and which code standard
output takes. -/
structure Console where
  describe : Failure → Text
  takes : Text → Except Failure Unit

def zeroFilled (width : Nat) : Int → Text
  | .ofNat n => Moment.padded width n
  | .negSucc n => '-' :: Moment.padded (width - 1) (n + 1)

def diagnosticLine (console : Console) (template : Text) (d : Diagnostic) :
    Except Failure Text := do
  let line ← Failure.writeInteger d.line
  let column ← Failure.writeInteger d.column
  let _ ← Failure.writeInteger d.code
  let message := match d.problem with
    | .failed cause => console.describe cause
    | problem => problem.message
  return template ++ '(' :: line ++ ',' :: column ++ "): error MG".toList ++
    zeroFilled 4 d.code ++ ": ".toList ++ message ++ ['\n']

def diagnosticLines (console : Console) (template : Text) (ds : List Diagnostic) :
    Except Failure Text :=
  (ds.mapM (diagnosticLine console template)).map List.flatten

def requestOf (i : Invocation) (template : FilePath) (ds : Directives) : Request where
  sourcePath := template.toText
  relativePath := match i.relativePath with
    | some (c :: rest) => c :: rest
    | _ => template.name
  language := i.language
  directives := ds

def deliver (console : Console) (i : Invocation) (w : Workspace) (code err : Text) :
    Workspace × Except Failure Outcome :=
  match i.output with
  | some (c :: rest) =>
    let (files, written) := w.files.writeText (.ofText (c :: rest)) code
    ({ w with files := files }, written.map fun _ => .finished 0 [] err)
  | _ => (w, (console.takes code).map fun _ => .finished 0 code err)

def report (console : Console) (i : Invocation) (template : Text) (w : Workspace)
    (pass : PassRun (Chain Customization) Notice) : Workspace × Except Failure Outcome :=
  let found := Notification.diagnostics pass.notifications
  match pass.result, diagnosticLines console template found with
  | .error f, _ => (w, .error f)
  | .ok _, .error f => (w, .error f)
  | .ok (.failure stage _), .ok err =>
    (w, .ok (.finished 1 []
      (err ++ errorLine ("generation failed during ".toList ++ stage.name))))
  | .ok (.code code), .ok err => deliver console i w code err

def execute (console : Console) (i : Invocation) (template : Text) (w : Workspace) :
    Workspace × Except Failure Outcome :=
  let path := FilePath.ofText template
  match w.settings.checkLogLevel with
  | .error f => (w, .error f)
  | .ok _ =>
    match directives i.directives with
    | .error f => (w, .ok (.finished 2 [] (errorLine f.message)))
    | .ok ds =>
      let a := w.run (requestOf i path ds) i.profile none
      match a.outcome with
      | .ok pass => report console i path.toText a.workspace pass
      | .error f =>
        if f.isConfiguration then
          (a.workspace, .ok (.finished 2 [] (errorLine f.message)))
        else (a.workspace, .error f)

def run (console : Console) (w : Workspace) (argv : List Text) :
    Workspace × Except Failure Outcome :=
  match parse argv with
  | .error problem => (w, .ok (.usage problem))
  | .ok i =>
    match i.template with
    | some template => if i.help then (w, .ok .help) else execute console i template w
    | none => (w, .ok .help)

end TemplateCompiler.CommandLine
