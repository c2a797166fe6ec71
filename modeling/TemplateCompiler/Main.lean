import TemplateCompiler.CommandLine

/-! The program: it reads the files and the environment that the command line names, and prints
what it answers. -/

namespace TemplateCompiler

def variableNames : List String :=
  ["MARKUPGEN_ENV", "MARKUPGEN_DEFAULT_NAMESPACE", "MARKUPGEN_DEFAULT_ENCODING",
    "MARKUPGEN_LINE_PRAGMAS", "MARKUPGEN_PROFILES_FILE", "MARKUPGEN_LOG_LEVEL"]

def readEnvironment : IO Environment :=
  variableNames.foldlM (fun e name => do
    return e.put name.toList ((← IO.getEnv name).map String.toList)) []

def addPlace (files : FileTree) (path : FilePath) : IO FileTree := do
  try
    let place ← IO.FS.realPath (String.ofList path.toText)
    if ← place.isDir then return files.makeDirectories (files.spelled path)
    else
      let bytes ← IO.FS.readBinFile place
      return files.put (files.spelled path) (.file bytes.toList)
  catch _ => return files

def addPath (files : FileTree) (name : Text) : IO FileTree :=
  let path := FilePath.ofText name
  (List.range (path.parts.length + 1)).foldlM
    (fun files n => addPlace files ⟨path.root, path.parts.take n⟩) files

/-- Everything along the paths that a command line may read from or write to. -/
def readFiles (settings : Settings) (argv : List Text) : IO FileTree := do
  let place := FilePath.ofText (← IO.currentDir).toString.toList
  let base := FileTree.empty.spelled place
  let names := match CommandLine.parse argv with
    | .ok i => i.template.toList ++ i.output.toList
    | .error _ => []
  (names ++ settings.profilesFile.toList).foldlM addPath
    ({ FileTree.empty with base := base }.makeDirectories base)

def writeOutput (files : FileTree) (output : Option Text) : IO Unit := do
  match output with
  | none => return
  | some name =>
    match files.read (.ofText name) with
    | .ok bytes => IO.FS.writeBinFile (String.ofList name) ⟨bytes.toArray⟩
    | .error _ => return

def usage : Text :=
  "usage: template-compiler template [--relative-path PATH] [--language NAME] ".toList ++
    "[--profile NAME] [-D KEY=VALUE] [--output FILE]\n".toList

def finish (w : Workspace) (output : Option Text) (outcome : Except Failure CommandLine.Outcome) :
    IO UInt32 := do
  match outcome with
  | .error f =>
    IO.eprint (String.ofList (f.report ++ ['\n']))
    return 1
  | .ok .help =>
    IO.print (String.ofList usage)
    return 0
  | .ok (.usage problem) =>
    IO.eprint (String.ofList (usage ++ "error: ".toList ++ problem.message ++ ['\n']))
    return 2
  | .ok (.finished code out err) =>
    IO.eprint (String.ofList err)
    IO.print (String.ofList out)
    if code = 0 then writeOutput w.files output
    return code.toUInt32

/-- A console that takes what has a form in UTF-8. -/
def console : CommandLine.Console where
  describe := Failure.report
  takes := Failure.checkEncodable .loneSurrogate fun _ => false

end TemplateCompiler

open TemplateCompiler in
def main (args : List String) : IO UInt32 := do
  let argv := args.map String.toList
  let environment ← readEnvironment
  let files ← readFiles (.ofEnvironment environment) argv
  let output := match CommandLine.parse argv with
    | .ok i => i.output
    | .error _ => none
  let w := { Workspace.empty with files := files, environment := environment }
  let (w, outcome) := CommandLine.run console w argv
  finish w output outcome
