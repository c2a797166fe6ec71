import TemplateCompiler.Template.Unit
import TemplateCompiler.Text.Case

/-! The settings of the compiler, read from the environment. -/

namespace TemplateCompiler

namespace Text

def trueWords : List Text := ["1".toList, "true".toList, "yes".toList, "on".toList]

/-- A word for true, whatever its case and the blanks around it. Where nothing is said, the
default stands. -/
def flag (default : Bool) (t : Option Text) : Bool :=
  match t with
  | none => default
  | some t =>
    let word := lower t.trim
    if word.isEmpty then default else trueWords.contains word

end Text

abbrev Environment := List (Text × Text)

namespace Environment

def get? (e : Environment) (name : Text) : Option Text := e.lookup name

def put (e : Environment) (name : Text) (value : Option Text) : Environment :=
  let others := e.filter fun entry => entry.1 ≠ name
  match value with
  | some v => others ++ [(name, v)]
  | none => others

/-- The trimmed value of a variable; the default stands for one that is missing or empty. -/
def getTrimmed (e : Environment) (name default : Text) : Text :=
  match e.get? name with
  | some (c :: rest) => Text.trim (c :: rest)
  | _ => default.trim

end Environment

structure Settings where
  env : Text
  defaultNamespace : Text
  defaultEncoding : Text
  host : HostDefaults
  linePragmas : Bool
  profilesFile : Option Text
  logLevel : Text
deriving DecidableEq, Repr

namespace Settings

def default : Settings where
  env := "dev".toList
  defaultNamespace := "ASP".toList
  defaultEncoding := "cp1252".toList
  host := .webPage
  linePragmas := true
  profilesFile := none
  logLevel := "INFO".toList

def profilesFileOf (value : Option Text) : Option Text :=
  let name := (value.getD []).trim
  if name.isEmpty then none else some name

def ofEnvironment (e : Environment) : Settings where
  env := Text.lower (e.getTrimmed "MARKUPGEN_ENV".toList default.env)
  defaultNamespace := e.getTrimmed "MARKUPGEN_DEFAULT_NAMESPACE".toList default.defaultNamespace
  defaultEncoding := e.getTrimmed "MARKUPGEN_DEFAULT_ENCODING".toList default.defaultEncoding
  host := default.host
  linePragmas := Text.flag default.linePragmas (e.get? "MARKUPGEN_LINE_PRAGMAS".toList)
  profilesFile := profilesFileOf (e.get? "MARKUPGEN_PROFILES_FILE".toList)
  logLevel := Text.upper (e.getTrimmed "MARKUPGEN_LOG_LEVEL".toList default.logLevel)

def logLevels : List Text :=
  ["CRITICAL".toList, "FATAL".toList, "ERROR".toList, "WARN".toList, "WARNING".toList,
    "INFO".toList, "DEBUG".toList, "NOTSET".toList]

def checkLogLevel (s : Settings) : Except Failure Unit :=
  if logLevels.contains s.logLevel then .ok () else .error (.unknownLogLevel s.logLevel)

end Settings

end TemplateCompiler
