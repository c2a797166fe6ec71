import TemplateCompiler.FileTree
import TemplateCompiler.Pass
import TemplateCompiler.Settings

/-! A generator is set up once for a request and runs any number of passes. An unknown language or
encoding is found when it is set up. -/

namespace TemplateCompiler

/-- What is asked for: a template, the path that its type is named after, a language, and
directives. -/
structure Request where
  sourcePath : Text
  relativePath : Text
  language : Option Text
  directives : Directives
deriving DecidableEq, Repr

inductive Source where
  | inline (text : Text)
  | file (codecs : Encoding.Codecs) (encoding : Text)

namespace Source

def file? (codecs : Encoding.Codecs) (encoding : Text) : Except Failure Source :=
  (Encoding.checkName codecs encoding).map fun _ => .file codecs encoding

def readFile (codecs : Encoding.Codecs) (files : FileTree) (encoding path : Text) :
    Except Failure Text :=
  (files.read (.ofText path)).bind (Encoding.decodeSource codecs encoding)

def read (s : Source) (files : FileTree) (path : Text) : Except Failure Text :=
  match s with
  | .inline text => .ok text
  | .file codecs encoding => readFile codecs files encoding path

end Source

structure Generator where
  request : Request
  settings : Settings
  language : Language
  source : Source

namespace Generator

def create (codecs : Encoding.Codecs) (settings : Settings) (request : Request)
    (inline : Option Text) : Except Failure Generator :=
  (Language.choose request.language request.sourcePath).bind fun language =>
    match inline with
    | some text => .ok ⟨request, settings, language, .inline text⟩
    | none =>
      (Source.file? codecs settings.defaultEncoding).map (⟨request, settings, language, ·⟩)

def defaultClassName (g : Generator) : Text := typeName g.request.relativePath

def context (g : Generator) : Context where
  directives := g.request.directives
  language := g.language
  relativePath := g.request.relativePath
  namespaceName := g.settings.defaultNamespace
  className := g.defaultClassName
  linePragmas := g.settings.linePragmas

def parse (g : Generator) (names : UnitNames) (t : Text) :
    Except Failure (CompileUnit × List Diagnostic) :=
  .ok (Template.compileUnit g.settings.host names t, Template.diagnostics t)

def collaborators (g : Generator) (files : FileTree) : Collaborators where
  read := g.source.read files g.request.sourcePath
  parse := g.parse
  render := g.language.render

def runWith {τ ν : Type} (g : Generator) (h : Hooks τ ν) (k : Collaborators) (t : τ) :
    PassRun τ ν :=
  Pass.run h k g.request.sourcePath g.context t

def run {τ ν : Type} (g : Generator) (h : Hooks τ ν) (files : FileTree) (t : τ) : PassRun τ ν :=
  g.runWith h (g.collaborators files) t

end Generator

end TemplateCompiler
