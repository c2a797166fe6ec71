import TemplateCompiler.Text.Basic
import TemplateCompiler.Text.Letters

/-! Making the paths in line pragmas relative, so that code does not depend on where the templates
lie. -/

namespace TemplateCompiler.Pragma

structure Parts where
  opening : Text
  path : Text
  closing : Text
deriving DecidableEq, Repr

def Parts.source (p : Parts) : Text := p.opening ++ p.path ++ p.closing

def takePath (t : Text) : Text × Text := (t.takeWhile (· != '"'), t.dropWhile (· != '"'))

def takeDigits (t : Text) : Option (Text × Text) :=
  if (t.takeWhile Text.isDecimal).isEmpty then none
  else some (t.takeWhile Text.isDecimal, t.dropWhile Text.isDecimal)

def lineFirst? (t : Text) : Option Parts := do
  let afterWord ← Text.afterStart "#line ".toList t
  let (number, afterNumber) ← takeDigits afterWord
  let afterQuote ← Text.afterStart " \"".toList afterNumber
  let (path, rest) := takePath afterQuote
  let _ ← rest.head?
  return ⟨"#line ".toList ++ number ++ " \"".toList, path, ['"']⟩

def pathFirst? (t : Text) : Option Parts := do
  let afterQuote ← Text.afterStart "#ExternalSource(\"".toList t
  let (path, rest) := takePath afterQuote
  let afterComma ← Text.afterStart "\",".toList rest
  let (number, afterNumber) ← takeDigits afterComma
  let _ ← Text.afterStart [')'] afterNumber
  return ⟨"#ExternalSource(\"".toList, path, "\",".toList ++ number ++ [')']⟩

def normalPath (path : Text) : Text := Text.replaceChar '\\' '/' path

def normalDirectory (path : Text) : Text := Text.dropEndWhile (· == '/') (normalPath path)

/-- The path below a directory; other paths stay whole, as all do when there is no directory. -/
def relativeTo (directory path : Text) : Text :=
  let p := normalPath path
  if directory.isEmpty then p else (Text.afterStart (directory ++ ['/']) p).getD p

/-- Changes the pragmas that stand at the start of a line. `atStart` says that a line starts here,
and `skip` characters are part of a pragma that was changed. -/
def relativizeFrom (find : Text → Option Parts) (directory : Text) (atStart : Bool) :
    Nat → Text → Text
  | _, [] => []
  | skip + 1, _ :: rest => relativizeFrom find directory false skip rest
  | 0, c :: rest =>
    match if atStart then find (c :: rest) else none with
    | some p => p.opening ++ relativeTo directory p.path ++ p.closing ++
        relativizeFrom find directory false (p.source.length - 1) rest
    | none => c :: relativizeFrom find directory (c == '\n') 0 rest

def relativizeWith (find : Text → Option Parts) (directory t : Text) : Text :=
  relativizeFrom find directory true 0 t

def relativize (directory t : Text) : Text :=
  relativizeWith pathFirst? directory (relativizeWith lineFirst? directory t)

end TemplateCompiler.Pragma
