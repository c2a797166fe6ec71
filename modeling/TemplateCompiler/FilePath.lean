import TemplateCompiler.Text.Basic

/-! Paths with slashes: a root and the names below it. Empty names and single periods are
dropped, so each path has one normal form. -/

namespace TemplateCompiler

structure FilePath where
  root : Text
  parts : List Text
deriving DecidableEq, Repr

namespace FilePath

def isSlash (c : Char) : Bool := c == '/'

/-- Exactly two leading slashes are a root of their own; three are one. -/
def rootOf (t : Text) : Text :=
  match (t.takeWhile isSlash).length with
  | 0 => []
  | 2 => ['/', '/']
  | _ => ['/']

def ofText (t : Text) : FilePath where
  root := rootOf t
  parts := (Text.splitOn isSlash t).filter fun part => part != [] && part != ['.']

def toText (p : FilePath) : Text :=
  if p.root.isEmpty && p.parts.isEmpty then ['.']
  else p.root ++ Text.joinWith ['/'] p.parts

def name (p : FilePath) : Text := p.parts.getLast?.getD []

/-- The part of a name from its last period on. A period at either end of the name begins none. -/
def suffixOf (name : Text) : Text :=
  let back := name.reverse.takeWhile (· != '.')
  if back.isEmpty ∨ name.length ≤ back.length + 1 then [] else '.' :: back.reverse

def suffix (p : FilePath) : Text := suffixOf p.name

def parent (p : FilePath) : FilePath := ⟨p.root, p.parts.dropLast⟩

end FilePath

end TemplateCompiler
