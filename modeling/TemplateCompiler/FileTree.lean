import TemplateCompiler.Encoding.Source
import TemplateCompiler.FilePath

/-! Files and directories below a working directory. Paths are walked name by name, and a path
that cannot be walked says why. -/

namespace TemplateCompiler

inductive FileNode where
  | file (bytes : List UInt8)
  | directory
deriving DecidableEq, Repr

/-- Files and directories by the names that lead to them from the root, which is called by a single
slash, or from a working directory about whose place nothing is known. -/
structure FileTree where
  nodes : List (List Text × FileNode)
  base : List Text
deriving Repr

/-- Where a path leads: to known names, or to a directory about which nothing is known. -/
inductive FileSpot where
  | known (names : List Text)
  | outside
deriving DecidableEq, Repr

namespace FileTree

def empty : FileTree := ⟨[], []⟩

def rootName : Text := ['/']

def node? (t : FileTree) (names : List Text) : Option FileNode :=
  if names = [] ∨ names = [rootName] then some .directory else t.nodes.lookup names

def put (t : FileTree) (names : List Text) (node : FileNode) : FileTree :=
  { t with nodes := (names, node) :: t.nodes.filter fun entry => entry.1 ≠ names }

def erase (t : FileTree) (names : List Text) : FileTree :=
  { t with nodes := t.nodes.filter fun entry => !names.isPrefixOf entry.1 }

def makeDirectories (t : FileTree) (names : List Text) : FileTree :=
  (List.range names.length).foldl
    (fun t i =>
      let place := names.take (i + 1)
      match t.node? place with
      | some _ => t
      | none => t.put place .directory) t

def nameLimit : Nat := 255

def pathLimit : Nat := 4095

def byteLength (t : Text) : Nat := (t.flatMap Encoding.utf8Bytes).length

def at? (t : FileTree) : FileSpot → Option FileNode
  | .known names => t.node? names
  | .outside => some .directory

/-- One name back. Nothing is above the root, and what is above the working directory is not
known. -/
def stepBack : FileSpot → FileSpot
  | .known [] => .outside
  | .known names => if names = [rootName] then .known names else .known names.dropLast
  | .outside => .outside

def stepInto (t : FileTree) (spot : FileSpot) (name : Text) : Except FileProblem FileSpot :=
  if name = ['.', '.'] then .ok (stepBack spot)
  else if nameLimit < byteLength name then .error .nameTooLong
  else
    match spot with
    | .known names =>
      if (t.node? (names ++ [name])).isSome then .ok (.known (names ++ [name]))
      else .error .missing
    | .outside => .error .missing

def walkFrom (t : FileTree) (spot : FileSpot) : List Text → Except FileProblem FileSpot
  | [] => .ok spot
  | name :: rest =>
    match t.at? spot with
    | some .directory =>
      match t.stepInto spot name with
      | .ok spot => walkFrom t spot rest
      | .error problem => .error problem
    | _ => .error .notDirectory

def startOf (t : FileTree) (path : FilePath) : List Text :=
  if path.root.isEmpty then t.base else [rootName]

def walk (t : FileTree) (path : FilePath) : Except FileProblem FileSpot :=
  if pathLimit < byteLength path.toText then .error .nameTooLong
  else t.walkFrom (.known (t.startOf path)) path.parts

def spelled (t : FileTree) (path : FilePath) : List Text :=
  path.parts.foldl (fun names part =>
    if part ≠ ['.', '.'] then names ++ [part]
    else if names = [rootName] then names
    else names.dropLast) (t.startOf path)

def isByteSurrogate (n : Nat) : Bool := 0xDC80 ≤ n && n < 0xDD00

def checkPath (path : FilePath) : Except Failure Unit :=
  (Failure.checkEncodable .loneSurrogate isByteSurrogate path.toText).bind fun _ =>
    if path.toText.contains '\x00' then .error .nullInPath else .ok ()

def read (t : FileTree) (path : FilePath) : Except Failure (List UInt8) :=
  (checkPath path).bind fun _ =>
    match t.walk path with
    | .error problem => .error (.badFile problem path.toText)
    | .ok spot =>
      match t.at? spot with
      | some (.file bytes) => .ok bytes
      | _ => .error (.badFile .isDirectory path.toText)

def isThere (t : FileTree) (path : FilePath) : Except Failure Bool :=
  match checkPath path, t.walk path with
  | .error _, _ => .ok false
  | .ok _, .ok _ => .ok true
  | .ok _, .error .nameTooLong => .error (.badFile .nameTooLong path.toText)
  | .ok _, .error _ => .ok false

def write (t : FileTree) (path : FilePath) (bytes : List UInt8) : Except Failure FileTree :=
  (checkPath path).bind fun _ =>
    match t.walk path with
    | .ok (.known names) =>
      match t.node? names with
      | some (.file _) => .ok (t.put names (.file bytes))
      | _ => .error (.badFile .isDirectory path.toText)
    | .ok .outside => .error (.badFile .isDirectory path.toText)
    | .error .missing =>
      match t.walk path.parent with
      | .ok (.known names) =>
        match t.node? names with
        | some .directory => .ok (t.put (names ++ [path.name]) (.file bytes))
        | _ => .error (.badFile .notDirectory path.toText)
      | _ => .error (.badFile .missing path.toText)
    | .error problem => .error (.badFile problem path.toText)

/-- Writes a text to a file. One that cannot be encoded leaves the file empty. -/
def writeText (t : FileTree) (path : FilePath) (text : Text) : FileTree × Except Failure Unit :=
  let checked := Failure.checkEncodable .loneSurrogate (fun _ => false) text
  let bytes := if checked.isOk then text.flatMap Encoding.utf8Bytes else []
  match t.write path bytes with
  | .ok files => (files, checked)
  | .error f => (t, .error f)

end FileTree

end TemplateCompiler
