import TemplateCompiler.Failure

/-! The imports of a compile unit: a set of names in the order in which they were first added. A
name is trimmed before it is used, and a blank one is ignored. -/

namespace TemplateCompiler

structure ImportSet where
  names : List Text
deriving DecidableEq, Repr, Inhabited

namespace ImportSet

def empty : ImportSet := ⟨[]⟩

def insert (s : ImportSet) (name : Text) : ImportSet :=
  let n := name.trim
  if n.isEmpty || s.names.contains n then s else ⟨s.names ++ [n]⟩

def insertAll (s : ImportSet) (names : List Text) : ImportSet := names.foldl insert s

def ofList (names : List Text) : ImportSet := empty.insertAll names

/-- The names are given before the set is cleared. A set that is asked for its own names while they
are replaced would find none: this is no call with the names that it had. -/
def replaceAll (_ : ImportSet) (names : List Text) : ImportSet := ofList names

def erase (s : ImportSet) (name : Text) : ImportSet := ⟨s.names.erase name.trim⟩

/-- Membership compares the name as it is, untrimmed. -/
def contains (s : ImportSet) (name : Text) : Bool := s.names.contains name

def size (s : ImportSet) : Nat := s.names.length

def nameOf (v : Value) : Except Failure Text :=
  match v with
  | .text t => .ok t
  | .bytes bs => .ok (Value.trimmedBytes bs)
  | v => if v.truthy then .error (.noOperation v.kindName "strip".toList) else .ok []

/-- Adds names given as values, up to the first that is no name; the rest are not added. -/
def insertValues (s : ImportSet) : List Value → ImportSet × Option Failure
  | [] => (s, none)
  | v :: rest =>
    match nameOf v with
    | .ok name => insertValues (s.insert name) rest
    | .error f => (s, some f)

def replaceValues (_ : ImportSet) (names : List Value) : ImportSet × Option Failure :=
  insertValues empty names

def display (s : ImportSet) : Text :=
  "OrderedImportSet(".toList ++ (Value.list (s.names.map .text)).literal ++ [')']

end ImportSet

end TemplateCompiler
