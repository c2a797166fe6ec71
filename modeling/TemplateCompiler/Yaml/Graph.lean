import TemplateCompiler.Failure
import TemplateCompiler.Yaml.Tag

/-! The nodes of a YAML document by number. A node may be in several others, and inside itself.
Entries under the merge key are taken over from other mappings before a mapping is used. -/

namespace TemplateCompiler.Yaml

/-- Why a text has no value: it is no YAML document of known kinds, or a scalar is not what its
kind says. -/
inductive ReadError where
  | malformed
  | unusable (cause : Failure)
deriving DecidableEq

inductive Content where
  | scalar (text : Text)
  | list (items : List Nat)
  | map (entries : List (Nat × Nat))
deriving Inhabited, DecidableEq, Repr

structure Node where
  tag : Tag
  content : Content
deriving DecidableEq, Repr

instance : Inhabited Node := ⟨⟨.null, .scalar []⟩⟩

abbrev Entries := List (Nat × Nat)

structure Graph where
  nodes : Array Node
deriving DecidableEq, Repr

namespace Graph

def empty : Graph := ⟨#[]⟩

def size (g : Graph) : Nat := g.nodes.size

def get (g : Graph) (id : Nat) : Node := g.nodes.getD id default

def push (g : Graph) (node : Node) : Graph := ⟨g.nodes.push node⟩

def put (g : Graph) (id : Nat) (node : Node) : Graph := ⟨g.nodes.setIfInBounds id node⟩

def entries (g : Graph) (id : Nat) : Entries :=
  match (g.get id).content with
  | .map entries => entries
  | _ => []

def isMap (g : Graph) (id : Nat) : Bool :=
  match (g.get id).content with
  | .map _ => true
  | _ => false

def setEntries (g : Graph) (id : Nat) (entries : Entries) : Graph :=
  g.put id { g.get id with content := .map entries }

def setTag (g : Graph) (id : Nat) (tag : Tag) : Graph := g.put id { g.get id with tag := tag }

def entryCount (g : Graph) : Nat :=
  (List.range g.size).foldl (fun count id => count + (g.entries id).length) 0

def mergeItems (merge : Graph → Nat → Except ReadError Graph) (g : Graph) :
    List Nat → Except ReadError (Graph × List Entries)
  | [] => .ok (g, [])
  | item :: rest =>
    if g.isMap item then do
      let g ← merge g item
      let (after, groups) ← mergeItems merge g rest
      return (after, g.entries item :: groups)
    else .error .malformed

/-- The entries that are taken over from a mapping, or from the mappings of a list, the first of
which comes last so that it counts most. -/
def mergeValue (merge : Graph → Nat → Except ReadError Graph) (g : Graph) (id : Nat) :
    Except ReadError (Graph × Entries) :=
  match (g.get id).content with
  | .map _ => (merge g id).map fun g => (g, g.entries id)
  | .list items =>
    (mergeItems merge g items).map fun (g, groups) => (g, groups.reverse.flatten)
  | .scalar _ => .error .malformed

/-- Goes through the entries of a mapping from an index on. Merge keys are dropped, what they take
over comes before all other entries, and the key that stands for a value becomes a text. -/
def mergeFrom (merge : Graph → Nat → Except ReadError Graph) (id : Nat) :
    (steps index : Nat) → (taken : Entries) → Graph → Except ReadError Graph
  | 0, _, taken, g => .ok (g.setEntries id (taken ++ g.entries id))
  | steps + 1, index, taken, g =>
    match (g.entries id)[index]? with
    | none => .ok (g.setEntries id (taken ++ g.entries id))
    | some (key, value) =>
      if (g.get key).tag = .merge then do
        let g := g.setEntries id ((g.entries id).eraseIdx index)
        let (g, more) ← mergeValue merge g value
        mergeFrom merge id steps index (taken ++ more) g
      else if (g.get key).tag = .defaultValue then
        mergeFrom merge id steps (index + 1) taken (g.setTag key .text)
      else mergeFrom merge id steps (index + 1) taken g

def isSettled (g : Graph) (id : Nat) : Bool :=
  (g.entries id).all fun e => (g.get e.1).tag ≠ .merge && (g.get e.1).tag ≠ .defaultValue

/-- Carries out the merge keys of a mapping, and of those that it takes over. Mappings take one
another over to no greater depth than there are nodes. -/
def merge : (depth : Nat) → Graph → Nat → Except ReadError Graph
  | 0, _, _ => .error .malformed
  | depth + 1, g, id =>
    if g.isSettled id then .ok g
    else mergeFrom (merge depth) id (g.entryCount + 1) 0 [] g

def scalarText (g : Graph) : (depth : Nat) → Nat → Except ReadError Text
  | 0, _ => .error .malformed
  | depth + 1, id =>
    match (g.get id).content with
    | .scalar t => .ok t
    | .list _ => .error .malformed
    | .map entries =>
      match entries.find? fun e => (g.get e.1).tag = .defaultValue with
      | some (_, value) => scalarText g depth value
      | none => .error .malformed

end Graph

end TemplateCompiler.Yaml
