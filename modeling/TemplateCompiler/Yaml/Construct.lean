import TemplateCompiler.Encoding.Base64
import TemplateCompiler.SlotOrder
import TemplateCompiler.Yaml.Node
import TemplateCompiler.Yaml.Number

/-! The values of YAML nodes. A collection is made empty and filled later, when those made before
it have been filled; which of two mistakes is reported hangs on this order. -/

namespace TemplateCompiler.Yaml

def usable {α : Type} : Except Failure α → Except ReadError α
  | .ok a => .ok a
  | .error f => .error (.unusable f)

def readBool (t : Text) : Except Failure Bool :=
  let word := Text.lower t
  if trueWords.contains word then .ok true
  else if falseWords.contains word then .ok false
  else .error (.other "KeyError".toList word)

def readMoment (t : Text) : Except Failure Moment :=
  match takeMoment (withoutLineEnd t) with
  | none => .error (.noOperation "NoneType".toList "groupdict".toList)
  | some (m, _) =>
    match m.problem? with
    | some problem => .error (.outOfRange problem)
    | none => .ok m

def readBytes (t : Text) : Except ReadError Value :=
  match Encoding.base64? t with
  | some bytes => .ok (.bytes bytes)
  | none => .error .malformed

def textValue (mark : Nat) (tag : Tag) (t : Text) : Except ReadError Value :=
  match tag with
  | .null => .ok .null
  | .bool => usable ((readBool t).map .bool)
  | .int => usable ((readInt t).map .int)
  | .float => usable (readFloat mark t)
  | .text => .ok (.text t)
  | .binary => readBytes t
  | .timestamp => usable ((readMoment t).map .moment)
  | _ => .error .malformed

def isScalar : Tag → Bool
  | .null => true
  | .bool => true
  | .int => true
  | .float => true
  | .text => true
  | .binary => true
  | .timestamp => true
  | _ => false

def scalarValue (g : Graph) (id : Nat) : Except ReadError Value :=
  let tag := (g.get id).tag
  if !isScalar tag then .error .malformed
  else
    match g.scalarText (g.size + 1) id with
    | .error e => .error e
    | .ok t =>
      if tag = .timestamp ∧ g.isMap id then .error (.unusable .misfitArguments)
      else textValue id tag t

inductive Part where
  | value (v : Value)
  | node (id : Nat)

inductive Filling where
  | list (items : List Part)
  | pairs (entries : List (Part × Part))
  | set (keys : List Value)
  | map (entries : List (Value × Part))

structure Construction where
  graph : Graph
  made : Array Bool
  waiting : List Nat
  later : List Nat
  filled : Array (Option Filling)

namespace Construction

def ofGraph (g : Graph) : Construction :=
  ⟨g, Array.replicate g.size false, [], [], Array.replicate g.size none⟩

def isCollection : Tag → Bool
  | .list => true
  | .pairs => true
  | .map => true
  | .set => true
  | _ => false

def make (c : Construction) (id : Nat) : Except ReadError (Part × Construction) :=
  if isCollection (c.graph.get id).tag then
    if c.made.getD id false then .ok (.node id, c)
    else .ok (.node id, { c with made := c.made.setIfInBounds id true, later := id :: c.later })
  else (scalarValue c.graph id).map fun v => (.value v, c)

def makeAll (c : Construction) : List Nat → Except ReadError (List Part × Construction)
  | [] => .ok ([], c)
  | id :: rest => do
    let (part, c) ← c.make id
    let (parts, c) ← makeAll c rest
    return (part :: parts, c)

def makeKey (c : Construction) (id : Nat) : Except ReadError (Value × Construction) :=
  (c.make id).bind fun (part, c) =>
    match part with
    | .value v => .ok (v, c)
    | .node _ => .error .malformed

def putPart (key : Value) (part : Part) : List (Value × Part) → List (Value × Part)
  | [] => [(key, part)]
  | (k, p) :: rest =>
    if k.same key then (k, part) :: rest else (k, p) :: putPart key part rest

def makeEntries (c : Construction) (before : List (Value × Part)) :
    Entries → Except ReadError (List (Value × Part) × Construction)
  | [] => .ok (before, c)
  | (key, value) :: rest => do
    let (k, c) ← c.makeKey key
    let (part, c) ← c.make value
    makeEntries c (putPart k part before) rest

def makePairs (c : Construction) :
    List Nat → Except ReadError (List (Part × Part) × Construction)
  | [] => .ok ([], c)
  | item :: rest =>
    match (c.graph.get item).content with
    | .map [(key, value)] => do
      let (k, c) ← c.make key
      let (v, c) ← c.make value
      let (pairs, c) ← makePairs c rest
      return ((k, v) :: pairs, c)
    | _ => .error .malformed

def fillMapping (c : Construction) (id : Nat) (filling : List (Value × Part) → Filling) :
    Except ReadError (Filling × Construction) :=
  match (c.graph.get id).content with
  | .map _ => do
    let graph ← c.graph.merge (c.graph.size + 1) id
    let (entries, c) ← { c with graph := graph }.makeEntries [] (graph.entries id)
    return (filling entries, c)
  | _ => .error .malformed

def filling (c : Construction) (id : Nat) : Except ReadError (Filling × Construction) :=
  match (c.graph.get id).tag, (c.graph.get id).content with
  | .list, .list items => (c.makeAll items).map fun (parts, c) => (.list parts, c)
  | .pairs, .list items => (c.makePairs items).map fun (pairs, c) => (.pairs pairs, c)
  | .map, _ => c.fillMapping id .map
  | .set, _ => c.fillMapping id fun entries => .set (SlotOrder.order (entries.map Prod.fst))
  | _, _ => .error .malformed

/-- Fills all collections. Each is filled once, so fuel beyond the number of nodes, counted twice
for the turns between them, is never used up. -/
def run : (fuel : Nat) → Construction → Except ReadError Construction
  | 0, c => .ok c
  | fuel + 1, c =>
    match c.waiting with
    | [] => if c.later.isEmpty then .ok c
      else run fuel { c with waiting := c.later.reverse, later := [] }
    | id :: waiting => do
      let (filling, c) ← { c with waiting := waiting }.filling id
      run fuel { c with filled := c.filled.setIfInBounds id (some filling) }

def closed (id : Nat) (v : Value) : Value := if v.mentions id then .loop id v else v

/-- A value, and whether no place in it stands for a loop. -/
structure Outcome where
  value : Value
  plain : Bool

/-- The values without loops that have been found, by their nodes. Such a value is the same
wherever its node stands, so none is found twice. -/
abbrev Found := Array (Option Value)

def note (id : Nat) (v : Value) (plain : Bool) : StateM Found Outcome := do
  if plain then
    modify fun found => found.setIfInBounds id (some v)
    return ⟨v, true⟩
  else return ⟨closed id v, false⟩

/-- The value of a part inside the collections `around` it, of which there are no more than
nodes. -/
def valueOf (filled : Array (Option Filling)) :
    (depth : Nat) → (around : List Nat) → Part → StateM Found Outcome
  | _, _, .value v => return ⟨v, true⟩
  | 0, _, .node _ => return ⟨.null, true⟩
  | depth + 1, around, .node id => do
    let inside := valueOf filled depth (id :: around)
    match (← get).getD id none with
    | some v => return ⟨v, true⟩
    | none =>
      match filled.getD id none with
      | none => return ⟨.null, true⟩
      | some (.list items) =>
        if around.contains id then return ⟨.back id true, false⟩
        let items ← items.mapM inside
        note id (.list (items.map Outcome.value)) (items.all Outcome.plain)
      | some (.pairs entries) =>
        if around.contains id then return ⟨.back id true, false⟩
        let keys ← entries.mapM fun e => inside e.1
        let values ← entries.mapM fun e => inside e.2
        note id (.list ((keys.zip values).map fun e => .pair e.1.value e.2.value))
          (keys.all Outcome.plain && values.all Outcome.plain)
      | some (.set keys) => return ⟨.set keys, true⟩
      | some (.map entries) =>
        if around.contains id then return ⟨.back id false, false⟩
        let values ← entries.mapM fun e => inside e.2
        note id (.map ((entries.zip values).map fun e => (e.1.1, e.2.value)))
          (values.all Outcome.plain)

def wholeValue (c : Construction) (part : Part) : Value :=
  let found : Found := Array.replicate c.graph.size none
  let (outcome, _) := (valueOf c.filled (c.graph.size + 1) [] part).run found
  outcome.value

end Construction

def construct (root : Nat) (g : Graph) : Except ReadError Value := do
  let (part, c) ← (Construction.ofGraph g).make root
  let c ← c.run (2 * g.size + 2)
  return c.wholeValue part

def isAllowed (c : Char) : Bool :=
  let n := c.toNat
  n == 9 || n == 10 || n == 13 || (0x20 ≤ n && n ≤ 0x7E) || n == 0x85 ||
    (0xA0 ≤ n && n ≤ 0xFFFD) || 0x10000 ≤ n

def plainLineEnds : Text → Text
  | [] => []
  | '\r' :: '\n' :: rest => '\n' :: plainLineEnds rest
  | '\r' :: rest => '\n' :: plainLineEnds rest
  | c :: rest => c :: plainLineEnds rest

def read (t : Text) : Except ReadError Value :=
  let t := plainLineEnds t
  if !t.all isAllowed then .error .malformed
  else (readNodes t).bind fun (root, g) => construct root g

end TemplateCompiler.Yaml
