import TemplateCompiler.Yaml.Graph
import TemplateCompiler.Yaml.Lexer
import TemplateCompiler.Yaml.Timestamp

/-! The graph of nodes in the tokens of a YAML text. An alias stands for the node that its anchor
was put on; an anchor is put on one node only. -/

namespace TemplateCompiler.Yaml

namespace Node

def empty : Node := ⟨.null, .scalar []⟩

/-- The exclamation mark alone asks for the kind that the text looks like. -/
def ofScalar (tag : Option Text) (text : Text) (plain : Bool) : Node :=
  match tag with
  | none => ⟨if plain then tagOfPlain text else .text, .scalar text⟩
  | some name => ⟨if name = ['!'] then tagOfPlain text else .ofName name, .scalar text⟩

def collectionTag (standard : Tag) (tag : Option Text) : Tag :=
  match tag with
  | none => standard
  | some name => if name = ['!'] then standard else .ofName name

end Node

abbrev Handles := List (Text × Text)

structure Reading where
  tokens : List Token
  anchors : List (Text × Nat)
  graph : Graph
  depth : Nat

namespace Reading

def depthLimit : Nat := 485

def enter (r : Reading) : Reading := { r with tokens := r.tokens.tail, depth := r.depth + 1 }

def rest (r : Reading) : Reading := { r with tokens := r.tokens.tail }

def next (r : Reading) : Option Token := r.tokens.head?

def atAny (r : Reading) (tokens : List Token) : Bool := r.next.any tokens.contains

def fail {α : Type} (r : Reading) : Except ReadError α :=
  match r.next.bind Token.beyond? with
  | some n => .error (.unusable (.noCharacter n))
  | none => .error .malformed

def orFail {α : Type} (r : Reading) (found : Option α) : Except ReadError α :=
  match found with
  | some a => .ok a
  | none => r.fail

def push (r : Reading) (node : Node) : Nat × Reading :=
  (r.graph.size, { r with graph := r.graph.push node })

def put (r : Reading) (id : Nat) (node : Node) : Reading :=
  { r with graph := r.graph.put id node }

def declare (r : Reading) (anchor : Option Text) : Except ReadError Reading :=
  match anchor with
  | none => .ok r
  | some name =>
    if (r.anchors.lookup name).isSome then r.fail
    else .ok { r with anchors := (name, r.graph.size) :: r.anchors }

end Reading

def tagName (handles : Handles) (handle : Option Text) (suffix : Text) : Option Text :=
  match handle with
  | none => some suffix
  | some h => (handles.lookup h).map (· ++ suffix)

/-- An anchor and a tag, in either order, before a node. A tag that stands first is looked up once
it is known what follows. -/
def takeProperties (handles : Handles) (r : Reading) :
    Except ReadError (Option Text × Option Text × Reading) :=
  match r.tokens with
  | .anchor name :: .tag handle suffix :: tokens =>
    (r.orFail (tagName handles handle suffix)).map fun tag =>
      (some name, some tag, { r with tokens := tokens })
  | .tag handle suffix :: .anchor name :: tokens =>
    (r.orFail (tagName handles handle suffix)).map fun tag =>
      (some name, some tag, { r with tokens := tokens })
  | .anchor name :: tokens => .ok (some name, none, { r with tokens := tokens })
  | .tag handle suffix :: tokens =>
    let r := { r with tokens := tokens }
    (r.orFail (tagName handles handle suffix)).map fun tag => (none, some tag, r)
  | _ => .ok (none, none, r)

inductive NodePlace where
  | flow
  | block
  | entry
deriving DecidableEq, Repr

mutual

/-- A node, by its number. Every second step at least passes a token, so fuel beyond a multiple of
the number of tokens is never used up. -/
def readNode (handles : Handles) (place : NodePlace) :
    (fuel : Nat) → Reading → Except ReadError (Nat × Reading)
  | 0, r => r.fail
  | fuel + 1, r =>
    if Reading.depthLimit < r.depth then .error (.unusable .tooDeep)
    else match r.tokens with
    | .alias name :: tokens =>
      (r.orFail (r.anchors.lookup name)).map fun id => (id, { r with tokens := tokens })
    | _ => do
      let (anchor, tag, r) ← takeProperties handles r
      let (id, r) := (← r.declare anchor).push .empty
      let (node, r) ← readContent handles place (anchor.isSome || tag.isSome) tag fuel r
      return (id, r.put id node)

def readContent (handles : Handles) (place : NodePlace) (mayBeEmpty : Bool) (tag : Option Text) :
    (fuel : Nat) → Reading → Except ReadError (Node × Reading)
  | 0, r => r.fail
  | fuel + 1, r =>
    let depth := r.depth
    let list (found : Except ReadError (List Nat × Reading)) :
        Except ReadError (Node × Reading) :=
      found.map fun (items, after) =>
        (⟨Node.collectionTag .list tag, .list items⟩, { after with depth := depth })
    let map (found : Except ReadError (List (Nat × Nat) × Reading)) :
        Except ReadError (Node × Reading) :=
      found.map fun (entries, after) =>
        (⟨Node.collectionTag .map tag, .map entries⟩, { after with depth := depth })
    let empty : Except ReadError (Node × Reading) :=
      if mayBeEmpty then .ok (.ofScalar tag [] true, r) else r.fail
    match r.next with
    | some .blockEntry =>
      if place = .entry then list (readOpenItems handles fuel { r with depth := depth + 1 })
      else empty
    | some (.scalar text plain) => .ok (.ofScalar tag text plain, r.rest)
    | some (.beyond _) => r.fail
    | some .flowSequenceStart => list (readFlowItems handles true fuel r.enter)
    | some .flowMappingStart => map (readFlowEntries handles true fuel r.enter)
    | some .blockSequenceStart =>
      if place = .flow then empty else list (readBlockItems handles fuel r.enter)
    | some .blockMappingStart =>
      if place = .flow then empty else map (readBlockEntries handles fuel r.enter)
    | _ => empty

def readUnless (handles : Handles) (place : NodePlace) (ends : List Token) :
    (fuel : Nat) → Reading → Except ReadError (Nat × Reading)
  | 0, r => r.fail
  | fuel + 1, r =>
    if r.atAny ends then .ok (r.push .empty) else readNode handles place fuel r

def readEntryValue (handles : Handles) (place : NodePlace) (ends : List Token) :
    (fuel : Nat) → Reading → Except ReadError (Nat × Reading)
  | 0, r => r.fail
  | fuel + 1, r =>
    if r.next = some .value then readUnless handles place ends fuel r.rest
    else .ok (r.push .empty)

def readBlockItems (handles : Handles) :
    (fuel : Nat) → Reading → Except ReadError (List Nat × Reading)
  | 0, r => r.fail
  | fuel + 1, r =>
    match r.next with
    | some .blockEntry => do
      let (item, r) ← readUnless handles .block [.blockEntry, .blockEnd] fuel r.rest
      let (items, r) ← readBlockItems handles fuel r
      return (item :: items, r)
    | some .blockEnd => .ok ([], r.rest)
    | _ => r.fail

def readOpenItems (handles : Handles) :
    (fuel : Nat) → Reading → Except ReadError (List Nat × Reading)
  | 0, r => r.fail
  | fuel + 1, r =>
    if r.next = some .blockEntry then do
      let (item, r) ←
        readUnless handles .block [.blockEntry, .key, .value, .blockEnd] fuel r.rest
      let (items, r) ← readOpenItems handles fuel r
      return (item :: items, r)
    else .ok ([], r)

def readBlockEntries (handles : Handles) :
    (fuel : Nat) → Reading → Except ReadError (List (Nat × Nat) × Reading)
  | 0, r => r.fail
  | fuel + 1, r =>
    match r.next with
    | some .key => do
      let ends := [Token.key, .value, .blockEnd]
      let (key, r) ← readUnless handles .entry ends fuel r.rest
      let (value, r) ← readEntryValue handles .entry ends fuel r
      let (entries, r) ← readBlockEntries handles fuel r
      return ((key, value) :: entries, r)
    | some .blockEnd => .ok ([], r.rest)
    | _ => r.fail

def readFlowItems (handles : Handles) (first : Bool) :
    (fuel : Nat) → Reading → Except ReadError (List Nat × Reading)
  | 0, r => r.fail
  | fuel + 1, r =>
    if r.next = some .flowSequenceEnd then .ok ([], r.rest)
    else if !first && r.next ≠ some .flowEntry then r.fail
    else
      let r := if first then r else r.rest
      match r.next with
      | some .flowSequenceEnd => .ok ([], r.rest)
      | some .key => do
        let (id, r) := r.rest.push .empty
        let (key, r) ← readUnless handles .flow [.value, .flowEntry, .flowSequenceEnd] fuel r
        let (value, r) ← readEntryValue handles .flow [.flowEntry, .flowSequenceEnd] fuel r
        let (items, r) ← readFlowItems handles false fuel (r.put id ⟨.map, .map [(key, value)]⟩)
        return (id :: items, r)
      | _ => do
        let (item, r) ← readNode handles .flow fuel r
        let (items, r) ← readFlowItems handles false fuel r
        return (item :: items, r)

def readFlowEntries (handles : Handles) (first : Bool) :
    (fuel : Nat) → Reading → Except ReadError (List (Nat × Nat) × Reading)
  | 0, r => r.fail
  | fuel + 1, r =>
    if r.next = some .flowMappingEnd then .ok ([], r.rest)
    else if !first && r.next ≠ some .flowEntry then r.fail
    else
      let r := if first then r else r.rest
      match r.next with
      | some .flowMappingEnd => .ok ([], r.rest)
      | some .key => do
        let (key, r) ←
          readUnless handles .flow [.value, .flowEntry, .flowMappingEnd] fuel r.rest
        let (value, r) ← readEntryValue handles .flow [.flowEntry, .flowMappingEnd] fuel r
        let (entries, r) ← readFlowEntries handles false fuel r
        return ((key, value) :: entries, r)
      | _ => do
        let (key, r) ← readNode handles .flow fuel r
        let (value, r) := r.push .empty
        let (entries, r) ← readFlowEntries handles false fuel r
        return ((key, value) :: entries, r)

end

def standardHandles : Handles :=
  [(['!'], ['!']), (['!', '!'], Tag.standardStart)]

/-- The directives before a document: no handle and no version twice, and only version one. -/
def readDirectives : (versionGiven : Bool) → Handles → List Token → Option (Handles × List Token)
  | versionGiven, handles, .version major :: rest =>
    if versionGiven || major ≠ 1 then none else readDirectives true handles rest
  | versionGiven, handles, .handle name start :: rest =>
    if (handles.lookup name).isSome then none
    else readDirectives versionGiven ((name, start) :: handles) rest
  | versionGiven, handles, .otherDirective :: rest => readDirectives versionGiven handles rest
  | _, handles, tokens => some (handles ++ standardHandles, tokens)

/-- Nothing is left after a document, but for the markers of its end. Directives that are left are
read before what is left is refused. -/
def finish (tokens : List Token) : Except ReadError Unit :=
  match tokens.dropWhile (· == .documentEnd) with
  | [] => .ok ()
  | rest =>
    match readDirectives false [] rest with
    | some (_, rest) => Reading.fail ⟨rest, [], .empty, 0⟩
    | none => .error .malformed

def isDirective : Token → Bool
  | .version _ => true
  | .handle .. => true
  | .otherDirective => true
  | _ => false

def isBetween (t : Token) : Bool := isDirective t || t == .documentStart || t == .documentEnd

def emptyDocument : Nat × Graph := (0, Graph.empty.push .empty)

def readBody (handles : Handles) (tokens : List Token) : Except ReadError (Nat × Graph) := do
  let (id, r) ← readNode handles .block (4 * tokens.length + 8) ⟨tokens, [], .empty, 0⟩
  finish r.tokens
  return (id, r.graph)

def readDocument (tokens : List Token) : Except ReadError (Nat × Graph) :=
  match tokens with
  | [] => .ok emptyDocument
  | first :: _ =>
    if isDirective first || first == .documentStart then
      match readDirectives false [] tokens with
      | none => .error .malformed
      | some (handles, .documentStart :: rest) =>
        if rest.head?.all isBetween then (finish rest).map fun _ => emptyDocument
        else readBody handles rest
      | some (_, rest) => Reading.fail ⟨rest, [], .empty, 0⟩
    else readBody standardHandles tokens

def readNodes (t : Text) : Except ReadError (Nat × Graph) :=
  match tokens? t with
  | some tokens => readDocument tokens
  | none => .error .malformed

end TemplateCompiler.Yaml
