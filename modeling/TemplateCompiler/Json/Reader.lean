import TemplateCompiler.Json.Scalar

/-! Reading a JSON text. Of two entries with the same key the last counts, in the first one's
place. -/

namespace TemplateCompiler.Json

def words : List (Text × Value) :=
  [("null".toList, .null), ("true".toList, .bool true), ("false".toList, .bool false),
    ("NaN".toList, .nan 0), ("Infinity".toList, .float (1.0 / 0.0)),
    ("-Infinity".toList, .float (-1.0 / 0.0))]

def readWord? (t : Text) : Option (Value × Text) :=
  words.findSome? fun w => (Text.afterStart w.1 t).map fun rest => (w.2, rest)

mutual

/-- A value at the start of a text, inside so many lists and mappings, and what follows it. Every
step passes a character, so fuel beyond the length of the text is never used up. -/
def readValue (limits : Limits) : (fuel depth : Nat) → Text → Except Problem (Value × Text)
  | 0, _, _ => .error .malformed
  | fuel + 1, depth, t =>
    match t with
    | '"' :: rest =>
      match readString fuel rest with
      | some (text, rest) => .ok (.text text, rest)
      | none => .error .malformed
    | '[' :: rest =>
      if exceeds limits.depth (depth + 1) then .error .deep
      else
        match skipBlanks rest with
        | ']' :: rest => .ok (.list [], rest)
        | rest =>
          (readItems limits fuel (depth + 1) rest).map fun (items, rest) => (.list items, rest)
    | '\x7b' :: rest =>
      if exceeds limits.depth (depth + 1) then .error .deep
      else
        match skipBlanks rest with
        | '\x7d' :: rest => .ok (.map [], rest)
        | rest =>
          (readEntries limits fuel (depth + 1) [] rest).map fun (entries, rest) =>
            (.map entries, rest)
    | t =>
      match readWord? t with
      | some found => .ok found
      | none => readNumber limits t

def readItems (limits : Limits) : (fuel depth : Nat) → Text →
    Except Problem (List Value × Text)
  | 0, _, _ => .error .malformed
  | fuel + 1, depth, t => do
    let (item, rest) ← readValue limits fuel depth t
    match skipBlanks rest with
    | ']' :: rest => return ([item], rest)
    | ',' :: rest =>
      let (items, rest) ← readItems limits fuel depth (skipBlanks rest)
      return (item :: items, rest)
    | _ => .error .malformed

def readEntries (limits : Limits) : (fuel depth : Nat) → List (Value × Value) → Text →
    Except Problem (List (Value × Value) × Text)
  | 0, _, _, _ => .error .malformed
  | fuel + 1, depth, before, t =>
    match t with
    | '"' :: rest =>
      match readString fuel rest with
      | none => .error .malformed
      | some (key, rest) =>
        match skipBlanks rest with
        | ':' :: rest => do
          let (value, rest) ← readValue limits fuel depth (skipBlanks rest)
          let entries := Value.putEntry (.text key) value before
          match skipBlanks rest with
          | '\x7d' :: rest => return (entries, rest)
          | ',' :: rest => readEntries limits fuel depth entries (skipBlanks rest)
          | _ => .error .malformed
        | _ => .error .malformed
    | _ => .error .malformed

end

def read (limits : Limits) (t : Text) : Except Problem Value := do
  let (value, rest) ← readValue limits (2 * t.length + 2) 0 (skipBlanks t)
  if (skipBlanks rest).isEmpty then return value else .error .malformed

end TemplateCompiler.Json
