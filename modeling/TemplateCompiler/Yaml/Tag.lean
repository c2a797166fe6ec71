import TemplateCompiler.Text.Basic

/-! The kinds of YAML nodes. A plain scalar that names none has the kind that its text looks
like. -/

namespace TemplateCompiler.Yaml

inductive Tag where
  | null
  | bool
  | int
  | float
  | text
  | timestamp
  /-- The key that takes over the entries of other mappings. -/
  | merge
  /-- The key that stands for the value of a mapping. -/
  | defaultValue
  | binary
  | list
  | pairs
  | map
  | set
  | other (name : Text)
deriving DecidableEq, Repr

namespace Tag

def standardStart : Text := "tag:yaml.org,2002:".toList

/-- The kind of a sign that is kept for YAML itself; nothing can be of it. -/
def reserved : Tag := .other (standardStart ++ "yaml".toList)

def standard : List (Text × Tag) :=
  [("null".toList, .null), ("bool".toList, .bool), ("int".toList, .int),
    ("float".toList, .float), ("str".toList, .text), ("timestamp".toList, .timestamp),
    ("merge".toList, .merge), ("value".toList, .defaultValue), ("seq".toList, .list),
    ("map".toList, .map), ("set".toList, .set), ("binary".toList, .binary),
    ("pairs".toList, .pairs), ("omap".toList, .pairs)]

def ofName (name : Text) : Tag :=
  match (Text.afterStart standardStart name).bind fun short => standard.lookup short with
  | some tag => tag
  | none => .other name

end Tag

def trueWords : List Text :=
  ["yes".toList, "Yes".toList, "YES".toList, "true".toList, "True".toList, "TRUE".toList,
    "on".toList, "On".toList, "ON".toList]

def falseWords : List Text :=
  ["no".toList, "No".toList, "NO".toList, "false".toList, "False".toList, "FALSE".toList,
    "off".toList, "Off".toList, "OFF".toList]

def nullWords : List Text := [[], ['~'], "null".toList, "Null".toList, "NULL".toList]

def infinityWords : List Text := [".inf".toList, ".Inf".toList, ".INF".toList]

def nanWords : List Text := [".nan".toList, ".NaN".toList, ".NAN".toList]

def isDigitOrGap (c : Char) : Bool := c.isDigit || c == '_'

def unsigned (t : Text) : Text :=
  match t with
  | c :: rest => if c = '+' ∨ c = '-' then rest else t
  | [] => []

def isSixties (t : Text) : Bool :=
  match Text.splitOn (· == ':') t with
  | [] :: groups => !groups.isEmpty && groups.all fun
    | [a] => a.isDigit
    | [a, b] => '0' ≤ a && a ≤ '5' && b.isDigit
    | _ => false
  | _ => false

def isBased (mark : Text) (isDigit : Char → Bool) (t : Text) : Bool :=
  match Text.afterStart mark t with
  | some digits => !digits.isEmpty && digits.all fun c => isDigit c || c == '_'
  | none => false

def isHexDigit (c : Char) : Bool := (Text.hexValue c).isSome

def isInt (t : Text) : Bool :=
  let t := unsigned t
  isBased "0b".toList (fun c => c == '0' || c == '1') t ||
    isBased ['0'] (fun c => '0' ≤ c && c ≤ '7') t ||
    isBased "0x".toList isHexDigit t ||
    t == ['0'] ||
    match t with
    | c :: rest =>
      '1' ≤ c && c ≤ '9' &&
        ((rest.dropWhile isDigitOrGap).isEmpty || isSixties (rest.dropWhile isDigitOrGap))
    | [] => false

def isExponent (t : Text) : Bool :=
  match t with
  | [] => true
  | e :: sign :: digits =>
    (e == 'e' || e == 'E') && (sign == '+' || sign == '-') && !digits.isEmpty &&
      digits.all Char.isDigit
  | _ => false

def isFraction (t : Text) : Bool :=
  match t with
  | '.' :: rest => isExponent (rest.dropWhile isDigitOrGap)
  | _ => false

def isSixtiesFraction (t : Text) : Bool :=
  isSixties (t.takeWhile (· != '.')) &&
    match t.dropWhile (· != '.') with
    | '.' :: rest => rest.all isDigitOrGap
    | _ => false

def isFloat (t : Text) : Bool :=
  infinityWords.contains (unsigned t) || nanWords.contains t ||
    match t with
    | '.' :: c :: rest => c.isDigit && isExponent (rest.dropWhile isDigitOrGap)
    | _ =>
      match unsigned t with
      | c :: rest =>
        c.isDigit && (isFraction (rest.dropWhile isDigitOrGap) ||
          isSixtiesFraction (rest.dropWhile isDigitOrGap))
      | [] => false

end TemplateCompiler.Yaml
