import TemplateCompiler.Decimal
import TemplateCompiler.Moment
import TemplateCompiler.Text.Integer
import TemplateCompiler.Text.Quoted

/-! The values of a profile document. Arguments of customizations are such values, checked only
where they are used, so they also stand in the code model as base types and attribute
arguments. -/

namespace TemplateCompiler

inductive Value where
  | null
  | bool (b : Bool)
  | int (n : Int)
  | float (x : Float)
  /-- What is no number. Two of these are the same only if they have the same mark. -/
  | nan (mark : Nat)
  | text (t : Text)
  | bytes (bs : List UInt8)
  | moment (m : Moment)
  | list (items : List Value)
  | pair (key value : Value)
  | set (items : List Value)
  | map (entries : List (Value × Value))
  /-- A list or mapping that occurs inside itself, with a number to know it by. -/
  | loop (id : Nat) (body : Value)
  /-- A place inside a loop that stands for the whole loop, which is a list or a mapping. -/
  | back (id : Nat) (isList : Bool)
deriving Inhabited, BEq, Repr

namespace Value

def kindName : Value → Text
  | .null => "NoneType".toList
  | .bool _ => "bool".toList
  | .int _ => "int".toList
  | .float _ => "float".toList
  | .nan _ => "float".toList
  | .text _ => "str".toList
  | .bytes _ => "bytes".toList
  | .moment m => m.kindName
  | .list _ => "list".toList
  | .pair .. => "tuple".toList
  | .set _ => "set".toList
  | .map _ => "dict".toList
  | .loop _ body => body.kindName
  | .back _ isList => if isList then "list".toList else "dict".toList

def truthy : Value → Bool
  | .null => false
  | .bool b => b
  | .int n => n != 0
  | .float x => !(x == 0.0)
  | .text t => !t.isEmpty
  | .bytes bs => !bs.isEmpty
  | .list items => !items.isEmpty
  | .set items => !items.isEmpty
  | .map entries => !entries.isEmpty
  | _ => true

def text? : Value → Option Text
  | .text t => some t
  | _ => none

def number? : Value → Option (Int × Int)
  | .bool b => some (if b then 1 else 0, 0)
  | .int n => some (n, 0)
  | .float x =>
    (Decimal.Binary.ofFloat? x).map fun b =>
      (if b.negative then -(b.significand : Int) else b.significand, b.exponent)
  | _ => none

def sameNumber (a b : Int × Int) : Bool :=
  if a.2 ≤ b.2 then a.1 = b.1 * Nat.pow 2 (b.2 - a.2).toNat
  else a.1 * Nat.pow 2 (a.2 - b.2).toNat = b.1

mutual

/-- Equality by value: numbers whatever their kind, sets and mappings whatever their order. -/
def same : Value → Value → Bool
  | .null, .null => true
  | .text s, .text t => s == t
  | .bytes s, .bytes t => s == t
  | .moment m, .moment n => m.same n
  | .nan m, .nan n => m == n
  | .list xs, .list ys => sameList xs ys
  | .pair k v, .pair k' v' => same k k' && same v v'
  | .set xs, .set ys => xs.length == ys.length && sameItems xs ys
  | .map xs, .map ys => xs.length == ys.length && sameEntries xs ys
  | .loop i _, .loop j _ => i == j
  | .back i _, .back j _ => i == j
  | .float x, .float y => x == y
  | a, b =>
    match number? a, number? b with
    | some m, some n => sameNumber m n
    | _, _ => false

def sameList : List Value → List Value → Bool
  | [], [] => true
  | x :: xs, y :: ys => same x y && sameList xs ys
  | _, _ => false

def sameItems : List Value → List Value → Bool
  | [], _ => true
  | x :: xs, ys => ys.any (fun y => same x y) && sameItems xs ys

def sameEntries : List (Value × Value) → List (Value × Value) → Bool
  | [], _ => true
  | x :: xs, ys => sameEntry x ys && sameEntries xs ys

def sameEntry : Value × Value → List (Value × Value) → Bool
  | (key, value), ys => ys.any fun y => same key y.1 && same value y.2

end

def loopLiteral (isList : Bool) : Text :=
  if isList then "[...]".toList else "\x7b...\x7d".toList

def isList : Value → Bool
  | .list _ => true
  | _ => false

mutual

def literalIn (around : List Nat) : Value → Text
  | .null => "None".toList
  | .bool b => if b then "True".toList else "False".toList
  | .int n => Text.ofInt n
  | .float x => floatText x
  | .nan _ => "nan".toList
  | .text t => t.quoted
  | .bytes bs => Text.quotedBytes bs
  | .moment m => m.literal
  | .list items => '[' :: Text.joinWith ", ".toList (literals around items) ++ [']']
  | .pair key value =>
    '(' :: literalIn around key ++ ", ".toList ++ literalIn around value ++ [')']
  | .set items =>
    if items.isEmpty then "set()".toList
    else '\x7b' :: Text.joinWith ", ".toList (literals around items) ++ ['\x7d']
  | .map entries =>
    '\x7b' :: Text.joinWith ", ".toList (literalEntries around entries) ++ ['\x7d']
  | .loop id body =>
    if around.contains id then loopLiteral body.isList else literalIn (id :: around) body
  | .back _ isList => loopLiteral isList

def literals (around : List Nat) : List Value → List Text
  | [] => []
  | x :: xs => literalIn around x :: literals around xs

def literalEntries (around : List Nat) : List (Value × Value) → List Text
  | [] => []
  | x :: xs => literalEntry around x :: literalEntries around xs

def literalEntry (around : List Nat) : Value × Value → Text
  | (key, value) => literalIn around key ++ ": ".toList ++ literalIn around value

end

def literal (v : Value) : Text := v.literalIn []

def display : Value → Text
  | .text t => t
  | .moment m => m.toText ' '
  | v => v.literal

def isLongInteger (n : Int) : Bool :=
  14000 < n.natAbs.log2 && Nat.pow 10 Text.digitLimit ≤ n.natAbs

mutual

/-- Whether a value has a text: every whole number in it is short enough. -/
def isWritable : Value → Bool
  | .int n => !isLongInteger n
  | .list items => areWritable items
  | .pair key value => isWritable key && isWritable value
  | .set items => areWritable items
  | .map entries => areEntriesWritable entries
  | .loop _ body => isWritable body
  | _ => true

def areWritable : List Value → Bool
  | [] => true
  | x :: xs => isWritable x && areWritable xs

def areEntriesWritable : List (Value × Value) → Bool
  | [] => true
  | x :: xs => isEntryWritable x && areEntriesWritable xs

def isEntryWritable : Value × Value → Bool
  | (key, value) => isWritable key && isWritable value

end

def unkeyedPart? : Value → Option Value
  | .list items => some (.list items)
  | .set items => some (.set items)
  | .map entries => some (.map entries)
  | .loop id body => some (.loop id body)
  | .back id isList => some (.back id isList)
  | .pair key value => (unkeyedPart? key).or (unkeyedPart? value)
  | _ => none

def isKey (v : Value) : Bool := v.unkeyedPart?.isNone

mutual

/-- Puts a whole loop where places inside it stand for it. -/
def tie (id : Nat) (whole : Value) : Value → Value
  | .list items => .list (tieItems id whole items)
  | .pair key value => .pair (tie id whole key) (tie id whole value)
  | .map entries => .map (tieEntries id whole entries)
  | .loop i body => if i = id then .loop i body else .loop i (tie id whole body)
  | .back i isList => if i = id then whole else .back i isList
  | v => v

def tieItems (id : Nat) (whole : Value) : List Value → List Value
  | [] => []
  | x :: xs => tie id whole x :: tieItems id whole xs

def tieEntries (id : Nat) (whole : Value) : List (Value × Value) → List (Value × Value)
  | [] => []
  | x :: xs => tieEntry id whole x :: tieEntries id whole xs

def tieEntry (id : Nat) (whole : Value) : Value × Value → Value × Value
  | (key, value) => (key, tie id whole value)

end

mutual

def mentions (id : Nat) : Value → Bool
  | .list items => mentionsAny id items
  | .pair key value => mentions id key || mentions id value
  | .map entries => mentionsInEntries id entries
  | .loop i body => i != id && mentions id body
  | .back i _ => i == id
  | _ => false

def mentionsAny (id : Nat) : List Value → Bool
  | [] => false
  | x :: xs => mentions id x || mentionsAny id xs

def mentionsInEntries (id : Nat) : List (Value × Value) → Bool
  | [] => false
  | x :: xs => mentionsInEntry id x || mentionsInEntries id xs

def mentionsInEntry (id : Nat) : Value × Value → Bool
  | (_, value) => mentions id value

end

def content : Value → Value
  | .loop id body => tie id (.loop id body) body
  | v => v

def items? (v : Value) : Option (List Value) :=
  match v.content with
  | .text t => some (t.map fun c => .text [c])
  | .bytes bs => some (bs.map fun b => .int b.toNat)
  | .list items => some items
  | .pair key value => some [key, value]
  | .set items => some items
  | .map entries => some (entries.map Prod.fst)
  | _ => none

def field? (key : Text) (v : Value) : Option Value :=
  match v.content with
  | .map entries => (entries.find? fun e => e.1.same (.text key)).map Prod.snd
  | _ => none

def putEntry (key value : Value) : List (Value × Value) → List (Value × Value)
  | [] => [(key, value)]
  | (k, v) :: rest =>
    if k.same key then (k, value) :: rest else (k, v) :: putEntry key value rest

def trimmedBytes (bs : List UInt8) : Text :=
  let isGap (b : UInt8) : Bool := Text.isNumberGap (Char.ofNat b.toNat)
  let inner := ((bs.dropWhile isGap).reverse.dropWhile isGap).reverse
  if inner.isEmpty then [] else Text.quotedBytes inner

end Value

end TemplateCompiler
