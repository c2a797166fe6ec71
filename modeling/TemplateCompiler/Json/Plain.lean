import TemplateCompiler.Encoding.Source
import TemplateCompiler.SlotOrder

/-! The values that JSON has a form for. Bytes are the text that they encode, a moment is its
text, and sets and entries are lists; the items of a set are put together anew, one by one. A
number that is not finite has no form, nor has half a character, a whole number of too many digits
or a value that occurs inside itself. -/

namespace TemplateCompiler.Value

def isFinite (x : Float) : Bool := (Decimal.Binary.ofFloat? x).isSome

/-- Entries whose keys are texts with this start are left out. -/
def hiddenStart : Text := "_sa".toList

def isHidden : Value → Bool
  | .text key => hiddenStart.isPrefixOf key
  | _ => false

def plainText? (t : Text) : Option Value := if Text.isWhole t then some (.text t) else none

mutual

def plain? : Value → Option Value
  | .null => some .null
  | .bool b => some (.bool b)
  | .int n => if isLongInteger n then none else some (.int n)
  | .float x => if isFinite x then some (.float x) else none
  | .nan _ => none
  | .text t => plainText? t
  | .bytes bs => ((Encoding.decodeStrict .utf8 [] bs).toOption).bind plainText?
  | .moment m => some (.text (m.toText 'T'))
  | .list items => (plainItems? items).map .list
  | .pair key value =>
    (plain? key).bind fun key => (plain? value).map fun value => .list [key, value]
  | .set items => (plainItems? items).map fun items => .list (SlotOrder.orderOneByOne items)
  | .map entries => (plainFields? entries).map fun es =>
      .map (es.foldl (fun done e => putEntry e.1 e.2 done) [])
  | .loop .. => none
  | .back .. => none

def plainItems? : List Value → Option (List Value)
  | [] => some []
  | x :: xs => (plain? x).bind fun x => (plainItems? xs).map (x :: ·)

def plainFields? : List (Value × Value) → Option (List (Value × Value))
  | [] => some []
  | x :: xs =>
    if x.1.isHidden then plainFields? xs
    else (plainField? x).bind fun x => (plainFields? xs).map (x :: ·)

def plainField? : Value × Value → Option (Value × Value)
  | (key, value) => (plain? key).bind fun key => (plain? value).map fun value => (key, value)

end

end TemplateCompiler.Value
