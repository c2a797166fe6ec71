import TemplateCompiler.Moment
import TemplateCompiler.Yaml.Cursor
import TemplateCompiler.Yaml.Tag

/-! Dates and times as YAML writes them. -/

namespace TemplateCompiler.Yaml

def takeOneOrTwo (t : Text) : Option (Nat × Nat × Text) :=
  let digits := (t.takeWhile Char.isDigit).take 2
  if digits.isEmpty then none
  else some (digits.foldl (fun n d => n * 10 + (d.toNat - 48)) 0, digits.length,
    t.drop digits.length)

def takeTwo (t : Text) : Option (Nat × Text) :=
  (takeOneOrTwo t).bind fun (n, width, rest) => if width = 2 then some (n, rest) else none

def takeChar (c : Char) (t : Text) : Option Text := Text.afterStart [c] t

def takeDate (t : Text) : Option (Nat × Nat × Nat × Bool × Text) := do
  let (century, rest) ← takeTwo t
  let (year, rest) ← takeTwo rest
  let (month, monthWidth, rest) ← takeOneOrTwo (← takeChar '-' rest)
  let (day, dayWidth, rest) ← takeOneOrTwo (← takeChar '-' rest)
  return (century * 100 + year, month, day, monthWidth = 2 && dayWidth = 2, rest)

def microseconds (digits : Text) : Nat :=
  ((digits.take 6) ++ List.replicate (6 - digits.length) '0').foldl
    (fun n d => n * 10 + (d.toNat - 48)) 0

def takeZone (t : Text) : Option (Option Int) :=
  match t.dropWhile isSpaceOrTab with
  | [] => if t.isEmpty then some none else none
  | ['Z'] => some (some 0)
  | sign :: rest =>
    if sign = '+' ∨ sign = '-' then do
      let (hours, _, rest) ← takeOneOrTwo rest
      let minutes ← match rest with
        | [] => some 0
        | ':' :: rest =>
          (takeTwo rest).bind fun (n, rest) => if rest.isEmpty then some n else none
        | _ => none
      let distance : Int := hours * 60 + minutes
      return some (if sign = '-' then -distance else distance)
    else none

def takeTime (t : Text) : Option TimeOfDay := do
  let t ← match t with
    | c :: rest =>
      if c = 'T' ∨ c = 't' then some rest
      else if isSpaceOrTab c then some (rest.dropWhile isSpaceOrTab)
      else none
    | [] => none
  let (hour, _, rest) ← takeOneOrTwo t
  let (minute, rest) ← takeTwo (← takeChar ':' rest)
  let (second, rest) ← takeTwo (← takeChar ':' rest)
  let (fraction, rest) := match rest with
    | '.' :: rest => (rest.takeWhile Char.isDigit, rest.dropWhile Char.isDigit)
    | rest => ([], rest)
  return ⟨hour, minute, second, microseconds fraction, ← takeZone rest⟩

/-- A moment in a text, and whether the text is in a form that needs no tag. -/
def takeMoment (t : Text) : Option (Moment × Bool) := do
  let (year, month, day, full, rest) ← takeDate t
  if rest.isEmpty then return (⟨year, month, day, none⟩, full)
  else return (⟨year, month, day, some (← takeTime rest)⟩, true)

def isTimestamp (t : Text) : Bool := (takeMoment t).any Prod.snd

def withoutLineEnd (t : Text) : Text :=
  if 1 < t.length && t.getLast? = some '\n' then t.dropLast else t

def tagOfLine (t : Text) : Tag :=
  if trueWords.contains t || falseWords.contains t then .bool
  else if isFloat t then .float
  else if isInt t then .int
  else if t = "<<".toList then .merge
  else if nullWords.contains t then .null
  else if isTimestamp t then .timestamp
  else if t = ['='] then .defaultValue
  else if t = ['!'] || t = ['&'] || t = ['*'] then .reserved
  else .text

/-- The kind that a plain scalar has by its text, after which a line feed may stand. -/
def tagOfPlain (t : Text) : Tag := tagOfLine (withoutLineEnd t)

end TemplateCompiler.Yaml
