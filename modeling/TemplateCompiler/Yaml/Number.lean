import TemplateCompiler.Failure
import TemplateCompiler.Text.Case

/-! The numbers of YAML scalars. Underscores in them count for nothing, and colons divide them into
groups of sixty. -/

namespace TemplateCompiler.Yaml

def withoutGaps (t : Text) : Text := t.filter (· != '_')

def splitSign (t : Text) : Bool × Text :=
  match t with
  | '-' :: rest => (true, rest)
  | '+' :: rest => (false, rest)
  | _ => (false, t)

def groupsOf (t : Text) : List Text := Text.splitOn (· == ':') t

def unsignedInt (t : Text) : Except Failure Int :=
  match t with
  | [] => .error .emptyNumber
  | ['0'] => .ok 0
  | '0' :: 'b' :: digits => Failure.readInteger 2 digits
  | '0' :: 'x' :: digits => Failure.readInteger 16 digits
  | '0' :: _ => Failure.readInteger 8 t
  | _ =>
    if t.contains ':' then
      ((groupsOf t).mapM (Failure.readInteger 10)).map fun groups =>
        groups.foldl (fun n g => n * 60 + g) 0
    else Failure.readInteger 10 t

def readInt (t : Text) : Except Failure Int :=
  let t := withoutGaps t
  if t.isEmpty then .error .emptyNumber
  else
    let (negative, digits) := splitSign t
    (unsignedInt digits).map fun n => if negative then -n else n

def unsignedFloat? (t : Text) : Option Float := do
  let word := Text.lower t
  if word = "inf".toList || word = "infinity".toList then return 1.0 / 0.0
  if word = "nan".toList then return 0.0 / 0.0
  let digits := t.takeWhile Char.isDigit
  let (fraction, rest) := match t.dropWhile Char.isDigit with
    | '.' :: rest => (rest.takeWhile Char.isDigit, rest.dropWhile Char.isDigit)
    | rest => ([], rest)
  if digits.isEmpty && fraction.isEmpty then none
  let exponent : Int ← match rest with
    | [] => some 0
    | e :: rest =>
      let (negative, size) := splitSign rest
      if (e = 'e' ∨ e = 'E') ∧ !size.isEmpty ∧ size.all Char.isDigit then
        let n : Int := size.foldl (fun n d => n * 10 + (d.toNat - 48)) 0
        some (if negative then -n else n)
      else none
  return floatOfDecimal
    ⟨false, (digits ++ fraction).foldl (fun n d => n * 10 + (d.toNat - 48)) 0,
      exponent - fraction.length⟩

def readDecimal (t : Text) : Except Failure Float :=
  let trimmed := Text.dropEndWhile Text.isNumberGap
    ((Text.asciiNumerals t).dropWhile Text.isNumberGap)
  let (negative, digits) := splitSign trimmed
  match unsignedFloat? digits with
  | some x => .ok (if negative then -x else x)
  | none => .error (.badFloat t)

/-- The greatest number of groups: the unit of one more, a power of sixty, exceeds every number
that has a fraction. -/
def groupLimit : Nat := 174

def addSixties (groups : List Float) : Except Failure Float :=
  if groupLimit < groups.length then .error .hugeUnit
  else .ok (groups.reverse.foldl (fun (sum, unit) g => (sum + g * Float.ofNat unit, unit * 60))
    ((0.0, 1))).1

def unsignedFloat (t : Text) : Except Failure Float :=
  if t = ".inf".toList then .ok (1.0 / 0.0)
  else if t.contains ':' then ((groupsOf t).mapM readDecimal).bind addSixties
  else readDecimal t

/-- The one word for what is no number that is the same wherever it stands. -/
def nanWord : Text := ".nan".toList

def readFloat (mark : Nat) (t : Text) : Except Failure Value :=
  let t := Text.lower (withoutGaps t)
  if t.isEmpty then .error .emptyNumber
  else
    let (negative, digits) := splitSign t
    if digits = nanWord then .ok (.nan 0)
    else (unsignedFloat digits).map fun x =>
      if x.isNaN then .nan (mark + 1) else .float (if negative then -x else x)

end TemplateCompiler.Yaml
