import TemplateCompiler.Text.Basic

/-! Decimal notation of binary floating-point numbers: the fewest digits that read back as the
number, and among those the nearest. -/

namespace TemplateCompiler

structure Decimal where
  negative : Bool
  digits : Nat
  exponent : Int
deriving DecidableEq, Repr

namespace Decimal

structure Binary where
  negative : Bool
  significand : Nat
  exponent : Int
deriving DecidableEq

def leadingBit : Nat := 1 <<< 52

def Binary.ofFloat? (x : Float) : Option Binary :=
  let bits : Nat := x.toBits.toNat
  let biased := bits / leadingBit % 2048
  let fraction := bits % leadingBit
  let negative := decide (1 <<< 63 ≤ bits)
  if biased = 2047 then none
  else if biased = 0 then some ⟨negative, fraction, -1074⟩
  else some ⟨negative, fraction + leadingBit, (biased : Int) - 1075⟩

def scaled (base n : Nat) : Int → Nat × Nat
  | .ofNat e => (n * Nat.pow base e, 1)
  | .negSucc e => (n, Nat.pow base (e + 1))

/-- The numbers that round to a given one: between `low / den` and `high / den`, with the ends
when `closed`. The number itself is `mid / den`. -/
structure Interval where
  low : Nat
  mid : Nat
  high : Nat
  den : Nat
  closed : Bool

def Binary.interval (b : Binary) : Interval :=
  let (unit, den) := scaled 2 1 (b.exponent - 2)
  let below := if b.significand = leadingBit ∧ -1074 < b.exponent then 1 else 2
  ⟨(4 * b.significand - below) * unit, 4 * b.significand * unit, (4 * b.significand + 2) * unit,
    den, b.significand % 2 == 0⟩

def Interval.holds (i : Interval) (c : Nat) (k : Int) : Bool :=
  let (num, den) := scaled 10 c k
  let x := num * i.den
  let low := i.low * den
  let high := i.high * den
  if i.closed then low ≤ x && x ≤ high else low < x && x < high

def Interval.floor (i : Interval) (k : Int) : Nat × Bool :=
  let (num, den) := scaled 10 1 k
  let whole := i.mid * den / (i.den * num)
  let rest := i.mid * den % (i.den * num)
  (whole, i.den * num < 2 * rest || (i.den * num = 2 * rest && whole % 2 = 1))

def Interval.onGrid? (i : Interval) (k : Int) : Option Nat :=
  let (whole, up) := i.floor k
  let (first, second) := if up then (whole + 1, whole) else (whole, whole + 1)
  if i.holds first k then some first else if i.holds second k then some second else none

def Interval.search (i : Interval) (k : Int) : Nat → Nat × Int
  | 0 => ((i.floor k).1, k)
  | steps + 1 =>
    match i.onGrid? k with
    | some c => (c, k)
    | none => search i (k - 1) steps

def trimZeros (digits : Nat) (exponent : Int) : Nat → Nat × Int
  | 0 => (digits, exponent)
  | fuel + 1 =>
    if digits ≠ 0 ∧ digits % 10 = 0 then trimZeros (digits / 10) (exponent + 1) fuel
    else (digits, exponent)

/-- The greatest `e` with `10 ^ e` at most the number, found from a first guess that is no
larger than three below it. -/
def leadingExponent (mid den : Nat) (guess : Int) : Nat → Int
  | 0 => guess
  | fuel + 1 =>
    let (num, scale) := scaled 10 1 (guess + 1)
    if num * den ≤ mid * scale then leadingExponent mid den (guess + 1) fuel else guess

def Binary.shortest (b : Binary) : Decimal :=
  if b.significand = 0 then ⟨b.negative, 0, 0⟩
  else
    let i := b.interval
    let log2 : Int := (b.significand.log2 : Int) + b.exponent
    let guess := log2 * 30103 / 100000 - 1
    let top := leadingExponent i.mid i.den guess 4
    let (c, k) := i.search top 17
    let (digits, exponent) := trimZeros c k 20
    ⟨b.negative, digits, exponent⟩

def pointPlace (d : Decimal) : Int := (Text.ofNat d.digits).length + d.exponent

/-- Positional from a ten-thousandth up to sixteen digits before the point, always with a digit
after the point; else with an exponent of at least two digits. -/
def toText (d : Decimal) : Text :=
  let digits := Text.ofNat d.digits
  let place := d.pointPlace
  let body :=
    if d.digits = 0 then "0.0".toList
    else if -4 < place ∧ place ≤ 16 then
      if place ≤ 0 then "0.".toList ++ List.replicate (-place).toNat '0' ++ digits
      else if d.exponent < 0 then
        digits.take place.toNat ++ '.' :: digits.drop place.toNat
      else digits ++ List.replicate d.exponent.toNat '0' ++ ".0".toList
    else
      let e := place - 1
      let tail := match digits with
        | c :: rest => if rest.isEmpty then [c] else c :: '.' :: rest
        | [] => []
      let size := Text.ofNat e.natAbs
      tail ++ 'e' :: (if e < 0 then '-' else '+') ::
        (if size.length < 2 then '0' :: size else size)
  if d.negative then '-' :: body else body

end Decimal

def floatText (x : Float) : Text :=
  match Decimal.Binary.ofFloat? x with
  | some b => b.shortest.toText
  | none =>
    if x.isNaN then "nan".toList
    else if x < 0.0 then "-inf".toList
    else "inf".toList

def floatOfDecimal (d : Decimal) : Float :=
  let place := d.pointPlace
  let x : Float :=
    if d.digits = 0 then 0.0
    else if 400 < place then 1.0 / 0.0
    else if place < -400 then 0.0
    else match d.exponent with
      | .ofNat e => Float.ofScientific (d.digits * Nat.pow 10 e) false 0
      | .negSucc e => Float.ofScientific d.digits true (e + 1)
  if d.negative then -x else x

end TemplateCompiler
